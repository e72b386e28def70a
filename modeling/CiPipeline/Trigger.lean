set_option autoImplicit false

/-! # Triggers

The two events that start a workflow.
-/

namespace CiPipeline

/-- What starts a workflow: a proposed change, or a push to the main branch. -/
inductive Trigger where
  | codeChangeRequest
  | push
  deriving DecidableEq, Inhabited

namespace Trigger

/-- Every trigger, in the order in which workflows are built. -/
def all : List Trigger := [codeChangeRequest, push]

/-- The name of a trigger in definitions and logs. -/
def name : Trigger → String
  | codeChangeRequest => "code_change_request"
  | push => "push"

end Trigger

end CiPipeline

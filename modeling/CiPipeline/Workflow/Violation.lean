set_option autoImplicit false

/-! # Violations

What can be wrong with the jobs of a workflow, with the texts that tell a user about it.
-/

namespace CiPipeline

/-- How a step is referred to: by its name, or by its position counted from one. -/
inductive StepLabel where
  | named (name : String)
  | numbered (n : Nat)
  deriving DecidableEq, Inhabited

/-- A name in quotation marks, or a number after `#`. -/
def StepLabel.text : StepLabel → String
  | named name => "\"" ++ name ++ "\""
  | numbered n => "#" ++ toString n

/-- A rule that a workflow breaks. -/
inductive Violation where
  | invalidWorkflowName (workflow : String)
  | duplicateJob (workflow job : String)
  | jobWithoutSteps (job : String)
  | emptyStep (job : String) (step : StepLabel)
  | missingDependency (job dependency : String)
  | cyclicDependency (workflow : String) (jobs : List String)
  deriving DecidableEq, Inhabited

namespace Violation

/-- The message shown. -/
def message : Violation → String
  | invalidWorkflowName workflow =>
      "workflow name \"" ++ workflow ++ "\" contains a path separator"
  | duplicateJob workflow job =>
      "DuplicateJobError: job \"" ++ job ++ "\" is registered more than once in workflow \""
        ++ workflow ++ "\""
  | jobWithoutSteps job => "job \"" ++ job ++ "\" has no steps"
  | emptyStep job step =>
      "EmptyStepError: step " ++ step.text ++ " of job \"" ++ job ++ "\" has no commands"
  | missingDependency job dependency =>
      "DependencyError: job \"" ++ dependency ++ "\" referenced by \"" ++ job
        ++ "\" does not exist"
  | cyclicDependency workflow jobs =>
      "dependency cycle in workflow \"" ++ workflow ++ "\" between jobs: "
        ++ String.intercalate ", " jobs

/-- The code that names the rule. -/
def code : Violation → String
  | invalidWorkflowName _ => "cicd::pipeline::invalid_workflow_name"
  | duplicateJob _ _ => "cicd::pipeline::duplicate_job"
  | jobWithoutSteps _ => "cicd::pipeline::job_without_steps"
  | emptyStep _ _ => "cicd::pipeline::empty_step"
  | missingDependency _ _ => "cicd::pipeline::missing_dependency"
  | cyclicDependency _ _ => "cicd::pipeline::cyclic_dependency"

/-- Advice, where there is any. -/
def help : Violation → Option String
  | invalidWorkflowName _ =>
      some ("Workflow files must sit directly in the workflows directory; "
        ++ "drop '/' and '\\' from the name")
  | duplicateJob _ _ =>
      some "Job names are used as provider job keys and must be unique within a workflow"
  | jobWithoutSteps _ => none
  | emptyStep _ _ => some "Every step needs at least one shell command"
  | missingDependency _ _ =>
      some "Dependencies are resolved by job name within the same workflow"
  | cyclicDependency _ _ =>
      some "Remove one of the job or artifact dependencies so the jobs can be ordered"

end Violation

end CiPipeline

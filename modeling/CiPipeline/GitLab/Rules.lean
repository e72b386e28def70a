import CiPipeline.Decode.Record
import CiPipeline.Trigger

set_option autoImplicit false

/-! # Rules for GitLab includes

A list of rules is read from top to bottom, and the first one that matches counts. The
conditions of a rule that must all hold are one expression, joined by `&&`.
-/

namespace CiPipeline.GitLab

open Decode

/-- An entry of a list of rules. -/
structure Rule where
  condition : Option String
  occasion : Option String
  deriving DecidableEq, Inhabited

namespace Rule

/-- A rule that matches when the expression is true. -/
def whenTrue (expression : String) : Rule := ⟨some expression, none⟩

/-- A rule that excludes everything. -/
def never : Rule := ⟨none, some "never"⟩

def toTree (r : Rule) : Tree :=
  .record [Tree.optional "if" .str r.condition, Tree.optional "when" .str r.occasion]

end Rule

/-- The expressions that guard the workflow of each trigger. -/
structure TriggerRules where
  codeChangeRequest : List String
  push : List String
  deriving DecidableEq

namespace TriggerRules

/-- The conditions of a merge request to the main branch. -/
def mergeRequestConditions : List String := [
  "$CI_PIPELINE_SOURCE == \"merge_request_event\"",
  "$CI_MERGE_REQUEST_TARGET_BRANCH_NAME == $CI_DEFAULT_BRANCH"]

/-- The conditions of a push to the main branch. -/
def pushConditions : List String := [
  "$CI_PIPELINE_SOURCE == \"push\"",
  "$CI_COMMIT_BRANCH == $CI_DEFAULT_BRANCH"]

/-- The rules of a section that sets none. -/
def unset : TriggerRules :=
  ⟨[String.intercalate " && " mergeRequestConditions],
    [String.intercalate " && " pushConditions]⟩

instance : Inhabited TriggerRules := ⟨unset⟩

/-- The expressions for a trigger. -/
def expressions (rules : TriggerRules) : Trigger → List String
  | .codeChangeRequest => rules.codeChangeRequest
  | .push => rules.push

/-- The list of rules for a trigger. -/
def rulesFor (rules : TriggerRules) (t : Trigger) : List Rule :=
  (rules.expressions t).map .whenTrue

def toTree (rules : TriggerRules) : Tree :=
  .record [
    Tree.field "code_change_request" (Tree.strings rules.codeChangeRequest),
    Tree.field "push" (Tree.strings rules.push)]

def shape : Shape TriggerRules where
  title := "struct TriggerRules"
  blank := unset
  fields := [
    .allow "code_change_request" (list string) fun v r => { r with codeChangeRequest := v },
    .allow "push" (list string) fun v r => { r with push := v }]

def decode : Decoder TriggerRules := shape.decode

end TriggerRules

end CiPipeline.GitLab

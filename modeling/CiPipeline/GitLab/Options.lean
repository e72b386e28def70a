import CiPipeline.GitLab.Rules

set_option autoImplicit false

/-! # Options for GitLab

What a definition can set for all GitLab workflows. Options that are not set keep the values
given here; all of them are written.
-/

namespace CiPipeline.GitLab

open Decode

/-- The options of a definition's GitLab section. -/
structure Options where
  codeChangeRequestWorkflowName : String
  pushWorkflowName : String
  services : List String
  beforeScript : List String
  defaultTags : List String
  artifactExpiry : String
  manualJobs : NameSet
  rules : TriggerRules
  placeholderJob : Bool
  deriving DecidableEq

namespace Options

/-- The options of a section that sets none. -/
def unset : Options where
  codeChangeRequestWorkflowName := "Merge Request"
  pushWorkflowName := "Push to Main"
  services := []
  beforeScript := []
  defaultTags := []
  artifactExpiry := "30 days"
  manualJobs := .empty
  rules := .unset
  placeholderJob := false

instance : Inhabited Options := ⟨unset⟩

/-- The options as the entries of a map. -/
def entries (o : Options) : List (String × Tree) := [
  ("code_change_request_workflow_name", .str o.codeChangeRequestWorkflowName),
  ("push_workflow_name", .str o.pushWorkflowName),
  ("services", Tree.strings o.services),
  ("before_script", Tree.strings o.beforeScript),
  ("default_tags", Tree.strings o.defaultTags),
  ("artifact_expiry", .str o.artifactExpiry),
  ("manual_jobs", Tree.strings o.manualJobs.keys),
  ("rules", o.rules.toTree),
  ("placeholder_job", .bool o.placeholderJob)]

def toTree (o : Options) : Tree := .map o.entries

def shape : Shape Options where
  title := "struct GitLabOptions"
  blank := unset
  fields := [
    .allow "code_change_request_workflow_name" string
      fun v o => { o with codeChangeRequestWorkflowName := v },
    .allow "push_workflow_name" string fun v o => { o with pushWorkflowName := v },
    .allow "services" (list string) fun v o => { o with services := v },
    .allow "before_script" (list string) fun v o => { o with beforeScript := v },
    .allow "default_tags" (list string) fun v o => { o with defaultTags := v },
    .allow "artifact_expiry" string fun v o => { o with artifactExpiry := v },
    .allow "manual_jobs" names fun v o => { o with manualJobs := v },
    .allow "rules" TriggerRules.decode fun v o => { o with rules := v },
    .allow "placeholder_job" bool fun v o => { o with placeholderJob := v }]

def decode : Decoder Options := shape.decode

end Options

end CiPipeline.GitLab

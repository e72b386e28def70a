import CiPipeline.Decode.Record

set_option autoImplicit false

/-! # Options for GitHub

What a definition can set for all GitHub workflows. Options that are not set keep the values
given here; all of them are written.
-/

namespace CiPipeline.GitHub

open Decode

/-- The options of a definition's GitHub section. -/
structure Options where
  codeChangeRequestWorkflowName : String
  pushWorkflowName : String
  defaultRunner : String
  branches : List String
  deriving DecidableEq

namespace Options

/-- The options of a section that sets none. -/
def unset : Options := ⟨"Pull Request", "Push to Main", "ubuntu-latest", ["main"]⟩

instance : Inhabited Options := ⟨unset⟩

/-- The options as the entries of a map. -/
def entries (o : Options) : List (String × Tree) := [
  ("code_change_request_workflow_name", .str o.codeChangeRequestWorkflowName),
  ("push_workflow_name", .str o.pushWorkflowName),
  ("default_runner", .str o.defaultRunner),
  ("branches", Tree.strings o.branches)]

def toTree (o : Options) : Tree := .map o.entries

def shape : Shape Options where
  title := "struct GitHubOptions"
  blank := unset
  fields := [
    .allow "code_change_request_workflow_name" string
      fun v o => { o with codeChangeRequestWorkflowName := v },
    .allow "push_workflow_name" string fun v o => { o with pushWorkflowName := v },
    .allow "default_runner" string fun v o => { o with defaultRunner := v },
    .allow "branches" (list string) fun v o => { o with branches := v }]

def decode : Decoder Options := shape.decode

end Options

end CiPipeline.GitHub

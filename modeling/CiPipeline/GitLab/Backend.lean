import CiPipeline.GitLab.Compiler
import CiPipeline.Render

set_option autoImplicit false

/-! # The GitLab backend

Besides the files of the workflows there is a top-level file, which includes each of them
under the rules of its trigger.
-/

namespace CiPipeline.GitLab

/-- How workflows are rendered for GitLab. -/
def Compiler.backend (c : Compiler) : Backend JobMap where
  provider := .gitLab
  compile := c.compile
  toTree := JobMap.toTree

/-! ## The top-level file -/

/-- The path of the top-level file. -/
def pipelineFile : String := ".gitlab-ci.yml"

/-- The key of the job that is never run. -/
def placeholderKey : String := "pipeline-placeholder"

/-- A job that is never run. -/
def placeholder : Job :=
  { (default : Job) with
    script := ["echo \"No jobs for this pipeline\""]
    rules := [.never] }

/-- The path under which a workflow's file is included. -/
def includePath (w : Workflow) : String :=
  w.provider.rootDir ++ "/workflows/" ++ w.slug ++ ".yml"

/-- The includes of the workflows that have jobs. -/
def includes (o : Options) (ws : List Workflow) : List Include :=
  (ws.filter (·.hasJobs)).map fun w => ⟨includePath w, o.rules.rulesFor w.trigger⟩

/-- The top-level document, if there is anything to include. -/
def pipeline (o : Options) (ws : List Workflow) : Option Pipeline :=
  if (includes o ws).isEmpty then none
  else
    some {
      services := o.services
      beforeScript := o.beforeScript
      includes := includes o ws
      jobs := .ofList (if o.placeholderJob then [(placeholderKey, placeholder)] else []) }

/-- Tells that there is nothing to include. -/
def nothingIncluded : Log.Entry :=
  { level := .info, target := "cicd_gitlab::pipeline",
    message := "No GitLab workflow has jobs, skipping " ++ pipelineFile, fields := [] }

/-- Tells of the top-level file. -/
def assembled (p : Pipeline) : Log.Entry :=
  { level := .info, target := "cicd_gitlab::pipeline", message := "Compiled GitLab pipeline",
    fields := [("includes", .number p.includes.length), ("path", .text pipelineFile)] }

/-- The top-level file, if there is anything to include. -/
def overview (o : Options) (ws : List Workflow) : Logged (Option GeneratedFile) :=
  match pipeline o ws with
  | none => do
      Logged.emit nothingIncluded
      pure none
  | some p => do
      Logged.emit (assembled p)
      pure (some ⟨⟨pipelineFile⟩, fileContent p.toTree⟩)

end CiPipeline.GitLab

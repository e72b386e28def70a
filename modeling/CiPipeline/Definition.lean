import CiPipeline.GitHub.Backend
import CiPipeline.GitLab.Backend
import CiPipeline.Section

set_option autoImplicit false

/-! # Definitions

A definition describes the workflows of both providers, or of one of them, or of none. Its
files are those of its sections: GitHub's first, then GitLab's. If any workflow breaks a
rule there are no files, only all the errors.
-/

namespace CiPipeline

open Decode

/-! ## The providers' sections -/

def GitHub.platform : Platform GitHub.Options GitHub.Document where
  title := "struct GitHubPipeline"
  shape := GitHub.Options.shape
  entries := GitHub.Options.entries
  workflowName o
    | .codeChangeRequest => o.codeChangeRequestWorkflowName
    | .push => o.pushWorkflowName
  backend o := (GitHub.Compiler.ofOptions o).backend
  overview _ _ := pure none

def GitLab.platform : Platform GitLab.Options GitLab.JobMap where
  title := "struct GitLabPipeline"
  shape := GitLab.Options.shape
  entries := GitLab.Options.entries
  workflowName o
    | .codeChangeRequest => o.codeChangeRequestWorkflowName
    | .push => o.pushWorkflowName
  backend o := (GitLab.Compiler.ofOptions o).backend
  overview := GitLab.overview


/-! ## Definitions -/

/-- The sections of a definition. -/
structure Definition where
  gitHub : Option (Section GitHub.Options)
  gitLab : Option (Section GitLab.Options)
  deriving DecidableEq, Inhabited

namespace Definition

/-- The file that a definition is read from, unless another one is named. -/
def defaultFile : String := "cicd.yaml"

def toTree (d : Definition) : Tree :=
  .record [
    Tree.optional "github" (Section.toTree GitHub.platform) d.gitHub,
    Tree.optional "gitlab" (Section.toTree GitLab.platform) d.gitLab]

def shape : Shape Definition where
  title := "struct PipelineDefinition"
  blank := ⟨none, none⟩
  fields := [
    .allow "github"
      (optional (Section.decode GitHub.platform.title GitHub.platform.shape))
      fun v d => { d with gitHub := v },
    .allow "gitlab"
      (optional (Section.decode GitLab.platform.title GitLab.platform.shape))
      fun v d => { d with gitLab := v }]

def decode : Decoder Definition := shape.decode

/-- Tells that there was nothing to generate. -/
def nothingProduced : Log.Entry :=
  { level := .warn, target := "cicd_component::definition",
    message := "Pipeline definition produced no files", fields := [] }

/-- The files and errors of a section, if there is one. -/
def sectionFiles {ρ δ : Type} (p : Platform ρ δ) :
    Option (Section ρ) → Logged (List GeneratedFile × List CompileError)
  | none => pure ([], [])
  | some s => do
      match ← s.synthesize p with
      | .ok files => pure (files, [])
      | .error errors => pure ([], errors)

/-- The files of a definition, or all the errors. -/
def synthesize (d : Definition) : Logged (Except (List CompileError) (List GeneratedFile)) := do
  let (hubFiles, hubErrors) ← sectionFiles GitHub.platform d.gitHub
  let (labFiles, labErrors) ← sectionFiles GitLab.platform d.gitLab
  if (hubErrors ++ labErrors).isEmpty then
    if (hubFiles ++ labFiles).isEmpty then Logged.emit nothingProduced
    pure (.ok (hubFiles ++ labFiles))
  else pure (.error (hubErrors ++ labErrors))

end Definition

end CiPipeline

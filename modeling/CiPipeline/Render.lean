import CiPipeline.Workflow.Basic
import CiPipeline.Yaml.Writer

set_option autoImplicit false

/-! # Rendering workflows

A backend turns workflows into documents of one provider. Rendering a workflow checks that
it belongs to the backend's provider and breaks no rule, and gives the file to write; a
workflow without jobs gives none.
-/

namespace CiPipeline

/-- A file to write. -/
structure GeneratedFile where
  path : Path
  content : String
  deriving DecidableEq, Inhabited

/-- The comment at the top of every generated file. -/
def header : String :=
  "# Generated by cicd - do not edit manually\n# Regenerate with: cicd compile\n\n"

/-- The content of the file for a document. -/
def fileContent (document : Tree) : String := header ++ Yaml.write document

/-- Why a workflow cannot be rendered. -/
inductive CompileError where
  | invalid (workflow : String) (violations : List Violation)
  | providerMismatch (workflow : String) (expected found : Provider)
  deriving DecidableEq, Inhabited

namespace CompileError

/-- The message shown. -/
def message : CompileError → String
  | invalid workflow violations =>
      "workflow \"" ++ workflow ++ "\" is invalid (" ++ toString violations.length
        ++ " problem(s) found)"
  | providerMismatch workflow expected found =>
      "workflow \"" ++ workflow ++ "\" targets " ++ found.name ++ " but was given to the "
        ++ expected.name ++ " compiler"

/-- The code that names the kind of error. -/
def code : CompileError → String
  | invalid _ _ => "cicd::pipeline::invalid_workflow"
  | providerMismatch _ _ _ => "cicd::pipeline::provider_mismatch"

end CompileError

/-- The workflow breaks no rule. -/
def Workflow.validate (w : Workflow) : Except CompileError Unit :=
  if w.violations.isEmpty then .ok () else .error (.invalid w.name w.violations)

/-- How the documents of a provider are made and written. -/
structure Backend (δ : Type) where
  provider : Provider
  compile : Workflow → Logged (Option δ)
  toTree : δ → Tree

namespace Backend

variable {δ : Type}

def logTarget : String := "cicd_pipeline::compiler"

/-- Tells of a workflow without jobs. -/
def skipped (w : Workflow) : Log.Entry :=
  { level := .info, target := logTarget, message := "Workflow has no jobs, skipping",
    fields := [("workflow", .text w.name), ("provider", .text w.provider.name)] }

/-- Tells of a workflow that has been rendered. -/
def compiled (w : Workflow) : Log.Entry :=
  { level := .info, target := logTarget, message := "Compiled workflow",
    fields := [("workflow", .text w.name), ("path", .text w.path.text),
      ("jobs", .number w.jobs.length)] }

/-- The workflow belongs to the backend's provider and breaks no rule. -/
def accepts (b : Backend δ) (w : Workflow) : Except CompileError Unit :=
  if w.provider = b.provider then w.validate
  else .error (.providerMismatch w.name b.provider w.provider)

/-- The file of a workflow, if it has jobs. -/
def render (b : Backend δ) (w : Workflow) :
    Logged (Except CompileError (Option GeneratedFile)) :=
  match b.accepts w with
  | .error e => pure (.error e)
  | .ok () => do
      match ← b.compile w with
      | none => do
          Logged.emit (skipped w)
          pure (.ok none)
      | some document => do
          Logged.emit (compiled w)
          pure (.ok (some ⟨w.path, fileContent (b.toTree document)⟩))

end Backend

end CiPipeline

import CiPipeline.Job.Form
import CiPipeline.Render

set_option autoImplicit false

/-! # Sections

A section of a definition holds the options for one provider and the jobs of its two
workflows. It is written as one map: first the options, then the jobs.

A section is decoded in the order of its keys. The jobs are decoded on the spot, and a key
of theirs must not come twice. Everything else is kept with its types settled, and the
options are decoded from it at the end, so that an error in them is an error of the section
as a whole.
-/

namespace CiPipeline

open Decode

/-- Options and jobs for one provider. -/
structure Section (ρ : Type) where
  options : ρ
  codeChangeRequestJobs : List Job
  pushJobs : List Job
  deriving DecidableEq, Inhabited

/-- What distinguishes the sections of the providers: what they are called, their options,
the names of the workflows, how workflows are rendered, and the file beside those of the
workflows. -/
structure Platform (ρ δ : Type) where
  title : String
  shape : Shape ρ
  entries : ρ → List (String × Tree)
  workflowName : ρ → Trigger → String
  backend : ρ → Backend δ
  overview : ρ → List Workflow → Logged (Option GeneratedFile)

namespace Section

variable {ρ δ : Type}

def codeChangeRequestKey : String := "code_change_request_jobs"

def pushKey : String := "push_jobs"

/-- The jobs for a trigger. -/
def jobs (s : Section ρ) : Trigger → List Job
  | .codeChangeRequest => s.codeChangeRequestJobs
  | .push => s.pushJobs

/-! ## Trees -/

def toTree (p : Platform ρ δ) (s : Section ρ) : Tree :=
  .map (p.entries s.options ++ [
    (codeChangeRequestKey, .list (s.codeChangeRequestJobs.map (·.toTree))),
    (pushKey, .list (s.pushJobs.map (·.toTree)))])

/-! ## Decoding -/

/-- What has been read of a section: the lists of jobs, and the other entries in order. -/
structure Reading where
  codeChangeRequestJobs : Option (List Job)
  pushJobs : Option (List Job)
  others : List (PathStep × Source × Source)

namespace Reading

def empty : Reading := ⟨none, none, []⟩

/-- The key of an entry. -/
def key (e : PathStep × Source × Source) : Decoded String := do
  match ← e.2.1.followed with
  | .atom (.str s) => pure s
  | .written s => pure s.text
  | other => other.refuse "field identifier"

/-- One more list of jobs, which must be the first one under its key. -/
def readJobs (before : Option (List Job)) (name : String) (e : PathStep × Source × Source) :
    Decoded (List Job) :=
  match before with
  | some _ => Decoded.failure (.duplicateField name)
  | none => Decoded.under e.1 (list Job.decode e.2.2)

/-- One more entry. -/
def add (r : Reading) (e : PathStep × Source × Source) : Decoded Reading := do
  let name ← key e
  if name = codeChangeRequestKey then
    let js ← readJobs r.codeChangeRequestJobs name e
    pure { r with codeChangeRequestJobs := some js }
  else if name = pushKey then
    let js ← readJobs r.pushJobs name e
    pure { r with pushJobs := some js }
  else
    let value ← Decoded.under e.1 e.2.2.settle
    pure { r with others := r.others ++ [(e.1, .atom (.str name), value)] }

/-- All entries in turn. -/
def addAll (r : Reading) : List (PathStep × Source × Source) → Decoded Reading
  | [] => pure r
  | e :: es => do
      let r ← r.add e
      r.addAll es

end Reading

/-- The section of a map. -/
def ofEntries (shape : Shape ρ) (es : List (PathStep × Source × Source)) :
    Decoded (Section ρ) := do
  let r ← Reading.empty.addAll es
  let options ← (shape.ofEntries r.others).mapError fun e => { e with path := [] }
  pure ⟨options, r.codeChangeRequestJobs.getD [], r.pushJobs.getD []⟩

/-- A section. -/
def decode (title : String) (shape : Shape ρ) : Decoder (Section ρ) := fun src => do
  let body := (← src.followed).untagged
  match body.entries? with
  | some es => ofEntries shape es
  | none => body.refuse title

/-! ## Files -/

/-- The workflow for a trigger. -/
def workflow (p : Platform ρ δ) (s : Section ρ) (t : Trigger) : Logged Workflow :=
  (Workflow.empty (p.workflowName s.options t) t (p.backend s.options).provider).addJobs
    (s.jobs t)

/-- Both workflows. -/
def workflows (p : Platform ρ δ) (s : Section ρ) : Logged (List Workflow) := do
  let request ← workflow p s .codeChangeRequest
  let push ← workflow p s .push
  pure [request, push]

/-- Tells of a workflow that could not be rendered. -/
def failed (w : Workflow) (e : CompileError) : Log.Entry :=
  { level := .debug, target := "cicd_component::render",
    message := "Workflow failed to compile",
    fields := [("workflow", .text w.name), ("error", .text e.message)] }

/-- The files of some workflows and the errors of those that could not be rendered. -/
def renderAll (b : Backend δ) :
    List Workflow → Logged (List GeneratedFile × List CompileError)
  | [] => pure ([], [])
  | w :: ws => do
      match ← b.render w with
      | .ok file => do
          let (files, errors) ← renderAll b ws
          pure (file.toList ++ files, errors)
      | .error e => do
          Logged.emit (failed w e)
          let (files, errors) ← renderAll b ws
          pure (files, e :: errors)

/-- The files of the section's workflows, after the file beside them; all errors, if there
are any. -/
def files (p : Platform ρ δ) (s : Section ρ) (ws : List Workflow) :
    Logged (Except (List CompileError) (List GeneratedFile)) := do
  let (files, errors) ← renderAll (p.backend s.options) ws
  if errors.isEmpty then
    let overview ← p.overview s.options ws
    pure (.ok (overview.toList ++ files))
  else pure (.error errors)

/-- The files of the section. -/
def synthesize (p : Platform ρ δ) (s : Section ρ) :
    Logged (Except (List CompileError) (List GeneratedFile)) := do
  let ws ← workflows p s
  files p s ws

end Section

end CiPipeline

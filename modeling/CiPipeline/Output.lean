import CiPipeline.Failure
import CiPipeline.Log
import CiPipeline.Storage.Basic

set_option autoImplicit false

/-! # Writing and checking generated files

Generated files are written below a root directory, or compared with what is there. A file
that is as it should be is left alone. No path may lead out of the root, and when files are
written this is made sure of before the first one.
-/

namespace CiPipeline

/-! ## Status of a file -/

/-- What was done to a file, or would be done. -/
inductive FileStatus where
  | created
  | updated
  | unchanged
  | wouldCreate
  | wouldUpdate
  deriving DecidableEq, Inhabited

namespace FileStatus

/-- The words for a status. -/
def text : FileStatus → String
  | created => "Created"
  | updated => "Updated"
  | unchanged => "Unchanged"
  | wouldCreate => "Would create"
  | wouldUpdate => "Would update"

/-- What there is to do for a content where there is some text or nothing. -/
def due (content : String) : Option String → FileStatus
  | none => created
  | some text => if text = content then unchanged else updated

/-- The same status when nothing is written. -/
def foreseen : FileStatus → FileStatus
  | created => wouldCreate
  | updated => wouldUpdate
  | other => other

end FileStatus

/-- What was done to the file at a path. -/
structure FileResult where
  path : Path
  status : FileStatus
  deriving DecidableEq, Inhabited

/-- What was achieved, up to the first failure if there was one. -/
structure Progress (α : Type) where
  achieved : List α
  failure : Option Failure
  deriving DecidableEq, Inhabited

namespace Output

/-! ## Log entries -/

def logTarget : String := "cicd_component::writer"

/-- Tells what was done to a file. -/
def processed (r : FileResult) : Log.Entry :=
  { level := .info, target := logTarget, message := "Processed generated file",
    fields := [("path", .text r.path.text), ("status", .text r.status.text)] }

/-- Tells of a file that is missing or differs. -/
def outdated (path : Path) : Log.Entry :=
  { level := .debug, target := logTarget, message := "Generated file is out of date",
    fields := [("path", .text path.text)] }

/-! ## Single files -/

variable {m : Type → Type} [Monad m] [FileStore m]

/-- Reports what went wrong with a path. -/
def onPath {α : Type} (path : Path) (x : m (Except Storage.Error α)) : ExceptT Failure m α :=
  ExceptT.mk do return (← x).mapError (.io path)

/-- The text at a path, or nothing if there is no file. -/
def current (path : Path) : ExceptT Failure m (Option String) := ExceptT.mk do
  match ← FileStore.read path with
  | .ok text => pure (.ok (some text))
  | .error .notFound => pure (.ok none)
  | .error e => pure (.error (.io path e))

/-- What there is to do for a file. -/
def due (root : Path) (f : GeneratedFile) : ExceptT Failure m FileStatus :=
  return FileStatus.due f.content (← current (root.join f.path))

/-- Writes a text and the directories above it. -/
def place (path : Path) (text : String) : ExceptT Failure m Unit := do
  match path.parent? with
  | some above => onPath above (FileStore.ensureDirectories above)
  | none => pure ()
  onPath path (FileStore.write path text)

/-- Makes a file what it should be. -/
def write (root : Path) (f : GeneratedFile) : ExceptT Failure m FileResult := do
  let status ← due root f
  if status ≠ .unchanged then place (root.join f.path) f.content
  return ⟨f.path, status⟩

/-- What writing a file would do. -/
def preview (root : Path) (f : GeneratedFile) : ExceptT Failure m FileResult :=
  return ⟨f.path, (← due root f).foreseen⟩

/-- The path of a file if it is missing or differs. -/
def check (root : Path) (f : GeneratedFile) : ExceptT Failure m (Option Path) := do
  if ¬ f.path.isContained then throw (.unsafePath f.path)
  return if (← due root f) = .unchanged then none else some f.path

/-! ## Several files -/

/-- Takes a step for every file in turn, until one fails. -/
def each {α : Type} (step : GeneratedFile → ExceptT Failure m α) :
    List GeneratedFile → m (Progress α)
  | [] => pure ⟨[], none⟩
  | f :: fs => do
      match ← (step f).run with
      | .error e => pure ⟨[], some e⟩
      | .ok a => do
          let rest ← each step fs
          pure ⟨a :: rest.achieved, rest.failure⟩

/-- The first path that leads out of the root. -/
def firstUnsafe (files : List GeneratedFile) : Option Path :=
  (files.map (·.path)).find? fun p => ¬ p.isContained

end Output

variable {m : Type → Type} [Monad m] [FileStore m]

open Output

/-- Writes files below a root, or tells what that would do. -/
def writeFiles (root : Path) (files : List GeneratedFile) (dryRun : Bool) :
    m (Progress FileResult) :=
  match firstUnsafe files with
  | some path => pure ⟨[], some (.unsafePath path)⟩
  | none => each (if dryRun then preview root else write root) files

/-- The paths of the files that are missing below a root or differ there. -/
def checkFiles (root : Path) (files : List GeneratedFile) : m (Progress Path) := do
  let checked ← each (check root) files
  pure ⟨checked.achieved.filterMap id, checked.failure⟩

end CiPipeline

import CiPipeline.Definition
import CiPipeline.Failure
import CiPipeline.Format
import CiPipeline.Storage.Basic

set_option autoImplicit false

/-! # Reading definitions

A definition is read from a text, or from a file whose extension tells the format. The
extension is looked at before the file.
-/

namespace CiPipeline.Definition

/-- The definition that a text holds; the path is the one to blame. -/
def ofText (path : Path) (format : Format) (text : String) : Except Failure Definition :=
  match format.read decode text with
  | .ok d => .ok d
  | .error .malformed => .error (.definition path none)
  | .error (.undecodable reason) => .error (.definition path (some reason))

/-- The definition in a file. -/
def load {m : Type → Type} [Monad m] [FileStore m] (path : Path) :
    m (Except Failure Definition) :=
  match Format.ofPath? path with
  | none => pure (.error (.unsupportedFormat path))
  | some format => do
      match ← FileStore.read path with
      | .ok text => pure (ofText path format text)
      | .error e => pure (.error (.io path e))

/-- Tells of a definition that has been read. -/
def loaded (path : Path) (d : Definition) : Log.Entry :=
  { level := .debug, target := "cicd_component::definition",
    message := "Loaded pipeline definition",
    fields := [("path", .text path.text), ("github", .flag d.gitHub.isSome),
      ("gitlab", .flag d.gitLab.isSome)] }

end CiPipeline.Definition

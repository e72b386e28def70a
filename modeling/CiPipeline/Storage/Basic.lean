import CiPipeline.Path
import CiPipeline.Storage.Error

set_option autoImplicit false

/-! # File stores

What is asked of a file system: to read a file, to write one, and to make a directory.
Everything else is said in these terms, for any file system that offers them.
-/

namespace CiPipeline

open Storage

/-- Computations with files. Reading a directory fails with `isADirectory`; making one that
is there already fails as well. -/
class FileStore (m : Type → Type) where
  read : Path → m (Except Storage.Error String)
  write : Path → String → m (Except Storage.Error Unit)
  makeDirectory : Path → m (Except Storage.Error Unit)

namespace FileStore

variable {m : Type → Type} [Monad m] [FileStore m]

/-- There is a directory at the path. -/
def isDirectory (path : Path) : m Bool := do
  match ← read path with
  | .error .isADirectory => pure true
  | _ => pure false

/-- A directory is at the path, whether made now or before. -/
def ensureDirectory (path : Path) : m (Except Storage.Error Unit) := do
  match ← makeDirectory path with
  | .ok () => pure (.ok ())
  | .error e => if ← isDirectory path then pure (.ok ()) else pure (.error e)

/-- A directory is at the first path. The further paths are its ancestors, which are made
first if they are missing. -/
def ensureFirst : List Path → m (Except Storage.Error Unit)
  | [] => pure (.ok ())
  | path :: above =>
      if path.text = "" then pure (.ok ())
      else do
        match ← ensureDirectory path with
        | .error .notFound => do
            match ← ensureFirst above with
            | .ok () => ensureDirectory path
            | .error e => pure (.error e)
        | result => pure result

/-- A directory is at the path, and at all of its ancestors. -/
def ensureDirectories (path : Path) : m (Except Storage.Error Unit) :=
  ensureFirst path.ancestors

end FileStore

end CiPipeline

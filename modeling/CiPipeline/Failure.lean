import CiPipeline.Render
import CiPipeline.Storage.Error

set_option autoImplicit false

/-! # Failures

Why a definition could not be turned into files, with the texts that tell a user about it.
-/

namespace CiPipeline

/-- Why a run failed. A definition that is no text of its format at all is refused without a
reason. -/
inductive Failure where
  | compile (errors : List CompileError)
  | definition (path : Path) (reason : Option String)
  | unsupportedFormat (path : Path)
  | unsafePath (path : Path)
  | stale (paths : List Path)
  | io (path : Path) (error : Storage.Error)
  deriving DecidableEq, Inhabited

namespace Failure

/-- The message shown. -/
def message : Failure → String
  | compile errors => toString errors.length ++ " workflow(s) failed to compile"
  | definition path none => "invalid pipeline definition " ++ path.text
  | definition path (some reason) =>
      "invalid pipeline definition " ++ path.text ++ ": " ++ reason
  | unsupportedFormat path => "unsupported pipeline definition format: " ++ path.text
  | unsafePath path => "refusing to write outside the output directory: " ++ path.text
  | stale paths => toString paths.length ++ " generated file(s) are missing or out of date"
  | io path error => "IO error on " ++ path.text ++ ": " ++ error.message

/-- The code that names the kind of failure. -/
def code : Failure → String
  | compile _ => "cicd::component::compile"
  | definition _ _ => "cicd::component::definition"
  | unsupportedFormat _ => "cicd::component::unsupported_format"
  | unsafePath _ => "cicd::component::unsafe_path"
  | stale _ => "cicd::component::stale"
  | io _ _ => "cicd::component::io"

/-- Advice, where there is any. -/
def help : Failure → Option String
  | compile _ => some "No files were written; fix every reported problem and run again"
  | definition _ _ => none
  | unsupportedFormat _ => some "Use a .yml, .yaml or .toml file"
  | unsafePath _ => some "Generated paths must be relative and must not contain '..'"
  | stale _ => some "Run \x60cicd compile\x60 and commit the result"
  | io _ _ => none

/-- The code of a failure, then the codes of what caused it, each before those of its own
causes. -/
def codes : Failure → List String
  | compile errors =>
      code (.compile errors) :: errors.flatMap fun e =>
        e.code :: (match e with
          | .invalid _ violations => violations.map (·.code)
          | .providerMismatch _ _ _ => [])
  | other => [other.code]

end Failure

end CiPipeline

import CiPipeline.Decode.Record
import CiPipeline.Path
import CiPipeline.Toml.Table
import CiPipeline.Yaml.Reader

set_option autoImplicit false

/-! # Formats of definition files

A text holds a value if it can be read in its format and decoded. If it cannot be decoded,
the reason is given, provided that the text is sound in itself; a place that cannot be read
makes the whole text malformed.
-/

namespace CiPipeline

open Decode

/-- A format of texts. -/
inductive Format where
  | yaml
  | toml
  deriving DecidableEq, Inhabited

/-- Why a text does not hold the value that is wanted. -/
inductive Misfit where
  | malformed
  | undecodable (reason : String)
  deriving DecidableEq, Inhabited

namespace Format

/-- The format of the files with an extension. -/
def ofExtension? (extension : String) : Option Format :=
  if extension = "yml" ∨ extension = "yaml" then some yaml
  else if extension = "toml" then some toml
  else none

/-- The format of a file. -/
def ofPath? (path : Path) : Option Format := path.extension?.bind ofExtension?

/-- What decoding gives from a document that is sound or not; `words` are those for an
error. -/
def judge {α : Type} (sound : Bool) (words : DecodeError → String) :
    Except DecodeError α → Except Misfit α
  | .ok a => .ok a
  | .error e => .error (if sound then .undecodable (words e) else .malformed)

/-- The value that a text holds. -/
def read {α : Type} (format : Format) (decode : Decoder α) (text : String) :
    Except Misfit α :=
  match format with
  | yaml =>
      match Yaml.read? text with
      | none => .error .malformed
      | some d =>
          judge d.sound (·.placedReason .plain) ((decode d.source).result d.references)
  | toml =>
      match Toml.read? text with
      | none => .error .malformed
      | some src => judge (Toml.isSound src) (·.reason .plain) ((decode src).result 0)

end Format

end CiPipeline

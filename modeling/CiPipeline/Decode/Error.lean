import CiPipeline.Text.Quoted
import CiPipeline.Yaml.Scalar

set_option autoImplicit false

/-! # Decoding errors

Why a value could not be decoded, and where. The place is the way from the root of the
document to the value that was being decoded.
-/

namespace CiPipeline

namespace Decode

/-- A step from a value to one inside it. The last case is a value under a key that has no
text of its own. -/
inductive PathStep where
  | index (i : Nat)
  | key (name : String)
  | unnamed
  deriving DecidableEq, Inhabited

/-- A path with one more step; the path of the root is a dot. -/
def extendPath (path : String) : PathStep → String
  | .index i => path ++ "[" ++ toString i ++ "]"
  | .key name => (if path = "." then "" else path ++ ".") ++ name
  | .unnamed => (if path = "." then "" else path ++ ".") ++ "?"

/-- The text of a path. -/
def pathText (path : List PathStep) : String := path.foldl extendPath "."

/-- How a document format words the values that it found. -/
structure Wording where
  null : String
  float : Number.Binary64 → String

/-- The wording for documents. -/
def Wording.plain : Wording := ⟨"unit value", Number.Binary64.text⟩

/-- The wording for JSON. -/
def Wording.json : Wording := ⟨"null", Number.Binary64.briefText Number.Binary64.signedExponent⟩

/-- What stands where something else is wanted. -/
inductive Found where
  | atom (a : Atom)
  | list
  | map
  deriving DecidableEq, Inhabited

/-- The words for what was found. -/
def Found.text (w : Wording) : Found → String
  | atom .null => w.null
  | atom (.bool b) => "boolean `" ++ (if b then "true" else "false") ++ "`"
  | atom (.int n) => "integer `" ++ toString n ++ "`"
  | atom (.float x) => "floating point `" ++ w.float x ++ "`"
  | atom (.str s) => "string " ++ Text.quoted s
  | list => "sequence"
  | map => "map"

/-- Why a value could not be decoded. -/
inductive Cause where
  | missingField (key : String)
  | duplicateField (key : String)
  | unknownVariant (name : String) (variants : List String)
  | invalidType (found : Found) (wanted : String)
  | invalidValue (found : Found) (wanted : String)
  | invalidLength (length : Nat) (wanted : String)
  | taggedValue
  | endOfInput
  | notTable (kind : String)
  | notTextNorTable
  | notEmpty (kind : String)
  | notSingle (isEmpty : Bool)
  | unreadable
  deriving DecidableEq, Inhabited

/-- The words for a cause. -/
def Cause.text (w : Wording) : Cause → String
  | missingField key => "missing field `" ++ key ++ "`"
  | duplicateField key => "duplicate field `" ++ key ++ "`"
  | unknownVariant name variants =>
      "unknown variant `" ++ name ++ "`, expected "
        ++ String.intercalate " or " (variants.map fun v => "`" ++ v ++ "`")
  | invalidType found wanted => "invalid type: " ++ found.text w ++ ", expected " ++ wanted
  | invalidValue found wanted => "invalid value: " ++ found.text w ++ ", expected " ++ wanted
  | invalidLength length wanted =>
      "invalid length " ++ toString length ++ ", expected " ++ wanted
  | taggedValue => "untagged and internally tagged enums do not support enum input"
  | endOfInput => "EOF while parsing a value"
  | notTable kind => "expected table, found " ++ kind
  | notTextNorTable => "wanted string or table"
  | notEmpty kind => "expected empty " ++ kind
  | notSingle isEmpty =>
      "wanted exactly 1 element, "
        ++ (if isEmpty then "found 0 elements" else "more than 1 element")
  | unreadable => "value cannot be read"

end Decode

/-- A value that could not be decoded. -/
structure DecodeError where
  path : List Decode.PathStep
  cause : Decode.Cause
  deriving DecidableEq, Inhabited

namespace DecodeError

open Decode

/-- The error seen from one step further out. -/
def under (step : PathStep) (e : DecodeError) : DecodeError := { e with path := step :: e.path }

/-- The words for the error without its place. -/
def reason (w : Wording) (e : DecodeError) : String := e.cause.text w

/-- The words for the error with its place, which is left out for the root. -/
def placedReason (w : Wording) (e : DecodeError) : String :=
  if e.path.isEmpty then e.reason w else pathText e.path ++ ": " ++ e.reason w

end DecodeError

/-- What decoding gives. Its state is the number of references that may still be followed. -/
abbrev Decoded (α : Type) := StateT Nat (Except DecodeError) α

namespace Decoded

variable {α β : Type}

/-- Fails with an error. -/
def fail (e : DecodeError) : Decoded α := fun _ => .error e

/-- Fails at the value itself. -/
def failure (cause : Decode.Cause) : Decoded α := fail ⟨[], cause⟩

/-- The same with other errors. -/
def mapError (f : DecodeError → DecodeError) (x : Decoded α) : Decoded α :=
  fun n => (x n).mapError f

/-- What decoding a value inside gives, seen from outside. -/
def under (step : Decode.PathStep) (x : Decoded α) : Decoded α := x.mapError (·.under step)

/-- Follows one reference. -/
def follow : Decoded Unit
  | 0 => .error ⟨[], .unreadable⟩
  | n + 1 => .ok ((), n)

/-- The value that decoding gives if at most `n` references may be followed. -/
def result (n : Nat) (x : Decoded α) : Except DecodeError α := x.run' n

theorem result_pure (n : Nat) (a : α) : (pure a : Decoded α).result n = .ok a := rfl

@[simp] theorem mapError_pure (f : DecodeError → DecodeError) (a : α) :
    (pure a : Decoded α).mapError f = pure a := rfl

@[simp] theorem under_pure (step : Decode.PathStep) (a : α) :
    (pure a : Decoded α).under step = pure a := rfl

end Decoded

end CiPipeline

import CiPipeline.Collection.SortedMap
import CiPipeline.Decode.Source

set_option autoImplicit false

/-! # Decoding values

Texts, truth values, values that may be left out, lists, and maps of texts. All of them look
through a reference first.

A written scalar is any text that it is wanted to be. Left out entirely, it is also an empty
list and an empty map.
-/

namespace CiPipeline

/-- A way to decode values. -/
abbrev Decoder (α : Type) := Source → Decoded α

namespace Decode

variable {α : Type}

/-- A text. -/
def string : Decoder String := fun src => do
  match ← src.followed with
  | .atom (.str s) => pure s
  | .written s => pure s.text
  | other => other.refuse "a string"

/-- A truth value. -/
def bool : Decoder Bool := fun src => do
  match ← src.followed with
  | .atom (.bool b) => pure b
  | .written s =>
      match s.truth? with
      | some b => pure b
      | none => (Source.written s).refuse "a boolean"
  | other => other.refuse "a boolean"

/-- A value that may be left out. -/
def optional (decode : Decoder α) : Decoder (Option α) := fun src => do
  match ← src.followed with
  | .void => pure none
  | .atom .null => pure none
  | .written s =>
      match s.isAbsent? with
      | some true => pure none
      | some false => some <$> decode (.written s)
      | none => Decoded.failure .unreadable
  | other => some <$> decode other

/-! ## Lists -/

/-- The values of a list's items, the first of which has the given index. -/
def items (decode : Decoder α) : (index : Nat) → List Source → Decoded (List α)
  | _, [] => pure []
  | i, src :: rest => do
      let x ← Decoded.under (.index i) (decode src)
      let xs ← items decode (i + 1) rest
      pure (x :: xs)

/-- A list of values. -/
def list (decode : Decoder α) : Decoder (List α) := fun src => do
  match (← src.followed).untagged with
  | .list _ xs => items decode 0 xs
  | .void => pure []
  | .written s => if s.isBlank then pure [] else (Source.written s).refuse "a sequence"
  | other => other.refuse "a sequence"

/-- A set of names. -/
def names : Decoder NameSet := fun src => NameSet.ofNames <$> list string src

/-! ## Maps -/

/-- Entries, each with its step, whose keys are texts. -/
def entries (decode : Decoder α) :
    List (PathStep × Source × Source) → Decoded (List (String × α))
  | [] => pure []
  | e :: rest => do
      let key ← string e.2.1
      let value ← Decoded.under e.1 (decode e.2.2)
      let es ← entries decode rest
      pure ((key, value) :: es)

/-- A map from texts to texts; of two values of one key the later one counts. -/
def texts : Decoder (SortedMap String) := fun src => do
  let body := (← src.followed).untagged
  match body.entries? with
  | some es => SortedMap.ofList <$> entries string es
  | none => body.refuse "a map"

end Decode

end CiPipeline

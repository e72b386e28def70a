import CiPipeline.Decode.Basic

set_option autoImplicit false

/-! # Decoding words from a fixed choice

A word is written as a text. It can also be written as the name of a value that says nothing:
as a local tag, or as the only key of a map. What says nothing, and what is said of other
values, depends on the format.
-/

namespace CiPipeline

namespace Decode

variable {α : Type}

/-- The value that the word stands for. -/
def ofWord (choice : List (String × α)) (word : String) : Decoded α :=
  match choice.lookup word with
  | some a => pure a
  | none => Decoded.failure (.unknownVariant word (choice.map Prod.fst))

/-- Nothing, behind a tag that is itself the word. -/
def untaggedNothing : Source → Decoded Unit
  | .written s =>
      if s.isPlain && (s.text.isEmpty || Yaml.isNull s.text) then pure ()
      else Decoded.failure (.invalidValue (.atom (.str s.text)) "null")
  | src => src.refuse "unit"

/-- Nothing, as the value of a key in JSON. -/
def null : Source → Decoded Unit
  | .atom .null => pure ()
  | src => src.refuse "unit"

/-- What TOML calls a value. -/
def kindInToml : Source → String
  | .atom (.str _) => "string"
  | .atom (.float _) => "float"
  | .atom (.bool _) => "boolean"
  | .moment _ => "datetime"
  | .list _ _ => "array"
  | .map _ _ => "table"
  | _ => "integer"

/-- Nothing, as the value of a key in TOML. -/
def emptyTable : Source → Decoded Unit
  | .list _ xs => if xs.isEmpty then pure () else Decoded.failure (.notEmpty "array")
  | .map _ es => if es.isEmpty then pure () else Decoded.failure (.notEmpty "table")
  | src => Decoded.failure (.notTable (kindInToml src))

/-- The value of the word that is the key of an entry, whose value must say nothing. -/
def ofEntry (choice : List (String × α)) (nothing : Source → Decoded Unit)
    (e : PathStep × Source × Source) : Decoded α := do
  let a ← ofWord choice (← string e.2.1)
  Decoded.under e.1 (nothing e.2.2)
  pure a

/-- The value of the word that is the only key of a map. -/
def ofEntries (choice : List (String × α)) (dialect : Dialect)
    (es : List (PathStep × Source × Source)) : Decoded α :=
  match dialect, es with
  | .yaml, _ => (Source.map dialect es).refuse "a YAML tag starting with '!'"
  | .toml, [e] => ofEntry choice emptyTable e
  | .toml, _ => Decoded.failure (.notSingle es.isEmpty)
  | _, [e] => ofEntry choice null e
  | _, _ => Decoded.failure (.invalidValue .map "map with a single key")

/-- A list is not a word. -/
def refuseList (dialect : Dialect) (src : Source) : Decoded α :=
  match dialect with
  | .yaml => src.refuse "a YAML tag starting with '!'"
  | .toml => Decoded.failure .notTextNorTable
  | _ => src.refuse "string or map"

/-- A word from a fixed choice. -/
def variant (choice : List (String × α)) : Decoder α := fun src => do
  match ← src.followed with
  | .atom (.str s) => ofWord choice s
  | .written s =>
      match s.localTag? with
      | none => ofWord choice s.text
      | some word => do
          let a ← ofWord choice word
          untaggedNothing (.written s)
          pure a
  | .tagged word body => do
      let a ← ofWord choice word
      untaggedNothing body
      pure a
  | .map dialect es => ofEntries choice dialect es
  | .list dialect xs => refuseList dialect (.list dialect xs)
  | .void => Source.void.refuse "a YAML tag starting with '!'"
  | other => other.refuse "string or map"

end Decode

end CiPipeline

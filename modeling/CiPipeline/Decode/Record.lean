import CiPipeline.Decode.Basic

set_option autoImplicit false

/-! # Decoding records

A record is a map whose keys are known. Its entries are taken in the order in which they are
written: an unknown key is passed over, and a known key must not come twice. What the keys
that are not there stand for is what the record without any keys holds, unless a key is
required; that is looked at last.

Most formats also take a list for a record, with the values in the order of the keys.
-/

namespace CiPipeline

namespace Decode

/-- A key of a record: whether it must be there, and what its value does to the record. -/
structure Field (ρ : Type) where
  key : String
  required : Bool
  read : Source → Decoded (ρ → ρ)

/-- The keys of a record in order, what the record is called, and what it holds without any
of them. -/
structure Shape (ρ : Type) where
  title : String
  blank : ρ
  fields : List (Field ρ)

namespace Field

variable {ρ α : Type}

/-- A key that must be there. -/
def require (key : String) (decode : Decoder α) (set : α → ρ → ρ) : Field ρ :=
  ⟨key, true, fun src => set <$> decode src⟩

/-- A key that may be left out. -/
def allow (key : String) (decode : Decoder α) (set : α → ρ → ρ) : Field ρ :=
  ⟨key, false, fun src => set <$> decode src⟩

end Field

namespace Shape

variable {ρ : Type}

/-- The field of a key, which is given by its text or by its number; `none` for an unknown
key. -/
def field? (shape : Shape ρ) (key : Source) : Decoded (Option (Field ρ)) := do
  match ← key.followed with
  | .atom (.str s) => pure (shape.fields.find? fun f => f.key == s)
  | .written s => pure (shape.fields.find? fun f => f.key == s.text)
  | .atom (.int n) =>
      if 0 ≤ n then pure shape.fields[n.toNat]?
      else (Source.atom (.int n)).refuse "field identifier"
  | other => other.refuse "field identifier"

/-- The record after the entries, given the keys `seen` before them, and the keys seen. -/
def readEntries (shape : Shape ρ) :
    (seen : List String) → ρ → List (PathStep × Source × Source) → Decoded (List String × ρ)
  | seen, r, [] => pure (seen, r)
  | seen, r, e :: rest => do
      match ← shape.field? e.2.1 with
      | none => readEntries shape seen r rest
      | some f =>
          if seen.contains f.key then Decoded.failure (.duplicateField f.key)
          else
            let set ← Decoded.under e.1 (f.read e.2.2)
            readEntries shape (f.key :: seen) (set r) rest

/-- The record of a map. -/
def ofEntries (shape : Shape ρ) (entries : List (PathStep × Source × Source)) : Decoded ρ := do
  let (seen, r) ← shape.readEntries [] shape.blank entries
  match shape.fields.find? fun f => f.required && !seen.contains f.key with
  | some f => Decoded.failure (.missingField f.key)
  | none => pure r

/-- A number of elements in words. -/
def elements (n : Nat) : String := toString n ++ (if n = 1 then " element" else " elements")

/-- The record with the values of a list for its remaining fields, the first of which has
the given number. -/
def readItems (shape : Shape ρ) :
    (index : Nat) → ρ → List (Field ρ) → List Source → Decoded ρ
  | _, r, [], _ => pure r
  | i, r, f :: fields, [] =>
      if f.required then
        Decoded.failure
          (.invalidLength i (shape.title ++ " with " ++ elements shape.fields.length))
      else readItems shape (i + 1) r fields []
  | i, r, f :: fields, src :: rest => do
      let set ← Decoded.under (.index i) (f.read src)
      readItems shape (i + 1) (set r) fields rest

/-- What becomes of the items that a list has too many of for a record. -/
def surplus (shape : Shape ρ) (dialect : Dialect) (items : List Source) : Decoded Unit :=
  if items.length ≤ shape.fields.length then pure ()
  else
    match dialect with
    | .yaml | .toml => pure ()
    | .json => Decoded.failure (.invalidLength items.length "fewer elements in array")
    | .settled =>
        Decoded.failure
          (.invalidLength items.length (elements shape.fields.length ++ " in sequence"))

/-- The record of a list, unless the format has none. -/
def ofItems (shape : Shape ρ) (dialect : Dialect) (items : List Source) : Decoded ρ :=
  if dialect = .yaml then (Source.list dialect items).refuse shape.title
  else do
    let r ← shape.readItems 0 shape.blank shape.fields items
    shape.surplus dialect items
    pure r

/-- A record. -/
def decode (shape : Shape ρ) : Decoder ρ := fun src => do
  match (← src.followed).untagged with
  | .list dialect xs => shape.ofItems dialect xs
  | other =>
      match other.entries? with
      | some es => shape.ofEntries es
      | none => other.refuse shape.title

end Shape

end Decode

end CiPipeline

import CiPipeline.Decode.Error
import CiPipeline.Tree

set_option autoImplicit false

/-! # Sources

What values are decoded from. A scalar is either an atom, whose type is settled, or written,
so that its type depends on what is wanted of it. Lists and maps hold sources again. A source
can also be a reference to one that stands elsewhere; whoever looks through it has followed
a reference, of which only so many may be followed.

Some values are decoded in two stages: first every scalar is given the type that its form
suggests, and the result is kept; what is wanted of it is known only later. The first stage
is `settle`. It has no place for local tags.
-/

namespace CiPipeline

namespace Decode

/-- Where a list or map comes from: one of the formats, or settling. The formats differ in
what else lists and maps may stand for. -/
inductive Dialect where
  | yaml
  | toml
  | json
  | settled
  deriving DecidableEq, Inhabited

end Decode

open Decode

/-- What a value is decoded from: nothing at all, something that cannot be read, a scalar, a
date or time, a list, a map, a list or map with a local tag, or a reference. An entry of a
map is the step that leads to its value, its key, and its value. -/
inductive Source where
  | void
  | unreadable
  | atom (a : Atom)
  | written (s : Yaml.Scalar)
  | moment (text : String)
  | list (dialect : Dialect) (items : List Source)
  | map (dialect : Dialect) (entries : List (PathStep × Source × Source))
  | tagged (tag : String) (body : Source)
  | reference (body : Source)
  deriving Inhabited

namespace Source

/-- The source itself, or what it refers to. -/
def followed : Source → Decoded Source
  | reference body => do
      Decoded.follow
      pure body
  | src => pure src

/-- The source without its local tag. -/
def untagged : Source → Source
  | tagged _ body => body
  | src => src

/-- The key of the map that a date or time stands for. -/
def momentKey : String := "$__toml_private_datetime"

/-- The entries of a source that is a map or stands for one. -/
def entries? : Source → Option (List (PathStep × Source × Source))
  | map _ es => some es
  | moment text => some [(.key momentKey, atom (.str momentKey), atom (.str text))]
  | void => some []
  | written s => if s.isBlank then some [] else none
  | _ => none

/-- Why the source is not what is wanted. -/
def mismatch (wanted : String) : Source → DecodeError
  | void => ⟨[], .endOfInput⟩
  | unreadable => ⟨[], .unreadable⟩
  | atom a => ⟨[], .invalidType (.atom a) wanted⟩
  | written s =>
      match s.atom? with
      | some a => ⟨[], .invalidType (.atom a) wanted⟩
      | none => ⟨[], .unreadable⟩
  | moment _ => ⟨[], .invalidType .map wanted⟩
  | list _ _ => ⟨[], .invalidType .list wanted⟩
  | map _ _ => ⟨[], .invalidType .map wanted⟩
  | tagged _ body => body.mismatch wanted
  | reference body => body.mismatch wanted

/-- Fails because the source is not what is wanted. -/
def refuse {α : Type} (wanted : String) (src : Source) : Decoded α :=
  Decoded.fail (src.mismatch wanted)

/-! ## Trees as sources -/

mutual

/-- The source of a tree: its scalars keep their types. -/
def ofTree : Tree → Source
  | .null => atom .null
  | .bool b => atom (.bool b)
  | .int n => atom (.int n)
  | .float x => atom (.float x)
  | .str s => atom (.str s)
  | .list items => list .json (ofTrees items)
  | .map entries => map .json (ofEntries entries)

def ofTrees : List Tree → List Source
  | [] => []
  | t :: ts => ofTree t :: ofTrees ts

def ofEntries : List (String × Tree) → List (PathStep × Source × Source)
  | [] => []
  | e :: es => (.key e.1, atom (.str e.1), ofTree e.2) :: ofEntries es

end

/-! ## Settling types -/

mutual

/-- The source with the types of all its scalars settled. -/
def settle : Source → Decoded Source
  | void => pure (atom .null)
  | unreadable => Decoded.failure .unreadable
  | atom a => pure (atom a)
  | written s =>
      if s.localTag?.isSome then Decoded.failure .taggedValue
      else
        match s.atom? with
        | some a => pure (atom a)
        | none => Decoded.failure .unreadable
  | moment text => pure (moment text)
  | list _ items => list .settled <$> settleItems 0 items
  | map _ entries => map .settled <$> settleEntries entries
  | tagged _ _ => Decoded.failure .taggedValue
  | reference body => do
      Decoded.follow
      body.settle

def settleItems : Nat → List Source → Decoded (List Source)
  | _, [] => pure []
  | i, src :: rest => do
      let x ← Decoded.under (.index i) src.settle
      let xs ← settleItems (i + 1) rest
      pure (x :: xs)

def settleEntries :
    List (PathStep × Source × Source) → Decoded (List (PathStep × Source × Source))
  | [] => pure []
  | e :: rest => do
      let key ← e.2.1.settle
      let value ← Decoded.under e.1 e.2.2.settle
      let es ← settleEntries rest
      pure ((e.1, key, value) :: es)

end

end Source

end CiPipeline

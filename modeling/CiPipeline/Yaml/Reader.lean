import CiPipeline.Decode.Source
import CiPipeline.Yaml.Document

set_option autoImplicit false

/-! # Reading YAML

A text is read as a source: scalars stay as they are written, and references know what they
stand for. Collections may be nested 128 deep, also behind references; beyond that the source
has unreadable places. For every part of the document a hundred references may be followed.

A document is sound if every scalar in it has a value, no place is unreadable, and all its
references may be followed. What is decoded from a document need not use all of it, so an
unsound document may do.
-/

namespace CiPipeline.Yaml

open Decode

/-- How deep collections may be nested. -/
def maxDepth : Nat := 128

/-- How many references may be followed for every part of a document. -/
def maxReferences : Nat := 100

/-- What a node stands for: the source, the number of references in it and behind them, and
whether it has a value everywhere. -/
structure Expansion where
  source : Source
  references : Nat
  sound : Bool

instance : Inhabited Expansion := ⟨⟨.unreadable, 0, false⟩⟩

/-- What the marked nodes stand for. -/
abbrev Expansions := List (Nat × Expansion)

namespace Expansion

/-- What cannot be read. -/
def unreadable : Expansion := ⟨.unreadable, 0, false⟩

/-- A collection with its local tag, if it has one. -/
def tagged (tag : Option Tag) (src : Source) : Source :=
  match tag.bind (·.localName?) with
  | some name => .tagged name src
  | none => src

end Expansion

/-- The step to a value whose key is the node. -/
def stepOf : Node → PathStep
  | .scalar s => .key s.text
  | .anchored _ (.scalar s) => .key s.text
  | _ => .unnamed

mutual

/-- What a node stands for, given what the marked nodes stand for in its place, in the
collections below it, and so on down. -/
def expand (levels : List Expansions) : Node → Expansion
  | .scalar s => ⟨.written s, 0, s.atom?.isSome⟩
  | .sequence tag items =>
      match levels with
      | _ :: below :: more =>
          let es := expandItems (below :: more) items
          ⟨Expansion.tagged tag (.list .yaml (es.map (·.source))),
            (es.map (·.references)).sum, es.all (·.sound)⟩
      | _ => .unreadable
  | .mapping tag entries =>
      match levels with
      | _ :: below :: more =>
          let es := expandEntries (below :: more) entries
          ⟨Expansion.tagged tag (.map .yaml (es.map fun e => (e.1, e.2.1.source, e.2.2.source))),
            (es.map fun e => e.2.1.references + e.2.2.references).sum,
            es.all fun e => e.2.1.sound && e.2.2.sound⟩
      | _ => .unreadable
  | .reference anchor =>
      match levels.head?.bind (·.lookup anchor) with
      | some e => { e with source := .reference e.source, references := e.references + 1 }
      | none => .unreadable
  | .anchored _ node => expand levels node

def expandItems (levels : List Expansions) : List Node → List Expansion
  | [] => []
  | n :: ns => expand levels n :: expandItems levels ns

def expandEntries (levels : List Expansions) :
    List (Node × Node) → List (PathStep × Expansion × Expansion)
  | [] => []
  | e :: es =>
      (stepOf e.1, expand levels e.1, expand levels e.2) :: expandEntries levels es

end

/-- What the marked nodes stand for where `n` more collections may be nested, below that
where one less may be, and so on. Of the nodes marked with one number the last counts. -/
def expansions (marked : List (Nat × Node)) : (n : Nat) → List Expansions
  | 0 => [marked.reverse.map fun m => (m.1, expand [[]] m.2)]
  | n + 1 =>
      let below := expansions marked n
      (marked.reverse.map fun m => (m.1, expand ([] :: below) m.2)) :: below

/-- A text as a source, with the number of references that may be followed, and whether it
is sound. -/
structure Document where
  source : Source
  references : Nat
  sound : Bool

/-- The document of a text; `none` for a text that is no YAML. -/
def read? (text : String) : Option Document :=
  match root? text.toList with
  | none => none
  | some none => some ⟨.void, 0, true⟩
  | some (some node) =>
      let limit := maxReferences * node.weight
      let e := expand (expansions node.marked maxDepth) node
      some ⟨e.source, limit, e.sound && decide (e.references ≤ limit)⟩

end CiPipeline.Yaml

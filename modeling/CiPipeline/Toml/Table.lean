import CiPipeline.Collection.SortedMap
import CiPipeline.Decode.Source
import CiPipeline.Toml.Statement

set_option autoImplicit false

/-! # Tables of TOML

Statements build up a tree of tables. A table has an origin: it has a header of its own, it
is implied by a header further inside, or it is named by the dots of a key. Each table is
defined in one place: a header defines a table that is not there or only implied; dots
define a table that they have named before or that is not there; and a value, once set, is
not changed. Of an array of tables, the last one is meant.

A document is read as a source, with the entries of every table in the order of their keys.
-/

namespace CiPipeline.Toml

/-- Where a table comes from. -/
inductive Origin where
  | headed
  | implied
  | dotted
  deriving DecidableEq, Inhabited

/-- What stands under a key: a value, a table, or an array of tables with its last one
apart. -/
inductive Item where
  | value (src : Source)
  | table (origin : Origin) (entries : List (String × Item))
  | array (earlier : List (List (String × Item))) (last : List (String × Item))
  deriving Inhabited

/-- The entries of a table. -/
abbrev Entries := List (String × Item)

namespace Entries

/-- The entries with another item under a key, at its place or at the end. -/
def put (es : Entries) (key : String) (item : Item) : Entries :=
  if es.any (·.1 == key) then es.map fun e => if e.1 == key then (key, item) else e
  else es ++ [(key, item)]

/-- The table with entries of a known origin changed at the end of a path. The tables on the
way that are not there are made, as the origin `made`; a path of dots may not go through a
table with a header. -/
def update? (made : Origin) (change : Origin → Entries → Option Entries) :
    (path : List String) → Origin → Entries → Option Entries
  | [], origin, es => change origin es
  | key :: path, _, es =>
      match es.lookup key with
      | none => (update? made change path made []).map fun t => es.put key (.table made t)
      | some (.value _) => none
      | some (.table origin t) =>
          if made = .dotted ∧ origin = .headed then none
          else (update? made change path origin t).map fun t => es.put key (.table origin t)
      | some (.array earlier last) =>
          (update? made change path .headed last).map fun t => es.put key (.array earlier t)

/-- One more value under a key that is not there. -/
def add? (key : String) (src : Source) (es : Entries) : Option Entries :=
  if (es.lookup key).isSome then none else some (es ++ [(key, .value src)])

/-- One more value at the end of a path. Behind dots it belongs to a table that dots have
named. -/
def addPair? (path : List String) (src : Source) (es : Entries) : Option Entries :=
  match path.getLast? with
  | none => none
  | some key =>
      if path.length = 1 then es.add? key src
      else
        update? .dotted (fun origin t => if origin = .dotted then add? key src t else none)
          path.dropLast .headed es

/-- The table of some pairs. -/
def ofPairs? : Entries → List (List String × Source) → Option Entries
  | es, [] => some es
  | es, p :: ps => (es.addPair? p.1 p.2).bind fun es => ofPairs? es ps

/-- A table with a header. -/
def openTable? (key : String) (es : Entries) : Option Entries :=
  match es.lookup key with
  | none => some (es ++ [(key, .table .headed [])])
  | some (.table .implied t) => some (es.put key (.table .headed t))
  | some _ => none

/-- One more table in an array. -/
def openElement? (key : String) (es : Entries) : Option Entries :=
  match es.lookup key with
  | none => some (es ++ [(key, .array [] [])])
  | some (.array earlier last) => some (es.put key (.array (earlier ++ [last]) []))
  | some _ => none

/-- What a header does to the whole document. -/
def openHeader? (change : String → Entries → Option Entries) (path : List String)
    (es : Entries) : Option Entries :=
  match path.getLast? with
  | none => none
  | some key => update? .implied (fun _ t => change key t) path.dropLast .headed es

end Entries

/-! ## Sources -/

open Decode

/-- The map of some named sources, in the order of their names. -/
def mapSource (es : List (String × Source)) : Source :=
  .map .toml ((SortedMap.ofList es).entries.map fun e => (.key e.1, .atom (.str e.1), e.2))

mutual

/-- What stands under a key. -/
def Item.toSource : Item → Source
  | .value src => src
  | .table _ entries => mapSource (entriesSources entries)
  | .array earlier last =>
      .list .toml (tablesSources earlier ++ [mapSource (entriesSources last)])

def entriesSources : List (String × Item) → List (String × Source)
  | [] => []
  | e :: es => (e.1, e.2.toSource) :: entriesSources es

def tablesSources : List (List (String × Item)) → List Source
  | [] => []
  | t :: ts => mapSource (entriesSources t) :: tablesSources ts

end

mutual

/-- The source of a value; `none` if it holds a table in braces that is built up wrongly, or
an integer of more than 128 bits. One of more than 64 bits cannot be read. -/
def Value.toSource? : Value → Option Source
  | .str s => some (.atom (.str s))
  | .int n =>
      if Number.isWord n then some (.atom (.int n))
      else if Number.isDoubleWord n then some .unreadable
      else none
  | .float x => some (.atom (.float x))
  | .bool b => some (.atom (.bool b))
  | .moment m => some (.moment m.text)
  | .array items => (itemsSources? items).map (.list .toml)
  | .inline pairs => do
      let ps ← pairsSources? pairs
      let es ← Entries.ofPairs? [] ps
      some (mapSource (entriesSources es))

def itemsSources? : List Value → Option (List Source)
  | [] => some []
  | v :: vs => do
      let src ← v.toSource?
      let srcs ← itemsSources? vs
      some (src :: srcs)

def pairsSources? : List (List String × Value) → Option (List (List String × Source))
  | [] => some []
  | p :: ps => do
      let src ← p.2.toSource?
      let more ← pairsSources? ps
      some ((p.1, src) :: more)

end

/-! ## Documents -/

/-- The document after some statements, the first of which come under the header with the
given path. -/
def build? : (header : List String) → Entries → List Statement → Option Entries
  | _, es, [] => some es
  | header, es, .pair path v :: ss => do
      let src ← v.toSource?
      let es ← Entries.update? .implied (fun _ t => t.addPair? path src) header .headed es
      build? header es ss
  | _, es, .table path :: ss => do
      let es ← es.openHeader? Entries.openTable? path
      build? path es ss
  | _, es, .element path :: ss => do
      let es ← es.openHeader? Entries.openElement? path
      build? path es ss

mutual

/-- Every integer has a value of 64 bits with a sign. -/
def isSound : Source → Bool
  | .unreadable => false
  | .atom (.int n) => decide (n < 2 ^ 63)
  | .list _ items => areSound items
  | .map _ entries => haveSound entries
  | _ => true

def areSound : List Source → Bool
  | [] => true
  | src :: rest => isSound src && areSound rest

def haveSound : List (PathStep × Source × Source) → Bool
  | [] => true
  | e :: rest => isSound e.2.2 && haveSound rest

end

/-- The characters without a byte order mark at the front. -/
def dropMark : List Char → List Char
  | '\ufeff' :: cs => cs
  | cs => cs

/-- A text as a source; `none` for a text that is no TOML. -/
def read? (text : String) : Option Source := do
  let cs := dropMark text.toList
  let ss ← statements? (cs.length + 1) cs
  let es ← build? [] [] ss
  some (mapSource (entriesSources es))

end CiPipeline.Toml

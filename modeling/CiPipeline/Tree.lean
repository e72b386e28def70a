import CiPipeline.Number.Binary64

set_option autoImplicit false

/-! # Trees

The data that a document is made of: null, truth values, numbers, texts, lists, and maps
with their entries in order. Model values and provider documents are turned into trees, and
trees are written out as text.
-/

namespace CiPipeline

/-- Ordered data. -/
inductive Tree where
  | null
  | bool (b : Bool)
  | int (n : Int)
  | float (x : Number.Binary64)
  | str (s : String)
  | list (items : List Tree)
  | map (entries : List (String × Tree))
  deriving Inhabited

namespace Tree

/-- The list of some texts. -/
def strings (ss : List String) : Tree := .list (ss.map .str)

/-- The map of some named texts. -/
def texts (es : List (String × String)) : Tree := .map (es.map fun e => (e.1, .str e.2))

/-! ## Records

A record is a map with a fixed order of keys, some of which may be left out. -/

/-- A key that is always written. -/
def field (key : String) (value : Tree) : List (String × Tree) := [(key, value)]

/-- A key that is left out without a value. -/
def optional {α : Type} (key : String) (toTree : α → Tree) : Option α → List (String × Tree)
  | some a => [(key, toTree a)]
  | none => []

/-- A key that is left out for an empty list. -/
def unlessEmpty {α : Type} (key : String) (toTree : List α → Tree) (xs : List α) :
    List (String × Tree) :=
  if xs.isEmpty then [] else [(key, toTree xs)]

/-- The map of the keys that are written, in order. -/
def record (keys : List (List (String × Tree))) : Tree := .map keys.flatten

end Tree

end CiPipeline

import CiPipeline.Yaml.Scalar

set_option autoImplicit false

/-! # Nodes

A YAML document as a tree. A node may be marked with the number of an anchor, and a
reference stands for the node that is marked with its number.
-/

namespace CiPipeline.Yaml

/-- A node of a document. -/
inductive Node where
  | scalar (s : Scalar)
  | sequence (tag : Option Tag) (items : List Node)
  | mapping (tag : Option Tag) (entries : List (Node × Node))
  | reference (anchor : Nat)
  | anchored (anchor : Nat) (node : Node)
  deriving Inhabited

namespace Node

/-- A scalar that is not there. -/
def blank : Node := scalar ⟨"", .plain, none⟩

mutual

/-- The marked nodes, each before those inside it. -/
def marked : Node → List (Nat × Node)
  | scalar _ => []
  | sequence _ items => markedItems items
  | mapping _ entries => markedEntries entries
  | reference _ => []
  | anchored anchor node => (anchor, node) :: node.marked

def markedItems : List Node → List (Nat × Node)
  | [] => []
  | n :: ns => n.marked ++ markedItems ns

def markedEntries : List (Node × Node) → List (Nat × Node)
  | [] => []
  | e :: es => e.1.marked ++ e.2.marked ++ markedEntries es

end

mutual

/-- The number of scalars, references, and starts and ends of collections. -/
def weight : Node → Nat
  | scalar _ => 1
  | sequence _ items => 2 + weightItems items
  | mapping _ entries => 2 + weightEntries entries
  | reference _ => 1
  | anchored _ node => node.weight

def weightItems : List Node → Nat
  | [] => 0
  | n :: ns => n.weight + weightItems ns

def weightEntries : List (Node × Node) → Nat
  | [] => 0
  | e :: es => e.1.weight + e.2.weight + weightEntries es

end

end Node

end CiPipeline.Yaml

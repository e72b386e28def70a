set_option autoImplicit false

/-! # Reachability in finite directed graphs

Graphs whose nodes are the numbers below the number of rows. Row `i` is a number whose bit
`j` says that an edge leads from `i` to `j`. The closure of a graph has an edge wherever the
graph has a chain of edges; it is built by letting chains pass through one node after the
other. Nodes that reach each other form a class; a node that no chain leads back to is in
no class.
-/

namespace CiPipeline

/-- A directed graph given by its rows of edges. -/
structure Digraph where
  rows : List Nat
  deriving DecidableEq, Inhabited

namespace Digraph

/-- The number of nodes. -/
def size (g : Digraph) : Nat := g.rows.length

/-- An edge leads from `i` to `j`. -/
def edge (g : Digraph) (i j : Nat) : Bool := (g.rows.getD i 0).testBit j

/-- A chain of one or more edges leads from `i` to `j`. -/
inductive Chain (g : Digraph) : Nat → Nat → Prop where
  | single {i j : Nat} : g.edge i j = true → Chain g i j
  | cons {i j k : Nat} : g.edge i j = true → Chain g j k → Chain g i k

/-- The graph with an edge for every two edges that meet in `k`. -/
def through (g : Digraph) (k : Nat) : Digraph :=
  let next := g.rows.getD k 0
  ⟨g.rows.map fun row => if row.testBit k then row ||| next else row⟩

/-- The graph with an edge for every chain. -/
def closure (g : Digraph) : Digraph := (List.range g.size).foldl through g

/-- The nodes of the closure `c` that reach `i` and are reached from it, in order. -/
def mates (c : Digraph) (i : Nat) : List Nat :=
  (List.range c.size).filter fun j => c.edge i j && c.edge j i

/-- The classes of nodes that reach each other, by their least nodes. -/
def classes (g : Digraph) : List (List Nat) :=
  let c := g.closure
  (List.range c.size).filterMap fun i =>
    let group := c.mates i
    if group.head? = some i then some group else none

end Digraph

end CiPipeline

import CiPipeline.Workflow.Reachability

set_option autoImplicit false

/-! # What the closure of a graph tells

The closure of a graph has an edge exactly where the graph has a chain (`edge_closure`). So
its classes are the sets of nodes that reach each other: two nodes are in one class iff a
chain leads from each to the other (`mem_classes_iff`), the classes are in the order of their
least nodes, and so are the nodes of each class.
-/

namespace CiPipeline.Digraph

/-! ## Chains -/

theorem Chain.trans {g : Digraph} {i j k : Nat} (h₁ : Chain g i j) (h₂ : Chain g j k) :
    Chain g i k := by
  induction h₁ with
  | single h => exact .cons h h₂
  | cons h _ ih => exact .cons h (ih h₂)

/-- A graph whose edges are all chains of another one has no chains but those. -/
theorem Chain.of_edges {g c : Digraph} (h : ∀ i j, c.edge i j = true → Chain g i j)
    {i j : Nat} (hc : Chain c i j) : Chain g i j := by
  induction hc with
  | single he => exact h _ _ he
  | cons he _ ih => exact (h _ _ he).trans ih

/-- Only nodes have edges that lead away from them. -/
theorem lt_size_of_edge {g : Digraph} {i j : Nat} (h : g.edge i j = true) : i < g.size := by
  refine Nat.lt_of_not_le fun hi => ?_
  have hrow : g.rows.getD i 0 = 0 := by
    rw [List.getD_eq_getElem?_getD, List.getElem?_eq_none hi]
    rfl
  rw [edge, hrow, Nat.zero_testBit] at h
  cases h

/-! ## Chains through one more node -/

@[simp] theorem size_through (g : Digraph) (k : Nat) : (g.through k).size = g.size := by
  simp [through, size]

theorem edge_through (g : Digraph) (k i j : Nat) :
    (g.through k).edge i j = true ↔
      g.edge i j = true ∨ g.edge i k = true ∧ g.edge k j = true := by
  by_cases hi : i < g.size
  · have hrow : (g.through k).rows.getD i 0 =
        if (g.rows.getD i 0).testBit k then g.rows.getD i 0 ||| g.rows.getD k 0
        else g.rows.getD i 0 := by
      have hi' : i < g.rows.length := hi
      simp [through, List.getD_eq_getElem?_getD, hi']
    rw [edge, hrow]
    by_cases hk : (g.rows.getD i 0).testBit k
    · rw [if_pos hk, Nat.testBit_or, Bool.or_eq_true]
      simp only [edge, hk, true_and]
    · rw [if_neg hk]
      exact ⟨Or.inl, fun he => he.elim id fun he => absurd he.1 hk⟩
  · -- beyond the nodes no edge leads away, in either graph
    have h : ∀ {c : Digraph} {m : Nat}, c.size = g.size → ¬ c.edge i m = true :=
      fun hs he => hi (hs ▸ lt_size_of_edge he)
    have h₁ := h (m := j) (size_through g k)
    have h₂ := h (m := j) (rfl : g.size = g.size)
    have h₃ := h (m := k) (rfl : g.size = g.size)
    exact iff_of_false h₁ fun he => he.elim h₂ fun he => h₃ he.1

/-- Edges that meet in `k` have an edge beside them. -/
def ClosedAt (g : Digraph) (k : Nat) : Prop :=
  ∀ i j, g.edge i k = true → g.edge k j = true → g.edge i j = true

theorem closedAt_through (g : Digraph) (k : Nat) : (g.through k).ClosedAt k := by
  intro i j hik hkj
  rw [edge_through] at hik hkj ⊢
  rcases hik with hik | ⟨hik, -⟩ <;> rcases hkj with hkj | ⟨-, hkj⟩ <;>
    exact Or.inr ⟨hik, hkj⟩

theorem ClosedAt.through {g : Digraph} {m : Nat} (h : g.ClosedAt m) (k : Nat) :
    (g.through k).ClosedAt m := by
  intro i j him hmj
  rw [edge_through] at him hmj ⊢
  rcases him with him | ⟨hik, hkm⟩
  · rcases hmj with hmj | ⟨hmk, hkj⟩
    · exact Or.inl (h i j him hmj)
    · exact Or.inr ⟨h i k him hmk, hkj⟩
  · rcases hmj with hmj | ⟨-, hkj⟩
    · exact Or.inr ⟨hik, h k j hkm hmj⟩
    · exact Or.inr ⟨hik, hkj⟩

/-! ## The closure

Three things hold of the graphs on the way to the closure: they have the edges of the graph,
their edges are chains of the graph, and they are closed at all nodes that came already. -/

@[simp] theorem size_foldl_through (g : Digraph) (ks : List Nat) :
    (ks.foldl through g).size = g.size := by
  induction ks generalizing g with
  | nil => rfl
  | cons k ks ih => rw [List.foldl_cons, ih, size_through]

theorem edge_foldl_of_edge {g : Digraph} (ks : List Nat) {i j : Nat}
    (h : g.edge i j = true) : (ks.foldl through g).edge i j = true := by
  induction ks generalizing g with
  | nil => exact h
  | cons k ks ih => exact ih ((edge_through g k i j).2 (Or.inl h))

theorem chain_of_edge_foldl {g : Digraph} (ks : List Nat) {i j : Nat}
    (h : (ks.foldl through g).edge i j = true) : Chain g i j := by
  induction ks generalizing g i j with
  | nil => exact .single h
  | cons k ks ih =>
      refine Chain.of_edges (fun a b hab => ?_) (ih h)
      rcases (edge_through g k a b).1 hab with hab | ⟨hak, hkb⟩
      · exact .single hab
      · exact .cons hak (.single hkb)

theorem ClosedAt.foldl {g : Digraph} {m : Nat} (h : g.ClosedAt m) (ks : List Nat) :
    (ks.foldl Digraph.through g).ClosedAt m := by
  induction ks generalizing g with
  | nil => exact h
  | cons k ks ih => exact ih (h.through k)

theorem closedAt_foldl {g : Digraph} {ks : List Nat} {m : Nat} (h : m ∈ ks) :
    (ks.foldl through g).ClosedAt m := by
  induction ks generalizing g with
  | nil => cases h
  | cons k ks ih =>
      rcases List.mem_cons.1 h with rfl | h
      · exact (closedAt_through g m).foldl ks
      · exact ih h

@[simp] theorem size_closure (g : Digraph) : g.closure.size = g.size := size_foldl_through ..

theorem edge_closure_trans {g : Digraph} {i j k : Nat} (h₁ : g.closure.edge i j = true)
    (h₂ : g.closure.edge j k = true) : g.closure.edge i k = true := by
  have hj : j < g.size := by
    have := lt_size_of_edge h₂
    rwa [size_closure] at this
  exact closedAt_foldl (List.mem_range.2 hj) i k h₁ h₂

/-- **The closure decides reachability.** -/
theorem edge_closure {g : Digraph} {i j : Nat} : g.closure.edge i j = true ↔ Chain g i j := by
  constructor
  · exact chain_of_edge_foldl _
  · intro h
    induction h with
    | single h => exact edge_foldl_of_edge _ h
    | cons h _ ih => exact edge_closure_trans (edge_foldl_of_edge _ h) ih

/-! ## Classes -/

theorem mem_mates {g : Digraph} {i j : Nat} :
    j ∈ g.closure.mates i ↔ Chain g i j ∧ Chain g j i := by
  simp only [mates, List.mem_filter, List.mem_range, Bool.and_eq_true, edge_closure]
  constructor
  · exact fun h => h.2
  · intro h
    exact ⟨lt_size_of_edge (edge_closure.2 h.2), h⟩

/-- Nodes that reach each other have the same mates. -/
theorem mates_eq_of_mem {g : Digraph} {i j : Nat} (h : j ∈ g.closure.mates i) :
    g.closure.mates j = g.closure.mates i := by
  obtain ⟨hij, hji⟩ := mem_mates.1 h
  refine List.filter_congr fun k _ => ?_
  rw [Bool.eq_iff_iff]
  simp only [Bool.and_eq_true, edge_closure]
  exact ⟨fun hk => ⟨hij.trans hk.1, hk.2.trans hji⟩, fun hk => ⟨hji.trans hk.1, hk.2.trans hij⟩⟩

theorem pairwise_mates (c : Digraph) (i : Nat) : (c.mates i).Pairwise (· < ·) :=
  List.pairwise_lt_range.sublist List.filter_sublist

theorem mem_classes {g : Digraph} {group : List Nat} :
    group ∈ g.classes ↔ ∃ i, g.closure.mates i = group ∧ group.head? = some i := by
  simp only [classes, List.mem_filterMap, List.mem_range]
  constructor
  · rintro ⟨i, -, h⟩
    split at h
    · rename_i hi
      cases h
      exact ⟨i, rfl, hi⟩
    · cases h
  · rintro ⟨i, rfl, hi⟩
    have hmem : i ∈ g.closure.mates i := List.mem_of_mem_head? hi
    refine ⟨i, lt_size_of_edge (edge_closure.2 (mem_mates.1 hmem).1), ?_⟩
    rw [if_pos hi]

/-- **Two nodes are in one class iff each of them reaches the other.** -/
theorem mem_classes_iff {g : Digraph} {i j : Nat} :
    (∃ group ∈ g.classes, i ∈ group ∧ j ∈ group) ↔ Chain g i j ∧ Chain g j i := by
  constructor
  · rintro ⟨group, hgroup, hi, hj⟩
    obtain ⟨k, rfl, -⟩ := mem_classes.1 hgroup
    obtain ⟨hki, hik⟩ := mem_mates.1 hi
    obtain ⟨hkj, hjk⟩ := mem_mates.1 hj
    exact ⟨hik.trans hkj, hjk.trans hki⟩
  · intro h
    have hi : i ∈ g.closure.mates i := mem_mates.2 ⟨h.1.trans h.2, h.1.trans h.2⟩
    obtain ⟨k, hk⟩ : ∃ k, (g.closure.mates i).head? = some k := by
      cases hm : g.closure.mates i with
      | nil => rw [hm] at hi; cases hi
      | cons k _ => exact ⟨k, rfl⟩
    have hki := mates_eq_of_mem (List.mem_of_mem_head? hk)
    exact ⟨g.closure.mates i, mem_classes.2 ⟨k, hki, hk⟩, hi, mem_mates.2 h⟩

/-- The nodes of a class are in order. -/
theorem pairwise_of_mem_classes {g : Digraph} {group : List Nat} (h : group ∈ g.classes) :
    group.Pairwise (· < ·) := by
  obtain ⟨i, rfl, -⟩ := mem_classes.1 h
  exact pairwise_mates _ i

/-- The classes are in the order of their least nodes, and have no node in common. -/
theorem pairwise_classes (g : Digraph) :
    g.classes.Pairwise fun a b =>
      (∀ i ∈ a.head?, ∀ j ∈ b.head?, i < j) ∧ ∀ i ∈ a, i ∉ b := by
  refine List.pairwise_lt_range.filterMap _ fun i j hij a ha b hb => ?_
  dsimp only at ha hb
  split at ha
  · rename_i hi
    split at hb
    · rename_i hj
      cases ha
      cases hb
      refine ⟨?_, fun k hk hk' => ?_⟩
      · intro a ha b hb
        rw [hi] at ha
        rw [hj] at hb
        cases ha
        cases hb
        exact hij
      · -- a common node would give both classes the same least node
        have heq := (mates_eq_of_mem hk).symm.trans (mates_eq_of_mem hk')
        rw [heq, hj] at hi
        cases hi
        exact Nat.lt_irrefl _ hij
    · cases hb
  · cases ha

theorem ne_nil_of_mem_classes {g : Digraph} {group : List Nat} (h : group ∈ g.classes) :
    group ≠ [] := by
  obtain ⟨i, -, hi⟩ := mem_classes.1 h
  intro hnil
  rw [hnil] at hi
  cases hi

end CiPipeline.Digraph

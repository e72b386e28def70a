import Mathlib.Data.List.Basic
import Mathlib.Logic.Relation

set_option autoImplicit false

/-! # Orders and cycles

The members of a list can be put in an order in which each comes after all that it depends
on if and only if no chain of dependencies leads from a member to itself. For the order,
members are sorted by the number of members that they reach.
-/

namespace CiPipeline

open Relation

variable {α β : Type}

/-- Every member of the list comes after all members that it depends on. -/
def InOrder (dependsOn : α → α → Prop) (order : List α) : Prop :=
  ∀ (i j : Nat) (a b : α), order[i]? = some a → order[j]? = some b → dependsOn a b → j < i

/-- In an order, all that a member reaches comes before it. -/
theorem InOrder.lt_of_transGen {r : α → α → Prop} {order : List α} (h : InOrder r order)
    (hmem : ∀ a b, r a b → a ∈ order) {a b : α} (hab : TransGen r a b) :
    ∀ i j : Nat, order[i]? = some a → order[j]? = some b → j < i := by
  induction hab with
  | single hr =>
      intro i j hi hj
      exact h i j _ _ hi hj hr
  | tail _ hr ih =>
      intro i j hi hj
      obtain ⟨k, hk⟩ := List.mem_iff_getElem?.1 (hmem _ _ hr)
      exact Nat.lt_trans (h k j _ _ hk hj hr) (ih i k hi hk)

theorem InOrder.acyclic {r : α → α → Prop} {order : List α} (h : InOrder r order)
    (hmem : ∀ a b, r a b → a ∈ order) (a : α) : ¬ TransGen r a a := by
  intro ha
  obtain ⟨b, hab, -⟩ := TransGen.head'_iff.1 ha
  obtain ⟨i, hi⟩ := List.mem_iff_getElem?.1 (hmem a b hab)
  exact Nat.lt_irrefl i (h.lt_of_transGen hmem ha i i hi hi)

/-- An order of some things is one of what stands for them, if that has no other dependencies. -/
theorem InOrder.map {r : α → α → Prop} {s : β → β → Prop} {f : α → β} {order : List α}
    (h : InOrder r order) (hf : ∀ a ∈ order, ∀ b ∈ order, s (f a) (f b) → r a b) :
    InOrder s (order.map f) := by
  intro i j x y hi hj hxy
  rw [List.getElem?_map, Option.map_eq_some_iff] at hi hj
  obtain ⟨a, ha, rfl⟩ := hi
  obtain ⟨b, hb, rfl⟩ := hj
  have hab := hf a (List.mem_of_getElem? ha) b (List.mem_of_getElem? hb) hxy
  exact h i j a b ha hb hab

open Classical in
/-- The number of members of the list that `a` reaches. -/
noncomputable def reach (r : α → α → Prop) (l : List α) (a : α) : Nat :=
  (l.filter fun b => TransGen r a b).length

/-- What a member depends on reaches fewer members: the member itself is missing. -/
theorem reach_lt {r : α → α → Prop} (hr : ∀ a, ¬ TransGen r a a) {l : List α} {a b : α}
    (hab : r a b) (hb : b ∈ l) : reach r l b < reach r l a := by
  classical
  -- all that `b` reaches is reached by `a`, and `b` is reached by `a` but not by itself
  have hsub : (l.filter fun c => TransGen r b c) =
      (l.filter fun c => TransGen r a c).filter fun c => TransGen r b c := by
    rw [List.filter_filter]
    refine List.filter_congr fun c _ => ?_
    rw [Bool.eq_iff_iff, Bool.and_eq_true, decide_eq_true_eq, decide_eq_true_eq]
    exact ⟨fun h => ⟨h, .head hab h⟩, fun h => h.1⟩
  rw [reach, reach, hsub, List.length_filter_lt_length_iff_exists]
  refine ⟨b, List.mem_filter.2 ⟨hb, ?_⟩, ?_⟩
  · exact decide_eq_true (.single hab)
  · simpa using hr b

/-- A list sorted by a key. -/
theorem pairwise_mergeSort_key (key : α → Nat) (l : List α) :
    (l.mergeSort fun a b => decide (key a ≤ key b)).Pairwise fun a b => key a ≤ key b := by
  refine (List.pairwise_mergeSort ?_ ?_ l).imp fun h => of_decide_eq_true h
  · intro a b c hab hbc
    simp only [decide_eq_true_eq] at hab hbc ⊢
    exact Nat.le_trans hab hbc
  · intro a b
    simp only [Bool.or_eq_true, decide_eq_true_eq]
    exact Nat.le_total _ _

/-- **Without cycles there is an order.** The dependencies are between what `f` gives for the
members of the list. -/
theorem exists_inOrder {r : β → β → Prop} (hr : ∀ b, ¬ TransGen r b b) (f : α → β)
    (l : List α) : ∃ order, order.Perm l ∧ InOrder (fun a b => r (f a) (f b)) order := by
  -- sorted by rank, what a member depends on cannot come after it
  let rank := fun a => reach r (l.map f) (f a)
  let order := l.mergeSort fun a b => decide (rank a ≤ rank b)
  have hperm : order.Perm l := List.mergeSort_perm l _
  have hsorted : order.Pairwise fun a b => rank a ≤ rank b := pairwise_mergeSort_key rank l
  refine ⟨order, hperm, fun i j a b hi hj hab => ?_⟩
  have hb : f b ∈ l.map f := List.mem_map_of_mem (hperm.mem_iff.1 (List.mem_of_getElem? hj))
  have hlt : rank b < rank a := reach_lt hr hab hb
  obtain ⟨hi', rfl⟩ := List.getElem?_eq_some_iff.1 hi
  obtain ⟨hj', rfl⟩ := List.getElem?_eq_some_iff.1 hj
  rcases Nat.lt_trichotomy i j with hij | rfl | hij
  · have hle := List.pairwise_iff_getElem.1 hsorted i j hi' hj' hij
    omega
  · exact absurd (TransGen.single hab) (hr _)
  · exact hij

end CiPipeline

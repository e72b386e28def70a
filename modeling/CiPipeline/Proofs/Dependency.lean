import CiPipeline.Proofs.Lists
import CiPipeline.Proofs.Reachability
import CiPipeline.Workflow.Check
import Mathlib.Logic.Relation

set_option autoImplicit false

/-! # Dependencies between names

The graph that a workflow is checked with has the positions of the registered names as its
nodes. Its edges are the dependencies between names (`edge_dependencyGraph`), so its chains
are the chains of dependencies (`chain_dependencyGraph`).
-/

namespace CiPipeline

open Relation

/-! ## References -/

/-- The step refers to a job of this name, plainly or for its artifacts. -/
def Step.RefersTo (s : Step) (name : String) : Prop :=
  name ∈ s.jobDependencies ∨ ⟨name⟩ ∈ s.artifactDependencies

instance (s : Step) (name : String) : Decidable (s.RefersTo name) :=
  inferInstanceAs (Decidable (_ ∨ _))

/-- A job depends on the names that its steps refer to. -/
theorem Job.mem_dependencyNames {j : Job} {name : String} :
    name ∈ j.dependencyNames ↔ ∃ s ∈ j.steps, s.RefersTo name := by
  simp only [dependencyNames, jobDependencies, artifactDependencies, List.mem_eraseDups,
    List.mem_append, List.mem_flatMap, List.mem_map]
  constructor
  · rintro (⟨s, hs, h⟩ | ⟨s, hs, ⟨d⟩, h, rfl⟩)
    · exact ⟨s, hs, Or.inl h⟩
    · exact ⟨s, hs, Or.inr h⟩
  · rintro ⟨s, hs, h | h⟩
    · exact Or.inl ⟨s, hs, h⟩
    · exact Or.inr ⟨s, hs, ⟨name⟩, h, rfl⟩

/-! ## Registered names -/

variable {jobs : List Job}

/-- The position at which a job of this name is registered first. -/
def registration (jobs : List Job) (name : String) : Nat := (jobs.map (·.name)).idxOf name

theorem mem_jobNames {a : String} : a ∈ jobNames jobs ↔ ∃ j ∈ jobs, j.name = a := by
  rw [jobNames, List.mem_eraseDups, List.mem_map]

theorem nodup_jobNames (jobs : List Job) : (jobNames jobs).Nodup := nodup_eraseDups _

theorem pairwise_registration (jobs : List Job) :
    (jobNames jobs).Pairwise fun a b => registration jobs a < registration jobs b :=
  pairwise_idxOf_eraseDups _

/-- In a list without repetitions a member has one position. -/
theorem getElem?_eq_some_iff_idxOf {l : List String} (hl : l.Nodup) {i : Nat} {a : String} :
    l[i]? = some a ↔ a ∈ l ∧ l.idxOf a = i := by
  constructor
  · intro h
    obtain ⟨hi, rfl⟩ := List.getElem?_eq_some_iff.1 h
    exact ⟨List.getElem_mem hi, hl.idxOf_getElem i hi⟩
  · rintro ⟨ha, rfl⟩
    exact List.getElem?_eq_some_iff.2
      ⟨List.idxOf_lt_length_of_mem ha, List.getElem_idxOf _⟩

theorem position_unique {i j : Nat} {a : String} (hi : (jobNames jobs)[i]? = some a)
    (hj : (jobNames jobs)[j]? = some a) : i = j := by
  rw [getElem?_eq_some_iff_idxOf (nodup_jobNames jobs)] at hi hj
  exact hi.2.symm.trans hj.2

theorem exists_position {a : String} (h : ∃ j ∈ jobs, j.name = a) :
    ∃ i : Nat, (jobNames jobs)[i]? = some a :=
  List.mem_iff_getElem?.1 (mem_jobNames.2 h)

/-! ## Edges -/

theorem testBit_foldl_or (positions : List Nat) (n i : Nat) :
    (positions.foldl (fun n i => n ||| 1 <<< i) n).testBit i = true ↔
      n.testBit i = true ∨ i ∈ positions := by
  induction positions generalizing n with
  | nil => simp
  | cons p ps ih =>
      -- the bit of one position is set at this position only
      have hp : (1 <<< p).testBit i = true ↔ i = p := by
        rw [Nat.one_shiftLeft, Nat.testBit_two_pow]
        simp [eq_comm]
      rw [List.foldl_cons, ih, Nat.testBit_or, Bool.or_eq_true, hp, List.mem_cons, or_assoc]

theorem testBit_bits (positions : List Nat) (i : Nat) :
    (bits positions).testBit i = true ↔ i ∈ positions := by
  rw [bits, testBit_foldl_or]
  simp

theorem dependsOn_iff {a b : String} :
    DependsOn jobs a b ↔ a ∈ jobNames jobs ∧ b ∈ dependenciesOf jobs a ∧ b ∈ jobNames jobs := by
  simp only [DependsOn, dependenciesOf, mem_jobNames, List.mem_flatMap, List.mem_filter,
    beq_iff_eq]
  constructor
  · rintro ⟨⟨j, hj, rfl, hb⟩, hk⟩
    exact ⟨⟨j, hj, rfl⟩, ⟨j, ⟨hj, rfl⟩, hb⟩, hk⟩
  · rintro ⟨-, ⟨j, ⟨hj, rfl⟩, hb⟩, hk⟩
    exact ⟨⟨j, hj, rfl, hb⟩, hk⟩

/-- **The edges of the graph are the dependencies between names.** -/
theorem edge_dependencyGraph {i j : Nat} :
    (dependencyGraph jobs).edge i j = true ↔
      ∃ a b, (jobNames jobs)[i]? = some a ∧ (jobNames jobs)[j]? = some b ∧
        DependsOn jobs a b := by
  simp only [Digraph.edge, dependencyGraph, List.getD_eq_getElem?_getD, List.getElem?_map,
    dependsOn_iff]
  cases hi : (jobNames jobs)[i]? with
  | none => simp
  | some a =>
      have ha : a ∈ jobNames jobs := List.mem_of_getElem? hi
      simp only [Option.map_some, Option.getD_some, testBit_bits, List.mem_map, List.mem_filter,
        List.contains_iff_mem, getElem?_eq_some_iff_idxOf (nodup_jobNames jobs)]
      constructor
      · rintro ⟨b, ⟨hd, hb⟩, hj⟩
        exact ⟨a, b, rfl, ⟨hb, hj⟩, ha, hd, hb⟩
      · rintro ⟨_, b, ha', ⟨hb, hj⟩, -, hd, -⟩
        cases ha'
        exact ⟨b, ⟨hd, hb⟩, hj⟩

/-- **The chains of the graph are the chains of dependencies.** -/
theorem chain_dependencyGraph {i j : Nat} :
    (dependencyGraph jobs).Chain i j ↔
      ∃ a b, (jobNames jobs)[i]? = some a ∧ (jobNames jobs)[j]? = some b ∧
        TransGen (DependsOn jobs) a b := by
  constructor
  · intro h
    induction h with
    | single h =>
        obtain ⟨a, b, ha, hb, hab⟩ := edge_dependencyGraph.1 h
        exact ⟨a, b, ha, hb, .single hab⟩
    | cons h _ ih =>
        obtain ⟨a, b, ha, hb, hab⟩ := edge_dependencyGraph.1 h
        obtain ⟨b', c, hb', hc, hbc⟩ := ih
        cases hb.symm.trans hb'
        exact ⟨a, c, ha, hc, .head hab hbc⟩
  · rintro ⟨a, b, ha, hb, h⟩
    induction h using TransGen.head_induction_on generalizing i with
    | single hab => exact .single (edge_dependencyGraph.2 ⟨_, b, ha, hb, hab⟩)
    | head hac _ ih =>
        obtain ⟨k, hk⟩ := exists_position hac.2
        exact .cons (edge_dependencyGraph.2 ⟨_, _, ha, hk, hac⟩) (ih hk)

/-- A chain of dependencies begins at a registered name. -/
theorem exists_job_of_chain {a b : String} (h : TransGen (DependsOn jobs) a b) :
    ∃ j ∈ jobs, j.name = a := by
  obtain ⟨c, ⟨⟨j, hj, hja, -⟩, -⟩, -⟩ := TransGen.head'_iff.1 h
  exact ⟨j, hj, hja⟩

end CiPipeline

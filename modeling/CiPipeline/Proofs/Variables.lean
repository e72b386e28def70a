import CiPipeline.GitLab.Compiler
import CiPipeline.Proofs.Bindings
import CiPipeline.Proofs.ByteOrder

set_option autoImplicit false

/-! # Variables of jobs

The steps of a job declare variables one after the other, and the last declaration of a variable
counts. In GitLab's entry the label of the job's environment comes before them all. So a step
that declares the variable of the label takes away its value, but not its place.

The induction is on the steps: what the steps so far have left of a variable counts only if no
later step declares it.
-/

namespace CiPipeline

/-! ## Sorted maps -/

namespace SortedMap

variable {α : Type}

theorem lookup_insertEntry (key k : String) (value : α) (es : List (String × α)) :
    (insertEntry key value es).lookup k = if k = key then some value else es.lookup k := by
  induction es with
  | nil => exact OrderedMap.lookup_cons_eq_ite (key, value) [] k
  | cons e es ih =>
      unfold insertEntry
      by_cases hlt : key < e.1
      · rw [if_pos hlt, OrderedMap.lookup_cons_eq_ite]
      · rw [if_neg hlt]
        by_cases heq : key = e.1
        · -- the new entry stands in for the old one, so both are looked up under one name
          rw [if_pos heq, OrderedMap.lookup_cons_eq_ite, OrderedMap.lookup_cons_eq_ite, heq]
          split <;> rfl
        · rw [if_neg heq, OrderedMap.lookup_cons_eq_ite, OrderedMap.lookup_cons_eq_ite, ih]
          by_cases hk : k = e.1
          · have hne : k ≠ key := fun h => heq (h.symm.trans hk)
            rw [if_pos hk, if_pos hk, if_neg hne]
          · rw [if_neg hk, if_neg hk]

theorem get?_insert (m : SortedMap α) (key k : String) (value : α) :
    (m.insert key value).get? k = if k = key then some value else m.get? k :=
  lookup_insertEntry key k value m.entries

theorem get?_insertAll (m : SortedMap α) (es : List (String × α)) (k : String) :
    (m.insertAll es).get? k = (es.reverse.lookup k).or (m.get? k) :=
  OrderedMap.lookup_foldl_insert insert (fun m => m.get? k)
    (fun m key value => get?_insert m key k value) es m

theorem pairwise_keys (m : SortedMap α) : m.keys.Pairwise (· < ·) :=
  List.pairwise_map.2 m.sorted

theorem nodup_keys (m : SortedMap α) : m.keys.Nodup :=
  m.pairwise_keys.imp fun {a b} (hlt : a < b) (heq : a = b) => String.lt_irrefl b (heq ▸ hlt)

/-- No name comes twice, so the entries can be looked up from either end. -/
theorem lookup_reverse_entries (m : SortedMap α) (k : String) :
    m.entries.reverse.lookup k = m.get? k := by
  rw [← OrderedMap.get?_ofList, OrderedMap.get?, OrderedMap.entries_ofList m.nodup_keys, get?]

theorem entries_eq_nil_iff (m : SortedMap α) : m.entries = [] ↔ ∀ k, m.get? k = none := by
  unfold get?
  cases m.entries with
  | nil => exact iff_of_true rfl fun _ => rfl
  | cons e es =>
      refine iff_of_false (List.cons_ne_nil _ _) fun h => ?_
      have hfirst := h e.1
      rw [OrderedMap.lookup_cons_eq_ite, if_pos rfl] at hfirst
      cases hfirst

end SortedMap

/-! ## The steps of a job -/

/-- The value that the last of some steps to declare a variable gives it. -/
def lastDeclared (steps : List Step) (k : String) : Option String :=
  steps.reverse.findSome? fun s => s.environmentVariables.get? k

theorem lastDeclared_cons (s : Step) (steps : List Step) (k : String) :
    lastDeclared (s :: steps) k =
      (lastDeclared steps k).or (s.environmentVariables.get? k) := by
  rw [lastDeclared, List.reverse_cons, List.findSome?_append]
  simp [lastDeclared]

theorem get?_foldl_insertAll (steps : List Step) (m : SortedMap String) (k : String) :
    (steps.foldl (fun m s => m.insertAll s.environmentVariables.entries) m).get? k =
      (lastDeclared steps k).or (m.get? k) := by
  induction steps generalizing m with
  | nil => rfl
  | cons s steps ih =>
      rw [List.foldl_cons, ih, SortedMap.get?_insertAll, SortedMap.lookup_reverse_entries,
        lastDeclared_cons, Option.or_assoc]

/-- **What a job as a whole declares** of a variable is what the last step declares that names
it. -/
theorem Job.get?_variables (j : Job) (k : String) :
    j.variables.get? k = lastDeclared j.steps k := by
  rw [Job.variables, get?_foldl_insertAll]
  exact Option.or_none

theorem lastDeclared_eq_none_iff (steps : List Step) (k : String) :
    lastDeclared steps k = none ↔ ∀ s ∈ steps, s.environmentVariables.get? k = none := by
  simp only [lastDeclared, List.findSome?_eq_none_iff, List.mem_reverse]

theorem lastDeclared_of_last {before after : List Step} {s : Step} {k v : String}
    (hs : s.environmentVariables.get? k = some v)
    (hafter : ∀ t ∈ after, t.environmentVariables.get? k = none) :
    lastDeclared (before ++ s :: after) k = some v := by
  induction before with
  | nil =>
      have hnone := (lastDeclared_eq_none_iff after k).2 hafter
      rw [List.nil_append, lastDeclared_cons, hnone, hs, Option.none_or]
  | cons t before ih => rw [List.cons_append, lastDeclared_cons, ih, Option.some_or]

namespace GitLab

/-! ## GitLab's entry -/

/-- The variables are the merge that a job asks for: the label of its environment, then what its
steps declare. -/
structure Merges (j : CiPipeline.Job) (merged : OrderedMap String) : Prop where
  /-- The last step that declares a variable gives its value. -/
  declared : ∀ before s after k v, j.steps = before ++ s :: after →
    s.environmentVariables.get? k = some v →
    (∀ t ∈ after, t.environmentVariables.get? k = none) → merged.get? k = some v
  /-- Without such a step it has the label, if it is the variable for it, or is not there. -/
  undeclared : ∀ k, (∀ s ∈ j.steps, s.environmentVariables.get? k = none) →
    merged.get? k = if k = "ENVIRONMENT" then j.environment else none
  nodup : merged.keys.Nodup
  /-- The variable of the label comes first, and the others in the order of their bytes. -/
  ordered : ∃ others, merged.keys = (j.environment.toList.map fun _ => "ENVIRONMENT") ++ others ∧
    others.Pairwise fun a b => Text.bytes a < Text.bytes b
  empty_iff : merged.entries = [] ↔
    j.environment = none ∧ ∀ s ∈ j.steps, s.environmentVariables.entries = []

namespace Compiler

variable (j : CiPipeline.Job)

/-- The entries that stand before those of the steps. -/
def labelEntries (j : CiPipeline.Job) : List (String × String) :=
  j.environment.toList.map fun label => ("ENVIRONMENT", label)

theorem get?_labelEntries (k : String) :
    (OrderedMap.ofList (labelEntries j)).get? k =
      if k = "ENVIRONMENT" then j.environment else none := by
  rw [OrderedMap.get?_ofList, labelEntries]
  cases j.environment with
  | none => simp
  | some label => exact OrderedMap.lookup_cons_eq_ite ("ENVIRONMENT", label) [] k

theorem keys_labelEntries :
    (OrderedMap.ofList (labelEntries j)).keys =
      j.environment.toList.map fun _ => "ENVIRONMENT" := by
  rw [labelEntries]
  cases j.environment <;> rfl

/-- The value of a variable: the last one that is declared, else the label. -/
theorem get?_variables (k : String) :
    («variables» j).get? k =
      (lastDeclared j.steps k).or (if k = "ENVIRONMENT" then j.environment else none) := by
  have hlabel := get?_labelEntries j k
  rw [labelEntries] at hlabel
  rw [«variables», OrderedMap.get?_insertAll, SortedMap.lookup_reverse_entries,
    Job.get?_variables, hlabel]

/-- The variables that are declared come in their order, after that of the label. -/
theorem keys_variables :
    («variables» j).keys = (j.environment.toList.map fun _ => "ENVIRONMENT") ++
      j.variables.keys.filter fun k => !(OrderedMap.ofList (labelEntries j)).keys.contains k := by
  have hnodup := j.variables.nodup_keys.filter
    fun k => !(OrderedMap.ofList (labelEntries j)).keys.contains k
  rw [← keys_labelEntries, ← eraseDups_of_nodup hnodup]
  exact OrderedMap.keys_insertAll _ _

theorem pairwise_filter_keys (p : String → Bool) :
    (j.variables.keys.filter p).Pairwise fun a b => Text.bytes a < Text.bytes b := by
  have hsorted := j.variables.pairwise_keys.filter p
  exact hsorted.imp fun {a b} hlt => (Text.lt_iff_bytes_lt a b).1 hlt

theorem variables_eq_nil_iff :
    («variables» j).entries = [] ↔
      j.environment = none ∧ ∀ s ∈ j.steps, s.environmentVariables.entries = [] := by
  have hget : («variables» j).entries = [] ↔ ∀ k, («variables» j).get? k = none := by
    rw [← List.map_eq_nil_iff, List.eq_nil_iff_forall_not_mem]
    refine forall_congr' fun k => ?_
    rw [Option.eq_none_iff_forall_not_mem]
    exact (not_congr (OrderedMap.mem_keys_iff _ k)).trans not_exists
  simp only [hget, get?_variables, Option.or_eq_none_iff, lastDeclared_eq_none_iff,
    SortedMap.entries_eq_nil_iff]
  constructor
  · intro h
    exact ⟨by simpa using (h "ENVIRONMENT").2, fun s hs k => (h k).1 s hs⟩
  · rintro ⟨hlabel, hsteps⟩ k
    refine ⟨fun s hs => hsteps s hs k, ?_⟩
    rw [hlabel, ite_self]

end Compiler

/-- **The variables of an entry.** Whatever a job declares and whatever the settings of the
compiler are, the entry for the job has the merge that the job asks for. -/
theorem variables_merged (c : Compiler) (j : CiPipeline.Job) : Merges j (c.job j).variables where
  declared := by
    intro before s after k v hsteps hs hafter
    have hlast : lastDeclared j.steps k = some v := by
      rw [hsteps]
      exact lastDeclared_of_last hs hafter
    exact (Compiler.get?_variables j k).trans (by rw [hlast, Option.some_or])
  undeclared := by
    intro k hnone
    have hlast : lastDeclared j.steps k = none := (lastDeclared_eq_none_iff j.steps k).2 hnone
    exact (Compiler.get?_variables j k).trans (by rw [hlast, Option.none_or])
  nodup := (c.job j).variables.nodup
  ordered := ⟨_, Compiler.keys_variables j, Compiler.pairwise_filter_keys j _⟩
  empty_iff := Compiler.variables_eq_nil_iff j

/-- A step that declares the variable of the label changes its value where it stands. -/
example :
    let steps := [
      (Step.ofCommands ["./plan.sh"]).withVariable "ZONE" "eu" |>.withVariable "MODE" "fast",
      (Step.ofCommands ["./deploy.sh"]).withVariable "ENVIRONMENT" "canary"
        |>.withVariable "MODE" "full"]
    (Compiler.variables ((CiPipeline.Job.ofSteps "Deploy" steps).withEnvironment "live")).entries =
      [("ENVIRONMENT", "canary"), ("MODE", "full"), ("ZONE", "eu")] := by
  decide +kernel

end GitLab

end CiPipeline

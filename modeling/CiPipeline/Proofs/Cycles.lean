import CiPipeline.Proofs.Dependency
import CiPipeline.Proofs.Order

set_option autoImplicit false

/-! # Reported cycles

A workflow is reported to have the cycles that it has. The groups of names in the reports
are the classes of names that depend on each other, and there is no report if and only if the
names can be put in an order.
-/

namespace CiPipeline

open Relation

variable {jobs : List Job}

/-! ## Groups of positions and groups of names -/

/-- The names at some positions. -/
def namesAt (jobs : List Job) (positions : List Nat) : List String :=
  positions.filterMap fun i => (jobNames jobs)[i]?

theorem dependencyCycles_eq (jobs : List Job) :
    dependencyCycles jobs = (dependencyGraph jobs).classes.map (namesAt jobs) := rfl

theorem mem_namesAt {positions : List Nat} {a : String} :
    a ∈ namesAt jobs positions ↔ ∃ i ∈ positions, (jobNames jobs)[i]? = some a :=
  List.mem_filterMap

/-- Every node of a class is the position of a name. -/
theorem exists_name_of_mem_class {group : List Nat} {i : Nat}
    (h : group ∈ (dependencyGraph jobs).classes) (hi : i ∈ group) :
    ∃ a, (jobNames jobs)[i]? = some a := by
  have hii := (Digraph.mem_classes_iff.1 ⟨group, h, hi, hi⟩).1
  obtain ⟨a, -, ha, -⟩ := chain_dependencyGraph.1 hii
  exact ⟨a, ha⟩

/-- The first name of a group is that of its first position. -/
theorem exists_head_of_head_namesAt {group : List Nat} {a : String}
    (h : group ∈ (dependencyGraph jobs).classes) (ha : a ∈ (namesAt jobs group).head?) :
    ∃ i ∈ group.head?, (jobNames jobs)[i]? = some a := by
  cases group with
  | nil => cases ha
  | cons i rest =>
      obtain ⟨b, hb⟩ := exists_name_of_mem_class h (List.mem_cons_self)
      rw [namesAt, List.filterMap_cons_some hb, List.head?_cons] at ha
      cases ha
      exact ⟨i, rfl, hb⟩

theorem registration_lt {i j : Nat} {a b : String} (hi : (jobNames jobs)[i]? = some a)
    (hj : (jobNames jobs)[j]? = some b) (hij : i < j) :
    registration jobs a < registration jobs b := by
  obtain ⟨hi', rfl⟩ := List.getElem?_eq_some_iff.1 hi
  obtain ⟨hj', rfl⟩ := List.getElem?_eq_some_iff.1 hj
  exact List.pairwise_iff_getElem.1 (pairwise_registration jobs) i j hi' hj' hij

/-! ## The groups of names -/

theorem mem_dependencyCycles_iff {a b : String} :
    (∃ cycle ∈ dependencyCycles jobs, a ∈ cycle ∧ b ∈ cycle) ↔
      TransGen (DependsOn jobs) a b ∧ TransGen (DependsOn jobs) b a := by
  constructor
  · rintro ⟨cycle, hcycle, ha, hb⟩
    obtain ⟨group, hgroup, rfl⟩ := List.mem_map.1 (dependencyCycles_eq jobs ▸ hcycle)
    obtain ⟨i, hi, hia⟩ := mem_namesAt.1 ha
    obtain ⟨j, hj, hjb⟩ := mem_namesAt.1 hb
    obtain ⟨hij, hji⟩ := Digraph.mem_classes_iff.1 ⟨group, hgroup, hi, hj⟩
    obtain ⟨a₁, b₁, ha₁, hb₁, h₁⟩ := chain_dependencyGraph.1 hij
    obtain ⟨b₂, a₂, hb₂, ha₂, h₂⟩ := chain_dependencyGraph.1 hji
    -- each position has one name
    cases hia.symm.trans ha₁
    cases hia.symm.trans ha₂
    cases hjb.symm.trans hb₁
    cases hjb.symm.trans hb₂
    exact ⟨h₁, h₂⟩
  · rintro ⟨hab, hba⟩
    obtain ⟨i, hi⟩ := exists_position (exists_job_of_chain hab)
    obtain ⟨j, hj⟩ := exists_position (exists_job_of_chain hba)
    obtain ⟨group, hgroup, hig, hjg⟩ := Digraph.mem_classes_iff.2
      ⟨chain_dependencyGraph.2 ⟨a, b, hi, hj, hab⟩, chain_dependencyGraph.2 ⟨b, a, hj, hi, hba⟩⟩
    exact ⟨namesAt jobs group, List.mem_map_of_mem hgroup, mem_namesAt.2 ⟨i, hig, hi⟩,
      mem_namesAt.2 ⟨j, hjg, hj⟩⟩

theorem ne_nil_of_mem_dependencyCycles {cycle : List String}
    (h : cycle ∈ dependencyCycles jobs) : cycle ≠ [] := by
  obtain ⟨group, hgroup, rfl⟩ := List.mem_map.1 (dependencyCycles_eq jobs ▸ h)
  obtain ⟨i, hi⟩ := List.exists_mem_of_ne_nil _ (Digraph.ne_nil_of_mem_classes hgroup)
  obtain ⟨a, ha⟩ := exists_name_of_mem_class hgroup hi
  exact List.ne_nil_of_mem (mem_namesAt.2 ⟨i, hi, ha⟩)

theorem dependencyCycles_eq_nil_iff :
    dependencyCycles jobs = [] ↔ ∀ a, ¬ TransGen (DependsOn jobs) a a := by
  rw [List.eq_nil_iff_forall_not_mem]
  constructor
  · intro h a ha
    obtain ⟨cycle, hcycle, -⟩ := mem_dependencyCycles_iff.2 ⟨ha, ha⟩
    exact h cycle hcycle
  · intro h cycle hcycle
    obtain ⟨a, ha⟩ := List.exists_mem_of_ne_nil _ (ne_nil_of_mem_dependencyCycles hcycle)
    exact h a (mem_dependencyCycles_iff.1 ⟨cycle, hcycle, ha, ha⟩).1

/-- The groups are the classes of names that depend on each other, and all is in the order of
the first registration. -/
structure AreCycles (jobs : List Job) (cycles : List (List String)) : Prop where
  /-- Two names are in one group iff a chain of dependencies leads from each to the other. -/
  together : ∀ a b, (∃ cycle ∈ cycles, a ∈ cycle ∧ b ∈ cycle) ↔
    TransGen (DependsOn jobs) a b ∧ TransGen (DependsOn jobs) b a
  /-- No name is in two groups. -/
  disjoint : cycles.Pairwise fun c d => ∀ a ∈ c, a ∉ d
  /-- Every group has a name. -/
  inhabited : ∀ cycle ∈ cycles, cycle ≠ []
  /-- The names of a group stand in the order of their first registration, each once. -/
  members_sorted : ∀ cycle ∈ cycles,
    cycle.Pairwise fun a b => registration jobs a < registration jobs b
  /-- The groups stand in the order of the first registration of their first names. -/
  sorted : cycles.Pairwise fun c d =>
    ∀ a ∈ c.head?, ∀ b ∈ d.head?, registration jobs a < registration jobs b

theorem dependencyCycles_areCycles (jobs : List Job) :
    AreCycles jobs (dependencyCycles jobs) where
  together _ _ := mem_dependencyCycles_iff
  inhabited _ := ne_nil_of_mem_dependencyCycles
  disjoint := by
    rw [dependencyCycles_eq, List.pairwise_map]
    refine (Digraph.pairwise_classes _).imp fun h a ha hb => ?_
    obtain ⟨i, hi, hia⟩ := mem_namesAt.1 ha
    obtain ⟨j, hj, hja⟩ := mem_namesAt.1 hb
    exact h.2 i hi (position_unique hia hja ▸ hj)
  members_sorted cycle h := by
    obtain ⟨group, hgroup, rfl⟩ := List.mem_map.1 (dependencyCycles_eq jobs ▸ h)
    refine (Digraph.pairwise_of_mem_classes hgroup).filterMap _ ?_
    intro i j hij a ha b hb
    exact registration_lt ha hb hij
  sorted := by
    rw [dependencyCycles_eq, List.pairwise_map]
    refine (Digraph.pairwise_classes _).imp_of_mem fun hc hd h a ha b hb => ?_
    obtain ⟨i, hi, hia⟩ := exists_head_of_head_namesAt hc ha
    obtain ⟨j, hj, hjb⟩ := exists_head_of_head_namesAt hd hb
    exact registration_lt hia hjb (h.1 i hi j hj)

/-- The names can be put in an order iff there is no cycle. -/
theorem dependencyCycles_eq_nil_iff_exists_order :
    dependencyCycles jobs = [] ↔
      ∃ order : List String, order.Perm (jobNames jobs) ∧ InOrder (DependsOn jobs) order := by
  rw [dependencyCycles_eq_nil_iff]
  constructor
  · intro h
    exact exists_inOrder h id (jobNames jobs)
  · rintro ⟨order, hperm, horder⟩
    refine horder.acyclic fun a b hab => ?_
    exact hperm.mem_iff.2 (mem_jobNames.2 (exists_job_of_chain (.single hab)))

/-! ## Reports -/

/-- The violation tells of a cycle. -/
def Violation.isCyclic : Violation → Bool
  | .cyclicDependency _ _ => true
  | _ => false

theorem of_mem_checkSteps {j : Job} {v : Violation} (h : v ∈ checkSteps j) :
    v = .jobWithoutSteps j.name ∨ ∃ label, v = .emptyStep j.name label := by
  unfold checkSteps at h
  split at h
  · exact Or.inl (List.mem_singleton.1 h)
  · obtain ⟨⟨s, i⟩, -, hv⟩ := List.mem_filterMap.1 h
    dsimp only at hv
    split at hv <;> cases hv
    exact Or.inr ⟨s.label i, rfl⟩

/-- What is reported on single jobs. -/
theorem of_mem_checkJobs {workflow : String} {before : List String} {v : Violation}
    (h : v ∈ checkJobs workflow before jobs) :
    (∃ name, v = .duplicateJob workflow name) ∨ (∃ name, v = .jobWithoutSteps name) ∨
      ∃ name label, v = .emptyStep name label := by
  induction jobs generalizing before with
  | nil => cases h
  | cons j jobs ih =>
      rw [checkJobs, List.mem_append, List.mem_append] at h
      rcases h with (h | h) | h
      · unfold checkUnique at h
        split at h
        · exact Or.inl ⟨j.name, List.mem_singleton.1 h⟩
        · cases h
      · rcases of_mem_checkSteps h with rfl | ⟨label, rfl⟩
        · exact Or.inr (Or.inl ⟨j.name, rfl⟩)
        · exact Or.inr (Or.inr ⟨j.name, label, rfl⟩)
      · exact ih h

theorem filter_isCyclic_violations (workflow : String) (jobs : List Job) :
    (violations workflow jobs).filter Violation.isCyclic = checkOrder workflow jobs := by
  have hname : (checkName workflow).filter Violation.isCyclic = [] := by
    rw [checkName]
    split <;> rfl
  have hjobs : (checkJobs workflow [] jobs).filter Violation.isCyclic = [] := by
    refine List.filter_eq_nil_iff.2 fun v hv => ?_
    rcases of_mem_checkJobs hv with ⟨_, rfl⟩ | ⟨_, rfl⟩ | ⟨_, _, rfl⟩ <;> exact Bool.false_ne_true
  have hdeps : (checkDependencies jobs).filter Violation.isCyclic = [] := by
    refine List.filter_eq_nil_iff.2 fun v hv => ?_
    obtain ⟨j, -, hv⟩ := List.mem_flatMap.1 hv
    obtain ⟨d, -, rfl⟩ := List.mem_map.1 hv
    exact Bool.false_ne_true
  have horder : (checkOrder workflow jobs).filter Violation.isCyclic = checkOrder workflow jobs := by
    refine List.filter_eq_self.2 fun v hv => ?_
    obtain ⟨cycle, -, rfl⟩ := List.mem_map.1 hv
    rfl
  rw [violations, List.filter_append, List.filter_append, List.filter_append, hname, hjobs,
    hdeps, horder]
  rfl

/-- **Exactly the cycles are reported.** There is one report for each class of names that
depend on each other, in the order of registration; and there is none iff the names can be
put in an order in which each comes after those it depends on. -/
theorem violations_report_cycles (workflow : String) (jobs : List Job) :
    ∃ cycles : List (List String),
      (violations workflow jobs).filter Violation.isCyclic
        = cycles.map (Violation.cyclicDependency workflow) ∧
      AreCycles jobs cycles ∧
      (cycles = [] ↔
        ∃ order : List String, order.Perm (jobNames jobs) ∧ InOrder (DependsOn jobs) order) :=
  ⟨dependencyCycles jobs, filter_isCyclic_violations workflow jobs,
    dependencyCycles_areCycles jobs, dependencyCycles_eq_nil_iff_exists_order⟩

end CiPipeline

import CiPipeline.Proofs.Cycles
import CiPipeline.Render
import Mathlib.Data.List.Nodup

set_option autoImplicit false

/-! # Sound workflows

The check of a workflow, in the words of its jobs: it finds nothing if and only if the
workflow is sound. Each rule is settled on its own, and the graph of names is left behind: what
is asked for is an order of the jobs themselves.
-/

namespace CiPipeline

open Relation

variable {jobs : List Job}

/-! ## The rules -/

/-- Some step of the job refers to the other job. -/
def Job.DependsOn (j k : Job) : Prop := ∃ s ∈ j.steps, s.RefersTo k.name

instance (j k : Job) : Decidable (j.DependsOn k) :=
  inferInstanceAs (Decidable (∃ s ∈ j.steps, s.RefersTo k.name))

/-- The workflow can be rendered, and its jobs can be run one after the other. -/
structure Sound (workflow : String) (jobs : List Job) : Prop where
  /-- The name does not contain a path separator. -/
  no_separator : '/' ∉ workflow.toList ∧ '\\' ∉ workflow.toList
  /-- No two jobs have the same name. -/
  distinct : (jobs.map (·.name)).Nodup
  /-- Every job has a step. -/
  steps : ∀ j ∈ jobs, j.steps ≠ []
  /-- Every step has a command. -/
  commands : ∀ j ∈ jobs, ∀ s ∈ j.steps, s.commands ≠ []
  /-- Every name that a step refers to is the name of a job. -/
  resolved : ∀ j ∈ jobs, ∀ s ∈ j.steps, ∀ name, s.RefersTo name → ∃ k ∈ jobs, k.name = name
  /-- The jobs can be put in an order in which each comes after all that it depends on. -/
  ordered : ∃ order : List Job, order.Perm jobs ∧ InOrder Job.DependsOn order

/-! ## Each rule on its own -/

theorem checkName_eq_nil_iff {workflow : String} :
    checkName workflow = [] ↔ '/' ∉ workflow.toList ∧ '\\' ∉ workflow.toList := by
  rw [checkName]
  constructor
  · intro h
    split at h
    · cases h
    · rename_i hany
      simp only [List.any_eq_true, Bool.or_eq_true, beq_iff_eq] at hany
      exact ⟨fun hc => hany ⟨'/', hc, Or.inl rfl⟩, fun hc => hany ⟨'\\', hc, Or.inr rfl⟩⟩
  · rintro ⟨hslash, hback⟩
    refine if_neg fun hany => ?_
    simp only [List.any_eq_true, Bool.or_eq_true, beq_iff_eq] at hany
    rcases hany with ⟨c, hc, rfl | rfl⟩
    · exact hslash hc
    · exact hback hc

theorem checkSteps_eq_nil_iff {j : Job} :
    checkSteps j = [] ↔ j.steps ≠ [] ∧ ∀ s ∈ j.steps, s.commands ≠ [] := by
  unfold checkSteps
  split
  · rename_i h
    rw [List.isEmpty_iff] at h
    exact iff_of_false (List.cons_ne_nil _ _) fun hs => hs.1 h
  · rename_i h
    rw [List.isEmpty_iff] at h
    rw [List.filterMap_eq_nil_iff]
    constructor
    · intro hall
      refine ⟨h, fun s hs hempty => ?_⟩
      obtain ⟨i, hi⟩ := List.mem_iff_getElem?.1 hs
      have hmem : (s, i) ∈ j.steps.zipIdx := List.mem_zipIdx_iff_getElem?.2 hi
      have := hall (s, i) hmem
      simp [hempty] at this
    · rintro ⟨-, hall⟩ ⟨s, i⟩ hs
      have hmem : s ∈ j.steps := List.mem_of_getElem? (List.mem_zipIdx_iff_getElem?.1 hs)
      simp [hall s hmem]

/-- The names that came before count for all jobs, and each job's own for those after it. -/
theorem checkJobs_eq_nil_iff {workflow : String} {before : List String} :
    checkJobs workflow before jobs = [] ↔
      (∀ j ∈ jobs, j.name ∉ before) ∧ (jobs.map (·.name)).Nodup ∧
        ∀ j ∈ jobs, checkSteps j = [] := by
  induction jobs generalizing before with
  | nil => simp [checkJobs]
  | cons j jobs ih =>
      have hunique : checkUnique workflow before j = [] ↔ j.name ∉ before := by
        simp [checkUnique]
      rw [checkJobs, List.append_eq_nil_iff, List.append_eq_nil_iff, hunique, ih]
      simp only [List.mem_cons, List.map_cons, List.nodup_cons, List.mem_map, not_or,
        forall_eq_or_imp, not_exists, not_and]
      constructor
      · rintro ⟨⟨hj, hsteps⟩, hbefore, hnodup, hall⟩
        exact ⟨⟨hj, fun k hk => (hbefore k hk).2⟩, ⟨fun k hk => (hbefore k hk).1, hnodup⟩,
          hsteps, hall⟩
      · rintro ⟨⟨hj, hbefore⟩, ⟨hne, hnodup⟩, hsteps, hall⟩
        exact ⟨⟨hj, hsteps⟩, fun k hk => ⟨hne k hk, hbefore k hk⟩, hnodup, hall⟩

theorem checkDependencies_eq_nil_iff :
    checkDependencies jobs = [] ↔
      ∀ j ∈ jobs, ∀ s ∈ j.steps, ∀ name, s.RefersTo name → ∃ k ∈ jobs, k.name = name := by
  simp only [checkDependencies, List.flatMap_eq_nil_iff, List.map_eq_nil_iff,
    List.filter_eq_nil_iff, Bool.not_eq_true', List.contains_eq_mem, List.mem_map,
    decide_eq_false_iff_not, not_not, Job.mem_dependencyNames]
  constructor
  · intro h j hj s hs name hname
    exact h j hj name ⟨s, hs, hname⟩
  · rintro h j hj name ⟨s, hs, hname⟩
    exact h j hj s hs name hname

/-- In a sound workflow a job depends on registered names only. -/
theorem Sound.mem_jobNames {workflow : String} (h : Sound workflow jobs) {j : Job} (hj : j ∈ jobs)
    {name : String} (hname : name ∈ j.dependencyNames) : name ∈ jobNames jobs := by
  obtain ⟨s, hs, href⟩ := Job.mem_dependencyNames.1 hname
  exact CiPipeline.mem_jobNames.2 (h.resolved j hj s hs name href)

/-! ## The order of the jobs

With distinct names an order of the jobs is an order of their names. -/

theorem dependsOn_name {j k : Job} (hj : j ∈ jobs) (hk : k ∈ jobs) (h : j.DependsOn k) :
    DependsOn jobs j.name k.name :=
  ⟨⟨j, hj, rfl, Job.mem_dependencyNames.2 h⟩, k, hk, rfl⟩

theorem Job.eq_of_name_eq (hd : (jobs.map (·.name)).Nodup) {j k : Job} (hj : j ∈ jobs)
    (hk : k ∈ jobs) (h : j.name = k.name) : j = k :=
  List.inj_on_of_nodup_map hd hj hk h

theorem inOrder_names {order : List Job} (hd : (jobs.map (·.name)).Nodup)
    (hperm : order.Perm jobs) (h : InOrder Job.DependsOn order) :
    InOrder (DependsOn jobs) (order.map (·.name)) := by
  refine h.map fun x hx y _ hxy => ?_
  obtain ⟨⟨x', hx', hname, hdep⟩, -⟩ := hxy
  -- the job of this name that has the dependency is the one in the order
  cases Job.eq_of_name_eq hd hx' (hperm.mem_iff.1 hx) hname
  exact Job.mem_dependencyNames.1 hdep

/-- In a sound workflow no chain of dependencies leads from a name to itself. -/
theorem Sound.dependsOn_acyclic {workflow : String} (h : Sound workflow jobs) (a : String) :
    ¬ TransGen (DependsOn jobs) a a := by
  obtain ⟨order, hperm, horder⟩ := h.ordered
  refine (inOrder_names h.distinct hperm horder).acyclic (fun x y hxy => ?_) a
  obtain ⟨⟨j, hj, rfl, -⟩, -⟩ := hxy
  exact List.mem_map_of_mem (hperm.mem_iff.2 hj)

theorem checkOrder_eq_nil_iff {workflow : String} (hd : (jobs.map (·.name)).Nodup) :
    checkOrder workflow jobs = [] ↔
      ∃ order : List Job, order.Perm jobs ∧ InOrder Job.DependsOn order := by
  rw [checkOrder, List.map_eq_nil_iff]
  constructor
  · intro h
    obtain ⟨order, hperm, horder⟩ :=
      exists_inOrder (dependencyCycles_eq_nil_iff.1 h) Job.name jobs
    refine ⟨order, hperm, fun i j a b hi hj hab => horder i j a b hi hj ?_⟩
    exact dependsOn_name (hperm.mem_iff.1 (List.mem_of_getElem? hi))
      (hperm.mem_iff.1 (List.mem_of_getElem? hj)) hab
  · rintro ⟨order, hperm, horder⟩
    refine dependencyCycles_eq_nil_iff_exists_order.2 ⟨order.map (·.name), ?_, ?_⟩
    · rw [jobNames, eraseDups_of_nodup hd]
      exact hperm.map _
    · exact inOrder_names hd hperm horder

/-! ## The whole check -/

theorem violations_eq_nil_iff {workflow : String} :
    violations workflow jobs = [] ↔ Sound workflow jobs := by
  rw [violations, List.append_eq_nil_iff, List.append_eq_nil_iff, List.append_eq_nil_iff,
    checkName_eq_nil_iff, checkJobs_eq_nil_iff, checkDependencies_eq_nil_iff]
  constructor
  · rintro ⟨⟨⟨hname, -, hd, hsteps⟩, hdeps⟩, horder⟩
    exact {
      no_separator := hname
      distinct := hd
      steps := fun j hj => (checkSteps_eq_nil_iff.1 (hsteps j hj)).1
      commands := fun j hj => (checkSteps_eq_nil_iff.1 (hsteps j hj)).2
      resolved := hdeps
      ordered := (checkOrder_eq_nil_iff hd).1 horder }
  · intro h
    have hsteps : ∀ j ∈ jobs, checkSteps j = [] := fun j hj =>
      checkSteps_eq_nil_iff.2 ⟨h.steps j hj, h.commands j hj⟩
    exact ⟨⟨⟨h.no_separator, fun _ _ => List.not_mem_nil, h.distinct, hsteps⟩, h.resolved⟩,
      (checkOrder_eq_nil_iff h.distinct).2 h.ordered⟩

theorem Workflow.validate_eq_ok_iff_violations {w : Workflow} :
    w.validate = .ok () ↔ w.violations = [] := by
  rw [validate]
  split
  · rename_i h
    exact iff_of_true rfl (List.isEmpty_iff.1 h)
  · rename_i h
    exact iff_of_false (fun he => by cases he) fun hnil => h (List.isEmpty_iff.2 hnil)

theorem Workflow.sound_of_validate {w : Workflow} (h : w.validate = .ok ()) :
    Sound w.name w.jobs :=
  violations_eq_nil_iff.1 (validate_eq_ok_iff_violations.1 h)

/-- **A workflow passes the check iff it is sound.** -/
theorem Workflow.validate_eq_ok_iff (w : Workflow) :
    w.validate = .ok () ↔ Sound w.name w.jobs := by
  rw [validate_eq_ok_iff_violations, violations, violations_eq_nil_iff]

end CiPipeline

import CiPipeline.Proofs.Cycles

set_option autoImplicit false

/-! # Reports in full

Everything that the check of a workflow reports, with how often and in which order
(`violations_in_full`): what is wrong with the name, then with each job, then every reference to
a name without a job, then the cycles. No report hides another. In particular the cycles do not
depend on references that lead nowhere: without these references the same is reported, except
that they are missing (`violations_resolvedOnly`).
-/

namespace CiPipeline

variable {workflow : String} {jobs : List Job}

/-! ## The reports on single jobs -/

theorem checkName_eq (workflow : String) :
    checkName workflow =
      if '/' ∈ workflow.toList ∨ '\\' ∈ workflow.toList then [.invalidWorkflowName workflow]
      else [] := by
  have hiff : (workflow.toList.any fun c => c == '/' || c == '\\') = true ↔
      '/' ∈ workflow.toList ∨ '\\' ∈ workflow.toList := by
    simp only [List.any_eq_true, Bool.or_eq_true, beq_iff_eq]
    constructor
    · rintro ⟨c, hc, rfl | rfl⟩
      · exact Or.inl hc
      · exact Or.inr hc
    · rintro (hc | hc)
      · exact ⟨'/', hc, Or.inl rfl⟩
      · exact ⟨'\\', hc, Or.inr rfl⟩
  rw [checkName]
  exact if_congr hiff rfl rfl

/-- The steps without commands are reported with their positions among all steps. -/
theorem checkSteps_eq (j : Job) :
    checkSteps j =
      if j.steps = [] then [.jobWithoutSteps j.name]
      else (j.steps.zipIdx.filter fun s => s.1.commands = []).map
        fun s => .emptyStep j.name (s.1.label s.2) := by
  rw [checkSteps, ← filterMap_if]
  simp only [List.isEmpty_iff, decide_eq_true_eq]

/-- A name counts as registered before if one of the jobs before this one has it. -/
theorem checkJobs_eq_flatMap {before : List String} (earlier : List Job)
    (hbefore : ∀ name, name ∈ before ↔ ∃ k ∈ earlier, k.name = name) :
    checkJobs workflow before jobs =
      (jobs.zipIdx earlier.length).flatMap fun (j : Job × Nat) =>
        (if ∃ k ∈ (earlier ++ jobs).take j.2, k.name = j.1.name then
          [.duplicateJob workflow j.1.name] else []) ++ checkSteps j.1 := by
  -- the jobs that have been checked move from `jobs` to the end of `earlier`
  induction jobs generalizing before earlier with
  | nil => rfl
  | cons j jobs ih =>
      have hfirst : (earlier ++ j :: jobs).take earlier.length = earlier := List.take_left
      have hshift : earlier ++ j :: jobs = (earlier ++ [j]) ++ jobs := by simp
      have hlength : earlier.length + 1 = (earlier ++ [j]).length := by simp
      have hunique : checkUnique workflow before j =
          if ∃ k ∈ earlier, k.name = j.name then [.duplicateJob workflow j.name] else [] := by
        rw [checkUnique]
        refine if_congr ?_ rfl rfl
        rw [List.contains_iff_mem, hbefore]
      have hnext : ∀ name, name ∈ j.name :: before ↔ ∃ k ∈ earlier ++ [j], k.name = name := by
        intro name
        simp only [List.mem_cons, hbefore, List.mem_append, List.not_mem_nil, or_false]
        constructor
        · rintro (rfl | ⟨k, hk, rfl⟩)
          · exact ⟨j, Or.inr rfl, rfl⟩
          · exact ⟨k, Or.inl hk, rfl⟩
        · rintro ⟨k, hk | rfl, rfl⟩
          · exact Or.inr ⟨k, hk, rfl⟩
          · exact Or.inl rfl
      rw [checkJobs, List.zipIdx_cons, List.flatMap_cons, hfirst, hunique, hlength, hshift,
        ih (earlier ++ [j]) hnext]

theorem checkJobs_eq (workflow : String) (jobs : List Job) :
    checkJobs workflow [] jobs =
      jobs.zipIdx.flatMap fun (j : Job × Nat) =>
        (if ∃ k ∈ jobs.take j.2, k.name = j.1.name then [.duplicateJob workflow j.1.name]
          else []) ++
        (if j.1.steps = [] then [.jobWithoutSteps j.1.name]
          else (j.1.steps.zipIdx.filter fun s => s.1.commands = []).map
            fun s => .emptyStep j.1.name (s.1.label s.2)) := by
  have hnone : ∀ name, name ∈ ([] : List String) ↔ ∃ k ∈ ([] : List Job), k.name = name := by
    intro name
    simp
  rw [checkJobs_eq_flatMap [] hnone]
  simp only [checkSteps_eq]
  rfl

theorem checkDependencies_eq (jobs : List Job) :
    checkDependencies jobs =
      jobs.flatMap fun j =>
        (j.dependencyNames.filter fun name => ∀ k ∈ jobs, k.name ≠ name).map
          (.missingDependency j.name) := by
  have hunknown : (fun name => !(jobs.map (·.name)).contains name) =
      fun name => decide (∀ k ∈ jobs, k.name ≠ name) := by
    funext name
    rw [Bool.eq_iff_iff, Bool.not_eq_true', ← Bool.not_eq_true, List.contains_iff_mem,
      List.mem_map, decide_eq_true_eq]
    simp only [not_exists, not_and, ne_eq]
  rw [checkDependencies]
  simp only [hunknown]

/-! ## Leaving out references -/

/-- The step with those references only whose names are known. -/
def Step.keepReferences (known : String → Bool) (s : Step) : Step :=
  { s with
    artifactDependencies := s.artifactDependencies.filter fun d => known d.jobName
    jobDependencies := s.jobDependencies.filter known }

/-- The job with those references only whose names are known. -/
def Job.keepReferences (known : String → Bool) (j : Job) : Job :=
  { j with steps := j.steps.map (·.keepReferences known) }

/-- The jobs without the references to names that no job has. -/
def resolvedOnly (jobs : List Job) : List Job :=
  jobs.map (·.keepReferences fun name => jobs.any (·.name == name))

variable {known : String → Bool}

theorem Job.dependencyNames_keepReferences (known : String → Bool) (j : Job) :
    (j.keepReferences known).dependencyNames = j.dependencyNames.filter known := by
  have hplain : (j.keepReferences known).jobDependencies = j.jobDependencies.filter known := by
    rw [jobDependencies, jobDependencies, keepReferences, List.flatMap_map, ← eraseDups_filter,
      List.filter_flatMap]
    rfl
  have hartifacts :
      (j.keepReferences known).artifactDependencies = j.artifactDependencies.filter known := by
    rw [artifactDependencies, artifactDependencies, keepReferences, List.flatMap_map,
      ← eraseDups_filter, List.filter_flatMap]
    simp only [Step.keepReferences, List.filter_map, Function.comp_def]
  rw [dependencyNames, dependencyNames, hplain, hartifacts, ← eraseDups_filter,
    List.filter_append]

theorem map_name_keepReferences (known : String → Bool) (jobs : List Job) :
    (jobs.map (·.keepReferences known)).map (·.name) = jobs.map (·.name) := by
  rw [List.map_map]
  rfl

theorem dependenciesOf_keepReferences (known : String → Bool) (jobs : List Job) (a : String) :
    dependenciesOf (jobs.map (·.keepReferences known)) a = (dependenciesOf jobs a).filter known := by
  rw [dependenciesOf, dependenciesOf, List.filter_map, List.flatMap_map, List.filter_flatMap]
  simp only [Job.dependencyNames_keepReferences]
  rfl

/-- **References that lead nowhere are no edges**: only those to registered names count for the
cycles. -/
theorem dependencyCycles_keepReferences (hknown : ∀ j ∈ jobs, known j.name = true) :
    dependencyCycles (jobs.map (·.keepReferences known)) = dependencyCycles jobs := by
  have hnames : jobNames (jobs.map (·.keepReferences known)) = jobNames jobs := by
    rw [jobNames, map_name_keepReferences, jobNames]
  have hedges : ∀ a, (dependenciesOf (jobs.map (·.keepReferences known)) a).filter
      (jobNames jobs).contains = (dependenciesOf jobs a).filter (jobNames jobs).contains := by
    intro a
    rw [dependenciesOf_keepReferences, List.filter_filter]
    refine List.filter_congr fun name _ => ?_
    rw [Bool.and_eq_left_iff_imp, List.contains_iff_mem, mem_jobNames]
    rintro ⟨j, hj, rfl⟩
    exact hknown j hj
  rw [dependencyCycles, dependencyCycles, dependencyGraph, dependencyGraph, hnames]
  simp only [hedges]

theorem checkSteps_keepReferences (known : String → Bool) (j : Job) :
    checkSteps (j.keepReferences known) = checkSteps j := by
  rw [checkSteps, checkSteps, Job.keepReferences, List.isEmpty_map, List.zipIdx_map,
    List.filterMap_map]
  rfl

theorem checkJobs_keepReferences (known : String → Bool) (before : List String)
    (jobs : List Job) :
    checkJobs workflow before (jobs.map (·.keepReferences known)) =
      checkJobs workflow before jobs := by
  induction jobs generalizing before with
  | nil => rfl
  | cons j jobs ih =>
      have hname : (j.keepReferences known).name = j.name := rfl
      rw [List.map_cons, checkJobs, checkJobs, checkSteps_keepReferences, hname, ih, checkUnique,
        checkUnique, hname]

/-! ## The whole check -/

/-- The violation tells of a reference to a name without a job. -/
def Violation.isMissing : Violation → Bool
  | .missingDependency _ _ => true
  | _ => false

/-- All violations but the references to names without a job. -/
theorem filter_not_isMissing_violations (workflow : String) (jobs : List Job) :
    (violations workflow jobs).filter (fun v => !v.isMissing) =
      checkName workflow ++ checkJobs workflow [] jobs ++ checkOrder workflow jobs := by
  have hname : (checkName workflow).filter (fun v => !v.isMissing) = checkName workflow := by
    rw [checkName]
    split <;> rfl
  have hjobs : (checkJobs workflow [] jobs).filter (fun v => !v.isMissing) =
      checkJobs workflow [] jobs := by
    refine List.filter_eq_self.2 fun v hv => ?_
    rcases of_mem_checkJobs hv with ⟨_, rfl⟩ | ⟨_, rfl⟩ | ⟨_, _, rfl⟩ <;> rfl
  have hdeps : (checkDependencies jobs).filter (fun v => !v.isMissing) = [] := by
    refine List.filter_eq_nil_iff.2 fun v hv => ?_
    obtain ⟨j, -, hv⟩ := List.mem_flatMap.1 hv
    obtain ⟨name, -, rfl⟩ := List.mem_map.1 hv
    exact Bool.false_ne_true
  have horder : (checkOrder workflow jobs).filter (fun v => !v.isMissing) =
      checkOrder workflow jobs := by
    refine List.filter_eq_self.2 fun v hv => ?_
    obtain ⟨cycle, -, rfl⟩ := List.mem_map.1 hv
    rfl
  rw [violations, List.filter_append, List.filter_append, List.filter_append, hname, hjobs,
    hdeps, horder, List.append_nil]

/-- **Without the references that lead nowhere** the reports are the same but for them. -/
theorem violations_resolvedOnly (workflow : String) (jobs : List Job) :
    violations workflow (resolvedOnly jobs) =
      (violations workflow jobs).filter fun v => !v.isMissing := by
  have hknown : ∀ j ∈ jobs, (fun name => jobs.any (·.name == name)) j.name = true := fun j hj =>
    List.any_eq_true.2 ⟨j, hj, beq_self_eq_true _⟩
  have hdeps : checkDependencies (resolvedOnly jobs) = [] := by
    rw [checkDependencies, resolvedOnly, map_name_keepReferences, List.flatMap_map,
      List.flatMap_eq_nil_iff]
    intro j _
    rw [Job.dependencyNames_keepReferences, List.filter_filter, List.map_eq_nil_iff,
      List.filter_eq_nil_iff]
    intro name _
    -- what has been kept is the name of a job
    simp only [Bool.and_eq_true, Bool.not_eq_true', List.any_eq_true, beq_iff_eq,
      List.contains_eq_mem, decide_eq_false_iff_not, List.mem_map]
    rintro ⟨hmissing, hkept⟩
    exact hmissing hkept
  rw [filter_not_isMissing_violations, violations, hdeps, List.append_nil, checkOrder, checkOrder,
    resolvedOnly, checkJobs_keepReferences, dependencyCycles_keepReferences hknown]

theorem Step.text_label (s : Step) (i : Nat) :
    (s.label i).text =
      match s.name with
      | some name => "\"" ++ name ++ "\""
      | none => "#" ++ toString (i + 1) := by
  rw [label]
  cases s.name <;> rfl

/-- **All that is reported.** The reports on a workflow are, in this order: that its name has a
path separator; for each job in the order of registration that an earlier job has its name, and
then that it has no steps, or else each of its steps without commands, by its name in quotation
marks or its number among all steps of the job; for each job in the order of registration every
name that it depends on and that no job has, once; and the cycles. Without the references to such
names everything else is reported as before. -/
theorem violations_in_full (workflow : String) (jobs : List Job) :
    violations workflow jobs =
      (if '/' ∈ workflow.toList ∨ '\\' ∈ workflow.toList then [.invalidWorkflowName workflow]
        else []) ++
      (jobs.zipIdx.flatMap fun (j : Job × Nat) =>
        (if ∃ k ∈ jobs.take j.2, k.name = j.1.name then [.duplicateJob workflow j.1.name]
          else []) ++
        (if j.1.steps = [] then [.jobWithoutSteps j.1.name]
          else (j.1.steps.zipIdx.filter fun s => s.1.commands = []).map
            fun s => .emptyStep j.1.name (s.1.label s.2))) ++
      (jobs.flatMap fun j =>
        (j.dependencyNames.filter fun name => ∀ k ∈ jobs, k.name ≠ name).map
          (.missingDependency j.name)) ++
      (dependencyCycles jobs).map (.cyclicDependency workflow) ∧
    (∀ (s : Step) (i : Nat), (s.label i).text =
      match s.name with
      | some name => "\"" ++ name ++ "\""
      | none => "#" ++ toString (i + 1)) ∧
    (∀ j : Job, j.dependencyNames.Nodup ∧
      ∀ name, name ∈ j.dependencyNames ↔ ∃ s ∈ j.steps, s.RefersTo name) ∧
    AreCycles jobs (dependencyCycles jobs) ∧
    violations workflow (resolvedOnly jobs) =
      (violations workflow jobs).filter fun v => !v.isMissing := by
  refine ⟨?_, Step.text_label, fun j => ⟨nodup_eraseDups _, fun _ => Job.mem_dependencyNames⟩,
    dependencyCycles_areCycles jobs, violations_resolvedOnly workflow jobs⟩
  rw [violations, checkName_eq, checkJobs_eq, checkDependencies_eq, checkOrder]

example :
    violations "a/b" [.ofSteps "Build" [.ofCommands ["make"],
        (Step.ofCommands []).withJobDependency "Build" |>.withArtifactDependency "Test"],
      .ofSteps "Build" []] =
    [.invalidWorkflowName "a/b", .emptyStep "Build" (.numbered 2), .duplicateJob "a/b" "Build",
      .jobWithoutSteps "Build", .missingDependency "Build" "Test",
      .cyclicDependency "a/b" ["Build"]] := by
  decide +kernel

end CiPipeline

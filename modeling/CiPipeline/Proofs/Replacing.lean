import CiPipeline.Proofs.Needs
import Mathlib.Data.List.Induction

set_option autoImplicit false

/-! # Jobs with one key

Both compilers build the entries of a document from one job after another. Of several jobs with
one key the last is kept, at the place of the first. GitHub's keys are slugs, which jobs of
different names can share, so there each job that takes the place of an earlier one is told of.
-/

namespace CiPipeline

/-! ## The last of several jobs -/

/-- The map has an entry for each key of the jobs, in the order in which the keys come first, and
the entry is built from the last job with its key. -/
structure KeepsLast {α : Type} (key : Job → String) (build : Job → α) (js : List Job)
    (m : OrderedMap α) : Prop where
  keys : FirstAppearances (js.map key) m.keys
  get?_iff : ∀ k v, m.get? k = some v ↔ ∃ before j after, js = before ++ j :: after ∧
    key j = k ∧ (∀ i ∈ after, key i ≠ k) ∧ build j = v

theorem keepsLast_ofList {α : Type} (key : Job → String) (build : Job → α) (js : List Job) :
    KeepsLast key build js (.ofList (js.map fun j => (key j, build j))) where
  keys := by
    rw [OrderedMap.keys_ofList_map]
    exact firstAppearances_eraseDups _
  get?_iff := by
    intro k v
    rw [OrderedMap.get?_ofList_map]
    simp only [Option.map_eq_some_iff, find?_reverse_eq_some_iff, beq_iff_eq, beq_eq_false_iff_ne]
    constructor
    · rintro ⟨j, ⟨hkey, before, after, hjs, hafter⟩, hbuild⟩
      exact ⟨before, j, after, hjs, hkey, hafter, hbuild⟩
    · rintro ⟨before, j, after, hjs, hkey, hafter, hbuild⟩
      exact ⟨j, ⟨hkey, before, after, hjs, hafter⟩, hbuild⟩

/-! ## One job after another -/

namespace GitHub

/-- The warnings among the entries of a log. -/
def warnings (log : List Log.Entry) : List Log.Entry := log.filter fun e => e.level = .warn

/-- A job before this place of the list has the slug of the job at it. -/
def TakenBefore (js : List CiPipeline.Job) (p : CiPipeline.Job × Nat) : Prop :=
  ∃ i ∈ js.take p.2, Text.slugify i.name = Text.slugify p.1.name

instance (js : List CiPipeline.Job) (p : CiPipeline.Job × Nat) : Decidable (TakenBefore js p) :=
  inferInstanceAs (Decidable (∃ i ∈ js.take p.2, _))

/-- The jobs whose slug an earlier job has, in order. -/
def repeated (js : List CiPipeline.Job) : List CiPipeline.Job :=
  (js.zipIdx.filter fun p : CiPipeline.Job × Nat => TakenBefore js p).map Prod.fst

theorem repeated_concat (js : List CiPipeline.Job) (j : CiPipeline.Job) :
    repeated (js ++ [j]) =
      repeated js ++ if TakenBefore js (j, js.length) then [j] else [] := by
  -- what comes behind a place does not count for it
  have hearlier : ∀ p ∈ js.zipIdx, TakenBefore (js ++ [j]) p ↔ TakenBefore js p := by
    intro p hp
    have hplace : p.2 ≤ js.length := Nat.le_of_lt (by simpa using List.snd_lt_of_mem_zipIdx hp)
    rw [TakenBefore, List.take_append_of_le_length hplace]
    rfl
  have hlast : TakenBefore (js ++ [j]) (j, js.length) ↔ TakenBefore js (j, js.length) := by
    rw [TakenBefore, List.take_append_of_le_length (Nat.le_refl _)]
    rfl
  have hfilter : js.zipIdx.filter (fun p => TakenBefore (js ++ [j]) p) =
      js.zipIdx.filter fun p => TakenBefore js p :=
    List.filter_congr fun p hp => decide_eq_decide.2 (hearlier p hp)
  rw [repeated, List.zipIdx_append, List.filter_append, List.map_append, hfilter, Nat.zero_add,
    List.zipIdx_singleton, List.filter_singleton]
  by_cases h : TakenBefore js (j, js.length)
  · rw [if_pos h, decide_eq_true (hlast.2 h)]
    rfl
  · rw [if_neg h, decide_eq_false (mt hlast.1 h)]
    rfl

namespace Compiler

/-- Tells of a job that takes the place of an earlier one, and builds its entry. -/
def addJob (c : Compiler) (m : OrderedMap Job) (j : CiPipeline.Job) :
    Logged (OrderedMap Job) := do
  let key := Text.slugify j.name
  if m.contains key then Logged.emit (collides j)
  let entry ← c.buildJob j
  pure (m.insert key entry)

theorem addJob_eq (c : Compiler) (m : OrderedMap Job) (j : CiPipeline.Job) :
    c.addJob m j = ⟨m.insert (Text.slugify j.name) (c.job j),
      (if Text.slugify j.name ∈ m.keys then [collides j] else []) ++ [built j]⟩ := by
  have hcontains : m.contains (Text.slugify j.name) = true ↔ Text.slugify j.name ∈ m.keys :=
    List.contains_iff_mem
  unfold addJob
  by_cases h : Text.slugify j.name ∈ m.keys
  · simp only [hcontains.2 h, if_pos h]
    rfl
  · simp only [mt hcontains.1 h, if_neg h]
    rfl

theorem jobsLog_concat (before : List String) (js : List CiPipeline.Job) (j : CiPipeline.Job) :
    jobsLog before (js ++ [j]) = jobsLog before js ++
      ((if Text.slugify j.name ∈ before ∨ ∃ i ∈ js, Text.slugify i.name = Text.slugify j.name
        then [collides j] else []) ++ [built j]) := by
  induction js generalizing before with
  | nil => simp [jobsLog]
  | cons i js ih =>
      -- the slug of the first job is among the earlier ones when the rest is looked at
      have hkeys : (Text.slugify j.name ∈ Text.slugify i.name :: before ∨
            ∃ k ∈ js, Text.slugify k.name = Text.slugify j.name) ↔
          (Text.slugify j.name ∈ before ∨
            ∃ k ∈ i :: js, Text.slugify k.name = Text.slugify j.name) := by
        rw [List.mem_cons, List.exists_mem_cons_iff, or_left_comm, or_assoc, eq_comm]
      rw [List.cons_append, jobsLog, jobsLog, ih]
      simp only [hkeys, List.append_assoc, List.cons_append]

/-- **One job more.** A job that comes behind others is added to what is built of them. -/
theorem buildJobs_concat (c : Compiler) (js : List CiPipeline.Job) (j : CiPipeline.Job) :
    c.buildJobs (js ++ [j]) = c.buildJobs js >>= fun m => c.addJob m j := by
  have hjobs : c.jobs (js ++ [j]) = (c.addJob (c.jobs js) j).value := by
    rw [addJob_eq, jobs, List.map_append, OrderedMap.ofList, OrderedMap.insertAll,
      List.foldl_append]
    rfl
  -- the slugs of the jobs so far are the keys of the map so far
  have hlog : jobsLog [] (js ++ [j]) = jobsLog [] js ++ (c.addJob (c.jobs js) j).log := by
    rw [jobsLog_concat, addJob_eq]
    simp only [List.not_mem_nil, false_or, mem_keys_jobs]
  rw [buildJobs, hjobs, hlog]
  rfl

/-- **All jobs** are added one after another to a map that is empty at first. -/
theorem buildJobs_eq_foldlM (c : Compiler) (js : List CiPipeline.Job) :
    c.buildJobs js = js.foldlM c.addJob .empty := by
  induction js using List.reverseRecOn with
  | nil => rfl
  | append_singleton js j ih =>
      rw [buildJobs_concat, ih, List.foldlM_append]
      simp only [List.foldlM_cons, List.foldlM_nil, bind_pure]

end Compiler

/-! ## Warnings -/

/-- What has been told once the entries for some jobs are built. -/
structure Reported (c : Compiler) (js : List CiPipeline.Job) (r : Logged (OrderedMap Job)) :
    Prop where
  mem_keys_iff : ∀ key, key ∈ r.value.keys ↔ ∃ j ∈ js, Text.slugify j.name = key
  /-- There is one warning for each job that takes the place of an earlier one, in order. -/
  warnings_eq : warnings r.log = (repeated js).map Compiler.collides
  /-- All else is what each job leaves when its entry is built. -/
  others_eq : (r.log.filter fun e => e.level ≠ .warn) = js.flatMap fun j => (c.buildJob j).log
  /-- Each job either has an entry of its own or is warned of. -/
  count : (warnings r.log).length + r.value.size = js.length

variable {c : Compiler} {js : List CiPipeline.Job}

theorem warnings_append (log log' : List Log.Entry) :
    warnings (log ++ log') = warnings log ++ warnings log' := List.filter_append ..

theorem warnings_addJob (m : OrderedMap Job) (j : CiPipeline.Job) :
    warnings (c.addJob m j).log =
      if Text.slugify j.name ∈ m.keys then [Compiler.collides j] else [] := by
  rw [Compiler.addJob_eq]
  split <;> rfl

theorem others_addJob (m : OrderedMap Job) (j : CiPipeline.Job) :
    ((c.addJob m j).log.filter fun e => e.level ≠ .warn) = (c.buildJob j).log := by
  rw [Compiler.addJob_eq]
  split <;> rfl

/-- **One job more.** What has been told stays so when a job is added. -/
theorem Reported.add {r : Logged (OrderedMap Job)} (h : Reported c js r) (j : CiPipeline.Job) :
    Reported c (js ++ [j]) (r >>= fun m => c.addJob m j) := by
  have htaken : Text.slugify j.name ∈ r.value.keys ↔ TakenBefore js (j, js.length) := by
    rw [h.mem_keys_iff, TakenBefore, List.take_length]
  have hvalue : (c.addJob r.value j).value = r.value.insert (Text.slugify j.name) (c.job j) := by
    rw [Compiler.addJob_eq]
  have hwarnings : warnings (r >>= fun m => c.addJob m j).log =
      warnings r.log ++ if TakenBefore js (j, js.length) then [Compiler.collides j] else [] := by
    rw [Logged.log_bind, warnings_append, warnings_addJob]
    simp only [htaken]
  constructor
  case mem_keys_iff =>
    intro key
    rw [Logged.value_bind, hvalue, OrderedMap.mem_keys_insert, h.mem_keys_iff]
    simp only [List.mem_append, List.mem_singleton, or_and_right, exists_or, exists_eq_left]
  case warnings_eq =>
    rw [hwarnings, h.warnings_eq, repeated_concat, List.map_append]
    split <;> rfl
  case others_eq =>
    rw [Logged.log_bind, List.filter_append, h.others_eq, others_addJob, List.flatMap_append,
      List.flatMap_singleton]
  case count =>
    have hcount := h.count
    rw [hwarnings, Logged.value_bind, hvalue, OrderedMap.size_insert, List.length_append,
      List.length_append, List.length_singleton]
    -- either there is one warning more, or one entry more
    by_cases hkey : TakenBefore js (j, js.length)
    · rw [if_pos hkey, if_pos (htaken.2 hkey), List.length_singleton]
      omega
    · rw [if_neg hkey, if_neg (mt htaken.1 hkey), List.length_nil]
      omega

theorem reported_buildJobs (c : Compiler) (js : List CiPipeline.Job) :
    Reported c js (c.buildJobs js) := by
  induction js using List.reverseRecOn with
  | nil => exact ⟨fun _ => ⟨nofun, nofun⟩, rfl, rfl, rfl⟩
  | append_singleton js j ih =>
      rw [Compiler.buildJobs_concat]
      exact ih.add j

end GitHub

/-! ## Both compilers -/

/-- **Registration.** From any jobs both compilers build an entry for each key, at the place of the
first job with the key and from the last one alone. GitHub's compiler adds the jobs one after
another and warns of those, in order, whose slug an earlier job has; so there are as many warnings
as there are more jobs than entries. All else that is told is what each job leaves by itself. -/
theorem last_job_kept (hub : GitHub.Compiler) (lab : GitLab.Compiler) (js : List Job) :
    (KeepsLast (fun j => Text.slugify j.name) (fun j => (hub.buildJob j).value) js
        (hub.buildJobs js).value ∧
      KeepsLast (·.name) (fun j => (lab.buildJob j).value) js (lab.buildJobs js).value) ∧
    hub.buildJobs js = js.foldlM hub.addJob .empty ∧
    GitHub.Reported hub js (hub.buildJobs js) ∧
    (lab.buildJobs js).log = js.flatMap fun j => (lab.buildJob j).log := by
  refine ⟨⟨?_, ?_⟩, ?_, ?_, ?_⟩
  · exact keepsLast_ofList (fun j => Text.slugify j.name) hub.job js
  · exact keepsLast_ofList (fun j => j.name) lab.job js
  · exact hub.buildJobs_eq_foldlM js
  · exact GitHub.reported_buildJobs hub js
  · exact List.map_eq_flatMap

/-- Three jobs with one slug, and one with another between them. -/
example :
    let js := [Job.ofSteps "Unit Tests" [.ofCommands ["make test"]],
      .ofSteps "Lint" [.ofCommands ["make lint"]], .ofSteps "unit  tests" [],
      .ofSteps "UNIT TESTS" [.ofCommands ["make check"]]]
    let built := (GitHub.Compiler.ofOptions .unset).buildJobs js
    built.value.entries.map (fun e => (e.1, e.2.name)) =
        [("unit-tests", "UNIT TESTS"), ("lint", "Lint")] ∧
      (GitHub.warnings built.log).map (·.fields) =
        [[("job", .text "unit  tests"), ("key", .text "unit-tests")],
          [("job", .text "UNIT TESTS"), ("key", .text "unit-tests")]] := by
  decide +kernel

end CiPipeline

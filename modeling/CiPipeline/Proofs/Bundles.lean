import CiPipeline.Proofs.Needs

set_option autoImplicit false

/-! # Closed GitHub documents

What the parts of a GitHub document say of each other: keys, needs, and the bundles of artifacts
that are uploaded and fetched. The names for all of them are slugs of job names, made in
different places. They fit together in every document of a sound workflow, also when some jobs
have replaced others: every need is the key of an entry, every bundle that is fetched is one of
the needs, and every upload goes by the key of its entry.
-/

namespace CiPipeline.GitHub

variable {js : List CiPipeline.Job}

/-! ## Steps that move bundles -/

namespace Step

/-- The bundle that the step uploads, if it uploads one. -/
def uploaded? (s : Step) : Option String :=
  if s.action = some uploadAction then
    match s.inputs.get? "name" with
    | some (.str bundle) => some bundle
    | _ => none
  else none

/-- The step fetches these bundles: a single one by its name, several by a pattern that lists
them. -/
def Fetches (s : Step) (bundles : List String) : Prop :=
  s.action = some downloadAction ∧
    match bundles with
    | [] => False
    | [bundle] => s.inputs.entries = [("name", .str bundle)]
    | _ => s.inputs.entries = [
        ("pattern", .str ("\x7b" ++ String.intercalate "," bundles ++ "\x7d")),
        ("merge-multiple", .bool true)]

theorem uploaded?_of_action_ne {s : Step} (h : s.action ≠ some uploadAction) :
    s.uploaded? = none := if_neg h

end Step

namespace Compiler

@[simp] theorem action_checkoutStep : checkoutStep.action = some checkoutAction := rfl

@[simp] theorem action_scriptStep (s : CiPipeline.Step) : (scriptStep s).action = none := rfl

@[simp] theorem action_uploadStep (bundle : String) (directories : List String) :
    (uploadStep bundle directories).action = some uploadAction := rfl

@[simp] theorem action_downloadStep (bundles : List String) :
    (downloadStep bundles).action = some downloadAction := by
  unfold downloadStep
  split <;> rfl

@[simp] theorem uploaded?_uploadStep (bundle : String) (directories : List String) :
    (uploadStep bundle directories).uploaded? = some bundle := rfl

theorem get?_name_uploadStep (bundle : String) (directories : List String) :
    (uploadStep bundle directories).inputs.get? "name" = some (.str bundle) := rfl

theorem fetches_downloadStep {bundles : List String} (h : bundles ≠ []) :
    (downloadStep bundles).Fetches bundles := by
  refine ⟨action_downloadStep bundles, ?_⟩
  match bundles with
  | [] => exact absurd rfl h
  | [_] => rfl
  | _ :: _ :: _ => rfl

/-! ## The steps of a job -/

theorem filter_action_scriptStep (action : String) (ms : List CiPipeline.Step) :
    ((ms.map scriptStep).filter fun s => s.action = some action) = [] := by
  rw [List.filter_eq_nil_iff]
  intro s hs
  obtain ⟨m, -, rfl⟩ := List.mem_map.1 hs
  simp

/-- A job uploads all its artifacts in one step, if it leaves any. -/
theorem filter_uploadAction_steps (j : CiPipeline.Job) :
    ((steps j).filter fun s => s.action = some uploadAction) =
      if j.artifactDirectories.isEmpty then []
      else [uploadStep (Text.slugify j.name) j.artifactDirectories] := by
  rw [steps, List.filter_append, List.filter_append, List.filter_append, filter_action_scriptStep]
  cases j.artifactDirectories <;> cases slugs j.artifactDependencies <;>
    simp [checkoutAction, uploadAction, downloadAction]

/-- A job downloads all the bundles that it wants in one step, if it wants any. -/
theorem filter_downloadAction_steps (j : CiPipeline.Job) :
    ((steps j).filter fun s => s.action = some downloadAction) =
      if (slugs j.artifactDependencies).isEmpty then []
      else [downloadStep (slugs j.artifactDependencies)] := by
  rw [steps, List.filter_append, List.filter_append, List.filter_append, filter_action_scriptStep]
  cases j.artifactDirectories <;> cases slugs j.artifactDependencies <;>
    simp [checkoutAction, uploadAction, downloadAction]

theorem eq_uploadStep {j : CiPipeline.Job} {s : Step} (hs : s ∈ steps j)
    (h : s.action = some uploadAction) :
    s = uploadStep (Text.slugify j.name) j.artifactDirectories := by
  have hmem : s ∈ (steps j).filter fun s => s.action = some uploadAction :=
    List.mem_filter.2 ⟨hs, decide_eq_true h⟩
  rw [filter_uploadAction_steps] at hmem
  split at hmem
  · cases hmem
  · exact List.mem_singleton.1 hmem

theorem fetches_of_action {j : CiPipeline.Job} {s : Step} (hs : s ∈ steps j)
    (h : s.action = some downloadAction) : s.Fetches (slugs j.artifactDependencies) := by
  have hmem : s ∈ (steps j).filter fun s => s.action = some downloadAction :=
    List.mem_filter.2 ⟨hs, decide_eq_true h⟩
  rw [filter_downloadAction_steps] at hmem
  split at hmem
  · cases hmem
  · rename_i hne
    rw [List.mem_singleton.1 hmem]
    exact fetches_downloadStep fun hnil => hne (List.isEmpty_iff.2 hnil)

/-- A job uploads one bundle if it leaves artifacts, and none otherwise. -/
theorem filterMap_uploaded?_steps (j : CiPipeline.Job) :
    (steps j).filterMap Step.uploaded? =
      if j.artifactDirectories.isEmpty then [] else [Text.slugify j.name] := by
  have honly : (steps j).filterMap Step.uploaded? =
      ((steps j).filter fun s => s.action = some uploadAction).filterMap Step.uploaded? := by
    rw [List.filterMap_filter]
    refine List.filterMap_congr fun s _ => ?_
    by_cases h : s.action = some uploadAction
    · simp [h]
    · simp [h, Step.uploaded?_of_action_ne h]
  rw [honly, filter_uploadAction_steps]
  split <;> rfl

/-- A job fetches only from jobs that it depends on. -/
theorem slugs_artifactDependencies_subset (j : CiPipeline.Job) :
    slugs j.artifactDependencies ⊆ slugs j.dependencyNames := by
  intro bundle hbundle
  obtain ⟨name, hname, rfl⟩ := mem_slugs.1 hbundle
  refine mem_slugs.2 ⟨name, ?_, rfl⟩
  rw [CiPipeline.Job.dependencyNames, List.mem_eraseDups]
  exact List.mem_append_right _ hname

end Compiler

/-! ## Closed documents -/

/-- The parts of a document fit together; the document is made of the jobs `js`. -/
structure Closed (js : List CiPipeline.Job) (jobs : OrderedMap Job) : Prop where
  /-- The key of an entry is the slug of its name. -/
  keyed : ∀ e ∈ jobs.entries, Text.slugify e.2.name = e.1
  /-- Every need is the key of an entry. -/
  resolved : ∀ e ∈ jobs.entries, ∀ need ∈ e.2.needs, need ∈ jobs.keys
  /-- No entry has a need twice. -/
  needs_nodup : ∀ e ∈ jobs.entries, e.2.needs.Nodup
  /-- An entry fetches the bundles of the jobs whose artifacts its job wants, and needs them. -/
  fetched : ∀ e ∈ jobs.entries, ∃ j ∈ js, j.name = e.2.name ∧
    ∀ s ∈ e.2.steps, s.action = some downloadAction →
      s.Fetches (Compiler.slugs j.artifactDependencies) ∧
      ∀ bundle ∈ Compiler.slugs j.artifactDependencies, bundle ∈ e.2.needs
  /-- An entry uploads under its key. -/
  uploaded : ∀ e ∈ jobs.entries, ∀ s ∈ e.2.steps, s.action = some uploadAction →
    s.inputs.get? "name" = some (.str e.1)
  /-- No bundle is uploaded twice. -/
  uploads_nodup : (jobs.entries.flatMap fun e => e.2.steps.filterMap Step.uploaded?).Nodup

theorem closed_jobs {workflow : String} (c : Compiler) (h : Sound workflow js) :
    Closed js (c.jobs js) where
  keyed := by
    intro e he
    obtain ⟨j, hj, hjob⟩ := Compiler.exists_keptUnder_of_mem_entries he
    rw [← hjob]
    exact (of_keptUnder hj).2
  resolved := by
    intro e he need hneed
    exact mem_keys_of_needs h ⟨e.2, (OrderedMap.mem_entries_iff _ e.1 e.2).1 he, hneed⟩
  needs_nodup := by
    intro e he
    obtain ⟨j, -, hjob⟩ := Compiler.exists_keptUnder_of_mem_entries he
    rw [← hjob]
    exact Compiler.nodup_slugs _
  fetched := by
    intro e he
    obtain ⟨j, hj, hjob⟩ := Compiler.exists_keptUnder_of_mem_entries he
    rw [← hjob]
    exact ⟨j, (of_keptUnder hj).1, rfl, fun s hs hdownload =>
      ⟨Compiler.fetches_of_action hs hdownload, Compiler.slugs_artifactDependencies_subset j⟩⟩
  uploaded := by
    intro e he s hs hupload
    obtain ⟨j, hj, hjob⟩ := Compiler.exists_keptUnder_of_mem_entries he
    rw [← hjob] at hs
    rw [Compiler.eq_uploadStep hs hupload, ← (of_keptUnder hj).2]
    exact Compiler.get?_name_uploadStep _ _
  uploads_nodup := by
    -- every entry uploads at most one bundle, under its own key
    refine (c.jobs js).nodup.sublist (flatMap_sublist_map fun e he => ?_)
    obtain ⟨j, hj, hjob⟩ := Compiler.exists_keptUnder_of_mem_entries he
    rw [← hjob, ← (of_keptUnder hj).2]
    have hsteps : (c.job j).steps = Compiler.steps j := rfl
    rw [hsteps, Compiler.filterMap_uploaded?_steps]
    split
    · exact List.nil_sublist _
    · exact List.Sublist.refl _

/-- **Documents are closed.** In the document of a workflow that passes its check all needs and
bundles refer to entries of the document, whatever slugs the names of the jobs have. -/
theorem document_closed (c : Compiler) (w : Workflow) (hok : w.validate = .ok ()) :
    ((c.compile w).value = none ↔ w.jobs = []) ∧
    ∀ d, (c.compile w).value = some d → Closed w.jobs d.jobs := by
  refine ⟨Compiler.compile_value_eq_none_iff, fun d hd => ?_⟩
  rw [Compiler.jobs_of_compile hd]
  exact closed_jobs c (w.sound_of_validate hok)

/-- Two jobs with one slug, both of which leave artifacts, and a job that wants those of both. -/
def sharedBundle : Workflow where
  name := "CI"
  trigger := .push
  provider := .gitHub
  jobs := [
    .ofSteps "Build" [(Step.ofCommands ["make"]).withArtifactDirectory "out/"],
    .ofSteps "Lint" [(Step.ofCommands ["make lint"]).withArtifactDirectory "report/"],
    .ofSteps "build" [
      (Step.ofCommands ["make all"]).withArtifactDirectory "dist/" |>.withJobDependency "Lint"],
    .ofSteps "Deploy" [
      (Step.ofCommands ["./deploy.sh"]).withArtifactDependency "Build"
        |>.withArtifactDependency "build" |>.withArtifactDependency "Lint"]]

theorem sharedBundle_closed :
    sharedBundle.validate = .ok () ∧
    ∃ d, ((Compiler.ofOptions .unset).compile sharedBundle).value = some d ∧
      d.jobs.keys = ["build", "lint", "deploy"] ∧
      (d.jobs.entries.flatMap fun e => e.2.steps.filterMap Step.uploaded?) = ["build", "lint"] ∧
      Closed sharedBundle.jobs d.jobs := by
  have hok : sharedBundle.validate = .ok () :=
    Workflow.validate_eq_ok_iff_violations.2 (by decide +kernel)
  obtain ⟨-, hclosed⟩ := document_closed (.ofOptions .unset) sharedBundle hok
  exact ⟨hok, _, rfl, by decide +kernel, by decide +kernel, hclosed _ rfl⟩

/-! ## Produced bundles

A bundle is uploaded only by a job that declares directories for it. Nothing keeps a job from
asking for the artifacts of one that declares none, and of jobs with one slug only the last one's
declarations count. -/

/-- Some step of the job declares a directory. -/
def LeavesArtifacts (j : CiPipeline.Job) : Prop := ∃ s ∈ j.steps, s.artifactDirectories ≠ []

instance (j : CiPipeline.Job) : Decidable (LeavesArtifacts j) :=
  inferInstanceAs (Decidable (∃ s ∈ j.steps, _))

/-- The entry under the name of the bundle uploads it. -/
def Produced (jobs : OrderedMap Job) (bundle : String) : Prop :=
  ∃ job ∈ jobs.get? bundle, ∃ s ∈ job.steps, s.uploaded? = some bundle

instance (jobs : OrderedMap Job) (bundle : String) : Decidable (Produced jobs bundle) :=
  inferInstanceAs (Decidable (∃ job ∈ jobs.get? bundle, _))

theorem artifactDirectories_isEmpty_iff {j : CiPipeline.Job} :
    j.artifactDirectories.isEmpty = true ↔ ¬ LeavesArtifacts j := by
  have hnil : j.artifactDirectories = [] ↔ ∀ s ∈ j.steps, s.artifactDirectories = [] := by
    rw [List.eq_nil_iff_forall_not_mem]
    simp only [CiPipeline.Job.artifactDirectories, List.mem_eraseDups, List.mem_flatMap,
      not_exists, not_and]
    constructor
    · intro h s hs
      exact List.eq_nil_iff_forall_not_mem.2 fun directory => fun hd => h directory s hs hd
    · intro h directory s hs hd
      rw [h s hs] at hd
      cases hd
  rw [List.isEmpty_iff, hnil, LeavesArtifacts]
  simp only [not_exists, not_and, ne_eq, not_not]

/-- The steps of a job upload one bundle, named by its slug, if it leaves artifacts. -/
theorem exists_uploaded_iff {j : CiPipeline.Job} {bundle : String} :
    (∃ s ∈ Compiler.steps j, s.uploaded? = some bundle) ↔
      Text.slugify j.name = bundle ∧ LeavesArtifacts j := by
  rw [← List.mem_filterMap, Compiler.filterMap_uploaded?_steps]
  split
  · rename_i h
    have hnone := artifactDirectories_isEmpty_iff.1 h
    exact iff_of_false List.not_mem_nil fun hleaves => hnone hleaves.2
  · rename_i h
    have hleaves : LeavesArtifacts j := by
      by_contra hnone
      exact h (artifactDirectories_isEmpty_iff.2 hnone)
    rw [List.mem_singleton, eq_comm]
    exact ⟨fun hslug => ⟨hslug, hleaves⟩, fun h => h.1⟩

/-- What is declared by the job kept under the name of a bundle decides whether it is produced. -/
theorem produced_jobs_iff {c : Compiler} {bundle : String} :
    Produced (c.jobs js) bundle ↔ ∃ k, keptUnder js bundle = some k ∧ LeavesArtifacts k := by
  rw [Produced, Compiler.get?_jobs]
  simp only [Option.mem_def, Option.map_eq_some_iff, exists_exists_and_eq_and]
  refine exists_congr fun k => and_congr_right fun hk => ?_
  have hsteps : (c.job k).steps = Compiler.steps k := rfl
  rw [hsteps, exists_uploaded_iff]
  exact and_iff_right (of_keptUnder hk).2

theorem produced_slugify_iff (hslugs : (js.map fun j => Text.slugify j.name).Nodup) {c : Compiler}
    {k : CiPipeline.Job} (hk : k ∈ js) :
    Produced (c.jobs js) (Text.slugify k.name) ↔ LeavesArtifacts k := by
  rw [produced_jobs_iff, keptUnder_slugify hslugs hk]
  constructor
  · rintro ⟨_, heq, hleaves⟩
    cases heq
    exact hleaves
  · intro hleaves
    exact ⟨k, rfl, hleaves⟩

/-- **Which bundles are produced.** In the document of a workflow that passes its check every
bundle that is asked for belongs to an entry of the document, and that entry uploads it iff the
job that is kept under its key declares a directory. If the slugs are distinct this is the very
job whose artifacts are asked for. -/
theorem bundle_produced_iff_declared (c : Compiler) (w : Workflow) (d : Document)
    (hok : w.validate = .ok ()) (hd : (c.compile w).value = some d) :
    (∀ e ∈ d.jobs.entries, ∃ j, keptUnder w.jobs e.1 = some j ∧
      ∀ s ∈ e.2.steps, s.action = some downloadAction →
        s.Fetches (Compiler.slugs j.artifactDependencies)) ∧
    (∀ j ∈ w.jobs, ∀ bundle ∈ Compiler.slugs j.artifactDependencies,
      bundle ∈ d.jobs.keys ∧
      (Produced d.jobs bundle ↔ ∃ k, keptUnder w.jobs bundle = some k ∧ LeavesArtifacts k)) ∧
    ((w.jobs.map fun j => Text.slugify j.name).Nodup →
      ∀ j ∈ w.jobs, ∀ name ∈ j.artifactDependencies, ∃ k ∈ w.jobs, k.name = name ∧
        (Produced d.jobs (Text.slugify name) ↔ LeavesArtifacts k)) := by
  have hsound := w.sound_of_validate hok
  rw [Compiler.jobs_of_compile hd]
  refine ⟨fun e he => ?_, fun j hj bundle hbundle => ⟨?_, produced_jobs_iff⟩, ?_⟩
  · obtain ⟨j, hj, hjob⟩ := Compiler.exists_keptUnder_of_mem_entries he
    rw [← hjob]
    exact ⟨j, hj, fun s hs hdownload => Compiler.fetches_of_action hs hdownload⟩
  · obtain ⟨name, hname, rfl⟩ :=
      Compiler.mem_slugs.1 (Compiler.slugs_artifactDependencies_subset j hbundle)
    obtain ⟨k, hk, rfl⟩ := mem_jobNames.1 (hsound.mem_jobNames hj hname)
    exact Compiler.mem_keys_jobs.2 ⟨k, hk, rfl⟩
  · intro hslugs j hj name hname
    have hdep : name ∈ j.dependencyNames := by
      rw [CiPipeline.Job.dependencyNames, List.mem_eraseDups]
      exact List.mem_append_right _ hname
    obtain ⟨k, hk, rfl⟩ := mem_jobNames.1 (hsound.mem_jobNames hj hdep)
    exact ⟨k, hk, rfl, produced_slugify_iff hslugs hk⟩

/-- A job that wants the artifacts of two others, one of which declares none. -/
def oneSided : Workflow where
  name := "CI"
  trigger := .push
  provider := .gitHub
  jobs := [
    .ofSteps "Build" [(Step.ofCommands ["make"]).withArtifactDirectory "out/"],
    .ofSteps "Lint" [.ofCommands ["make lint"]],
    .ofSteps "Deploy" [
      (Step.ofCommands ["./deploy.sh"]).withArtifactDependency "Build"
        |>.withArtifactDependency "Lint"]]

theorem oneSided_produced :
    oneSided.validate = .ok () ∧
    ∃ d, ((Compiler.ofOptions .unset).compile oneSided).value = some d ∧
      (∃ k, keptUnder oneSided.jobs "build" = some k ∧ LeavesArtifacts k) ∧
      Produced d.jobs "build" := by
  have hok : oneSided.validate = .ok () :=
    Workflow.validate_eq_ok_iff_violations.2 (by decide +kernel)
  obtain ⟨-, hproduced, -⟩ := bundle_produced_iff_declared (.ofOptions .unset) oneSided _ hok rfl
  obtain ⟨-, hiff⟩ := hproduced oneSided.jobs[2] (by decide +kernel) "build" (by decide +kernel)
  have hleaves : ∃ k, keptUnder oneSided.jobs "build" = some k ∧ LeavesArtifacts k :=
    ⟨oneSided.jobs[0], by decide +kernel, by decide +kernel⟩
  exact ⟨hok, _, rfl, hleaves, hiff.2 hleaves⟩

/-- A bundle that is asked for need not be there: a job that declares no directories uploads
nothing. -/
theorem oneSided_missing_bundle :
    oneSided.validate = .ok () ∧
    ∃ d, ((Compiler.ofOptions .unset).compile oneSided).value = some d ∧
      (∃ job ∈ d.jobs.get? "deploy", ∃ s ∈ job.steps, s.Fetches ["build", "lint"]) ∧
      "lint" ∈ d.jobs.keys ∧ ¬ Produced d.jobs "lint" := by
  have hok : oneSided.validate = .ok () :=
    Workflow.validate_eq_ok_iff_violations.2 (by decide +kernel)
  refine ⟨hok, _, rfl, ?_, by decide +kernel, by decide +kernel⟩
  exact ⟨_, rfl, _, List.mem_of_mem_getLast? rfl, rfl, rfl⟩

end CiPipeline.GitHub

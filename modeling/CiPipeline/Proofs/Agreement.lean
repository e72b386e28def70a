import CiPipeline.Proofs.Bundles
import CiPipeline.Proofs.Schedules

set_option autoImplicit false

/-! # One job for two providers

A job is compiled for GitHub and for GitLab in different ways: there each step has a script of
its own, jobs go by their slugs, and one step fetches all bundles; here there is a single script,
jobs go by their names, and every need is marked on its own. Both entries say the same about the
job, whatever the settings of the two compilers are.
-/

namespace CiPipeline

/-! ## What the entries say -/

/-- The steps that use an action. -/
def GitHub.Job.stepsUsing (job : GitHub.Job) (action : String) : List GitHub.Step :=
  job.steps.filter fun s => s.action = some action

/-- The scripts of the steps that run one. -/
def GitHub.Job.scripts (job : GitHub.Job) : List String := job.steps.filterMap (·.script)

/-- The jobs whose artifacts are fetched. -/
def GitLab.Job.fetchedFrom (job : GitLab.Job) : List String :=
  (job.needs.filter fun need => need.artifacts = some true).map (·.job)

/-- An entry of a GitHub document and an entry of a GitLab document ask for the same. -/
structure Agree (hub : GitHub.Job) (lab : GitLab.Job) : Prop where
  /-- GitHub's needs are the slugs of GitLab's in the same order, each once. -/
  needs : hub.needs = (lab.needs.map fun need => Text.slugify need.job).eraseDups
  /-- GitHub has no download step iff no need of GitLab's is marked. -/
  download_none : hub.stepsUsing GitHub.downloadAction = [] ↔ lab.fetchedFrom = []
  /-- Otherwise it has one download step, for the slugs of the marked needs, each once. -/
  download : ∀ s ∈ hub.stepsUsing GitHub.downloadAction,
    hub.stepsUsing GitHub.downloadAction = [s] ∧
    ∃ bundles, s.Fetches bundles ∧ bundles.Nodup ∧
      ∀ bundle, bundle ∈ bundles ↔ ∃ name ∈ lab.fetchedFrom, Text.slugify name = bundle
  /-- GitHub has one upload step if GitLab keeps artifacts, for the same directories, and none
  otherwise. -/
  upload : (hub.stepsUsing GitHub.uploadAction).map (·.inputs.get? "path") =
    lab.artifacts.toList.map fun kept => some (.str (String.intercalate "\n" kept.paths))
  /-- Both name the same group, or none. -/
  group : hub.concurrency.map (·.group) = lab.resourceGroup

/-! ## GitLab's marks -/

/-- The marked needs are those for artifact dependencies. -/
theorem GitLab.Compiler.mem_fetchedFrom_job {c : Compiler} {j : CiPipeline.Job} {name : String} :
    name ∈ (c.job j).fetchedFrom ↔ name ∈ j.artifactDependencies := by
  simp only [Job.fetchedFrom, job, needs, List.mem_map, List.mem_filter, decide_eq_true_eq]
  constructor
  · rintro ⟨need, ⟨⟨dep, -, rfl⟩, hneed⟩, rfl⟩
    split at hneed
    · rename_i hdep
      rw [if_pos hdep]
      exact List.contains_iff_mem.1 hdep
    · cases hneed
  · intro hname
    have hdep : name ∈ j.dependencyNames := by
      rw [CiPipeline.Job.dependencyNames, List.mem_eraseDups]
      exact List.mem_append_right _ hname
    exact ⟨.withArtifacts name, ⟨⟨name, hdep, if_pos (List.contains_iff_mem.2 hname)⟩, rfl⟩, rfl⟩

/-! ## GitHub's steps -/

namespace GitHub.Compiler

theorem script_downloadStep (bundles : List String) : (downloadStep bundles).script = none := by
  unfold downloadStep
  split <;> rfl

/-- Only the steps of the job itself run a script. -/
theorem scripts_job (c : Compiler) (j : CiPipeline.Job) :
    (c.job j).scripts = j.steps.map fun s => String.intercalate "\n" s.commands := by
  have hscripts : (j.steps.map scriptStep).filterMap (·.script) =
      j.steps.map fun s => String.intercalate "\n" s.commands := by
    rw [List.filterMap_map, ← List.filterMap_eq_map]
    rfl
  show (steps j).filterMap (·.script) = _
  rw [steps, List.filterMap_append, List.filterMap_append, List.filterMap_append, hscripts]
  have hupload : ∀ directories,
      (uploadStep (Text.slugify j.name) directories).script = none := fun _ => rfl
  have hcheckout : checkoutStep.script = none := rfl
  cases j.artifactDirectories <;> cases slugs j.artifactDependencies <;>
    simp [hcheckout, hupload, script_downloadStep]

end GitHub.Compiler

/-- An entry downloads all that its job asks for in one step. -/
theorem GitHub.stepsUsing_downloadAction (c : GitHub.Compiler) (j : CiPipeline.Job) :
    (c.job j).stepsUsing downloadAction =
      if (Compiler.slugs j.artifactDependencies).isEmpty then []
      else [Compiler.downloadStep (Compiler.slugs j.artifactDependencies)] :=
  Compiler.filter_downloadAction_steps j

variable (hub : GitHub.Compiler) (lab : GitLab.Compiler) (j : Job)

/-- The bundles that GitHub fetches are the slugs of GitLab's marked needs. -/
theorem mem_bundles_iff (bundle : String) :
    bundle ∈ GitHub.Compiler.slugs j.artifactDependencies ↔
      ∃ name ∈ (lab.job j).fetchedFrom, Text.slugify name = bundle := by
  simp only [GitHub.Compiler.mem_slugs, GitLab.Compiler.mem_fetchedFrom_job]

theorem agree_job : Agree (hub.job j) (lab.job j) where
  needs := by
    have hneeds : ((lab.job j).needs.map fun need => Text.slugify need.job) =
        j.dependencyNames.map Text.slugify := by
      rw [← GitLab.Compiler.map_job_needs, List.map_map]
      rfl
    rw [hneeds]
    rfl
  download_none := by
    have hnone : (GitHub.Compiler.slugs j.artifactDependencies).isEmpty = true ↔
        (lab.job j).fetchedFrom = [] := by
      rw [List.isEmpty_iff, List.eq_nil_iff_forall_not_mem, List.eq_nil_iff_forall_not_mem]
      simp only [mem_bundles_iff lab, not_exists, not_and]
      exact ⟨fun h name hname => h _ name hname rfl, fun h _ name hname => absurd hname (h name)⟩
    rw [← hnone, GitHub.stepsUsing_downloadAction]
    split
    · rename_i h
      exact iff_of_true rfl h
    · rename_i h
      exact iff_of_false (List.cons_ne_nil _ _) h
  download := by
    intro s hs
    have hfetches := GitHub.Compiler.fetches_of_action (List.mem_filter.1 hs).1
      (of_decide_eq_true (List.mem_filter.1 hs).2)
    refine ⟨?_, _, hfetches, nodup_eraseDups _, mem_bundles_iff lab j⟩
    rw [GitHub.stepsUsing_downloadAction] at hs ⊢
    split at hs
    · cases hs
    · rename_i hne
      rw [if_neg hne, List.mem_singleton.1 hs]
  upload := by
    show ((GitHub.Compiler.steps j).filter _).map _ = _
    rw [GitHub.Compiler.filter_uploadAction_steps]
    simp only [GitLab.Compiler.job, GitLab.Compiler.artifacts]
    split <;> rfl
  group := by
    show (j.concurrencyGroup.map _).map _ = j.concurrencyGroup
    rw [Option.map_map]
    exact Option.map_id_apply

/-- **Both providers do the same for a job.** The needs, the artifacts that are fetched and kept,
and the group agree for every job. If every step has a command, the scripts of GitHub's steps
are together GitLab's script. -/
theorem compilers_agree :
    Agree (hub.job j) (lab.job j) ∧
    ((∀ s ∈ j.steps, s.commands ≠ []) →
      String.intercalate "\n" (hub.job j).scripts = String.intercalate "\n" (lab.job j).script) := by
  refine ⟨agree_job hub lab j, fun hcommands => ?_⟩
  rw [GitHub.Compiler.scripts_job]
  exact intercalate_flatMap "\n" (fun s : Step => s.commands) hcommands

/-- A job that depends on others in both ways, leaves artifacts from two steps, and has two names
with one slug among those it fetches from. -/
def release : Job :=
  { Job.ofSteps "Release" [
      (Step.ofCommands ["npm ci", "npm test"]).withJobDependency "Lint"
        |>.withJobDependency "Build" |>.withArtifactDirectory "dist/",
      (Step.ofCommands ["npm publish"]).withArtifactDependency "Docs"
        |>.withArtifactDependency "Build" |>.withArtifactDependency "docs"
        |>.withArtifactDirectory "site/" |>.withArtifactDirectory "dist/"] with
    concurrencyGroup := some "production" }

theorem release_agrees :
    (∀ s ∈ release.steps, s.commands ≠ []) ∧
    ∃ (hub : GitHub.Job) (lab : GitLab.Job), Agree hub lab ∧
      hub.needs = ["lint", "build", "docs"] ∧
      lab.needs = [.plain "Lint", .withArtifacts "Build", .withArtifacts "Docs",
        .withArtifacts "docs"] ∧
      String.intercalate "\n" hub.scripts = String.intercalate "\n" lab.script := by
  have hcommands : ∀ s ∈ release.steps, s.commands ≠ [] := by decide
  obtain ⟨hagree, hscript⟩ :=
    compilers_agree (.ofOptions .unset) (.ofOptions .unset) release
  exact ⟨hcommands, _, _, hagree, by decide +kernel, by decide +kernel, hscript hcommands⟩

end CiPipeline

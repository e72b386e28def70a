import CiPipeline.GitHub.Compiler
import CiPipeline.Proofs.Schedules

set_option autoImplicit false

/-! # References of jobs

A job refers to others in two ways, and its steps may name the same job several times and in both
ways. The names are collected in the order of their first appearance, those of plain dependencies
first. In GitHub's entry the slugs of the names are collected in the same way. In GitLab's entry
each name is one need, which is marked if any step asks for the artifacts of the job.
-/

namespace CiPipeline

/-! ## Collected names -/

namespace Job

/-- The plain dependencies of all steps, as they are written. -/
def plainReferences (j : Job) : List String := j.steps.flatMap (·.jobDependencies)

/-- The artifact dependencies of all steps, as they are written. -/
def artifactReferences (j : Job) : List String :=
  j.steps.flatMap fun s => s.artifactDependencies.map (·.jobName)

/-- Some step asks for the artifacts of the job of this name. -/
def FetchesFrom (j : Job) (name : String) : Prop := ∃ s ∈ j.steps, ⟨name⟩ ∈ s.artifactDependencies

instance (j : Job) (name : String) : Decidable (j.FetchesFrom name) :=
  inferInstanceAs (Decidable (∃ s ∈ j.steps, _))

/-- The names are collected over all references at once. -/
theorem dependencyNames_eq (j : Job) :
    j.dependencyNames = (j.plainReferences ++ j.artifactReferences).eraseDups :=
  eraseDups_append_eraseDups j.plainReferences j.artifactReferences

theorem contains_artifactDependencies {j : Job} {name : String} :
    j.artifactDependencies.contains name = true ↔ j.FetchesFrom name := by
  rw [List.contains_iff_mem, artifactDependencies, List.mem_eraseDups, List.mem_flatMap]
  refine exists_congr fun s => and_congr_right fun _ => ?_
  rw [List.mem_map]
  constructor
  · rintro ⟨⟨d⟩, hd, rfl⟩
    exact hd
  · intro hname
    exact ⟨⟨name⟩, hname, rfl⟩

end Job

/-! ## Collected slugs -/

/-- GitHub's needs are collected over all references at once, although two names that are kept
can have the same slug. -/
theorem GitHub.Compiler.needs_job (c : Compiler) (j : CiPipeline.Job) :
    (c.job j).needs =
      ((j.plainReferences ++ j.artifactReferences).map Text.slugify).eraseDups := by
  show (j.dependencyNames.map Text.slugify).eraseDups = _
  rw [j.dependencyNames_eq, eraseDups_map_eraseDups]

/-- **References are collected once.** The names that a job depends on are those of all its plain
dependencies and then of all its artifact dependencies, each once, at its first appearance. The
needs of GitHub's entry are the slugs of the same names, each once, at its first appearance. -/
theorem references_collected_once (c : GitHub.Compiler) (j : Job) :
    (j.dependencyNames = (j.plainReferences ++ j.artifactReferences).eraseDups ∧
      FirstAppearances (j.plainReferences ++ j.artifactReferences) j.dependencyNames) ∧
    ((c.job j).needs =
        ((j.plainReferences ++ j.artifactReferences).map Text.slugify).eraseDups ∧
      FirstAppearances ((j.plainReferences ++ j.artifactReferences).map Text.slugify)
        (c.job j).needs) := by
  refine ⟨⟨j.dependencyNames_eq, ?_⟩, c.needs_job j, ?_⟩
  · rw [j.dependencyNames_eq]
    exact firstAppearances_eraseDups _
  · rw [c.needs_job]
    exact firstAppearances_eraseDups _

/-- Three of these names have one slug, and one name is referred to in both ways. -/
example :
    let j := Job.ofSteps "Deploy" [
      (Step.ofCommands ["./a.sh"]).withArtifactDependency "unit tests"
        |>.withJobDependency "Build",
      (Step.ofCommands ["./b.sh"]).withJobDependency "Unit Tests"
        |>.withArtifactDependency "Unit  tests" |>.withArtifactDependency "Build"
        |>.withArtifactDependency "Docs"]
    j.dependencyNames = ["Build", "Unit Tests", "unit tests", "Unit  tests", "Docs"] ∧
      ((GitHub.Compiler.ofOptions .unset).job j).needs = ["build", "unit-tests", "docs"] := by
  decide +kernel

/-! ## Needs -/

namespace GitLab

/-- The needs are those that the steps of a job ask for. -/
structure AskedFor (j : CiPipeline.Job) (needs : List Need) : Prop where
  /-- There is a need for each job that some step refers to, and no other. -/
  mem_iff : ∀ name, name ∈ needs.map (·.job) ↔ ∃ s ∈ j.steps, s.RefersTo name
  nodup : (needs.map (·.job)).Nodup
  /-- The plain dependencies come first, then those on artifacts that are not named yet; each of
  the two in the order of their first appearance. -/
  ordered : ∃ plain added, needs.map (·.job) = plain ++ added ∧
    FirstAppearances j.plainReferences plain ∧
    FirstAppearances (j.artifactReferences.removeAll j.plainReferences) added
  /-- A need is written with a mark if some step asks for artifacts, and without one otherwise. -/
  marked : ∀ need ∈ needs, need.toTree = .map (("job", .str need.job) ::
    if j.FetchesFrom need.job then [("artifacts", .bool true)] else [])

theorem Compiler.toTree_of_mem_needs {j : CiPipeline.Job} {need : Need}
    (h : need ∈ Compiler.needs j) :
    need.toTree = .map (("job", .str need.job) ::
      if j.FetchesFrom need.job then [("artifacts", .bool true)] else []) := by
  obtain ⟨name, -, rfl⟩ := List.mem_map.1 h
  by_cases hfetch : j.FetchesFrom name
  · rw [if_pos (Job.contains_artifactDependencies.2 hfetch)]
    show _ = Tree.map (("job", .str name) :: if j.FetchesFrom name then _ else _)
    rw [if_pos hfetch]
    rfl
  · rw [if_neg (mt Job.contains_artifactDependencies.1 hfetch)]
    show _ = Tree.map (("job", .str name) :: if j.FetchesFrom name then _ else _)
    rw [if_neg hfetch]
    rfl

/-- **The needs of an entry.** For every job and all settings of the compiler the entry for the
job needs what the steps of the job ask for, whichever of them name the same job. -/
theorem needs_asked_for (c : Compiler) (j : CiPipeline.Job) : AskedFor j (c.job j).needs where
  mem_iff := by
    intro name
    rw [← CiPipeline.Job.mem_dependencyNames, ← Compiler.map_job_needs]
    rfl
  nodup := by
    have hnames : (c.job j).needs.map (·.job) = j.dependencyNames := Compiler.map_job_needs j
    rw [hnames]
    exact nodup_eraseDups _
  ordered := by
    refine ⟨_, _, ?_, firstAppearances_eraseDups _, firstAppearances_eraseDups _⟩
    rw [← List.eraseDups_append, ← CiPipeline.Job.dependencyNames_eq]
    exact Compiler.map_job_needs j
  marked := fun _ h => Compiler.toTree_of_mem_needs h

/-- A mark is not lost when the job is also named plainly, before or after. -/
example :
    (Compiler.needs (.ofSteps "Deploy" [
      (Step.ofCommands ["./a.sh"]).withArtifactDependency "Build" |>.withJobDependency "Lint",
      (Step.ofCommands ["./b.sh"]).withJobDependency "Build" |>.withArtifactDependency "Docs"
        |>.withArtifactDependency "Lint"])) =
      [.withArtifacts "Lint", .withArtifacts "Build", .withArtifacts "Docs"] := by
  decide +kernel

end GitLab

end CiPipeline

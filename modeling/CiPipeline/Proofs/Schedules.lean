import CiPipeline.GitLab.Compiler
import CiPipeline.Proofs.Bindings
import CiPipeline.Proofs.Soundness

set_option autoImplicit false

/-! # Schedules of GitLab jobs

A GitLab document refers to jobs by their names, which are distinct in a sound workflow. So it
has an entry for each job, with its needs as they were asked for, and an order of the jobs is
one of the entries.
-/

namespace CiPipeline.GitLab

variable {js : List CiPipeline.Job}

/-- The one entry has to wait for the other. -/
def WaitsFor (e f : String × Job) : Prop := ∃ need ∈ e.2.needs, need.job = f.1

namespace Compiler

/-- A job needs what it depends on, with or without artifacts. -/
theorem map_job_needs (j : CiPipeline.Job) : (needs j).map (·.job) = j.dependencyNames := by
  rw [needs, List.map_map]
  refine (List.map_congr_left fun name _ => ?_).trans (List.map_id _)
  simp only [Function.comp_apply]
  split <;> rfl

theorem mem_dependencyNames_of_mem_needs {j : CiPipeline.Job} {need : Need}
    (h : need ∈ needs j) : need.job ∈ j.dependencyNames := by
  rw [← map_job_needs]
  exact List.mem_map_of_mem h

/-- Jobs with distinct names have one entry each. -/
theorem entries_jobs (c : Compiler) (hd : (js.map (·.name)).Nodup) :
    (c.jobs js).entries = js.map fun j => (j.name, c.job j) :=
  OrderedMap.entries_ofList_map (fun j : CiPipeline.Job => j.name) c.job hd

theorem mem_keys_jobs {c : Compiler} {name : String} :
    name ∈ (c.jobs js).keys ↔ name ∈ jobNames js := by
  rw [jobs, OrderedMap.keys_ofList_map (fun j : CiPipeline.Job => j.name) c.job]
  rfl

theorem compile_value_of_ne_nil (c : Compiler) {w : Workflow} (h : w.jobs ≠ []) :
    (c.compile w).value = some (c.jobs w.jobs) := by
  have hjobs : w.hasJobs = true := by simp [Workflow.hasJobs, h]
  rw [compile, if_pos hjobs]

end Compiler

variable {workflow : String} {c : Compiler}

/-- Every entry is that of a job. -/
theorem exists_job_of_mem_entries (h : Sound workflow js) {e : String × Job}
    (he : e ∈ (c.jobs js).entries) : ∃ j ∈ js, (j.name, c.job j) = e := by
  rw [c.entries_jobs h.distinct] at he
  exact List.mem_map.1 he

theorem dependsOn_of_waitsFor {j k : CiPipeline.Job}
    (h : WaitsFor (j.name, c.job j) (k.name, c.job k)) : j.DependsOn k := by
  obtain ⟨need, hneed, heq⟩ := h
  have hdep := Compiler.mem_dependencyNames_of_mem_needs hneed
  rw [heq] at hdep
  exact CiPipeline.Job.mem_dependencyNames.1 hdep

/-- The entries can be put in an order in which each comes after those that it waits for. -/
theorem exists_schedule (h : Sound workflow js) :
    ∃ order, order.Perm (c.jobs js).entries ∧ InOrder WaitsFor order := by
  obtain ⟨order, hperm, horder⟩ := h.ordered
  refine ⟨order.map fun j => (j.name, c.job j), ?_, ?_⟩
  · rw [c.entries_jobs h.distinct]
    exact hperm.map _
  · exact horder.map fun j _ k _ hjk => dependsOn_of_waitsFor hjk

/-- **Documents can be scheduled.** The document of a workflow that passes its check and has jobs
has an entry for each job, in the order of registration, under its name. Every need is the name
of an entry, no entry has a need twice, and the entries can be put in an order in which each
comes after all that it needs. -/
theorem document_has_schedule (c : Compiler) (w : Workflow) (hok : w.validate = .ok ())
    (hjobs : w.jobs ≠ []) :
    ∃ jobs, (c.compile w).value = some jobs ∧
      jobs.entries = w.jobs.map (fun j => (j.name, c.job j)) ∧
      (∀ e ∈ jobs.entries, ∀ need ∈ e.2.needs, need.job ∈ jobs.keys) ∧
      (∀ e ∈ jobs.entries, (e.2.needs.map (·.job)).Nodup) ∧
      ∃ order, order.Perm jobs.entries ∧ InOrder WaitsFor order := by
  have hsound := w.sound_of_validate hok
  refine ⟨c.jobs w.jobs, c.compile_value_of_ne_nil hjobs, c.entries_jobs hsound.distinct,
    ?_, ?_, exists_schedule hsound⟩
  · intro e he need hneed
    obtain ⟨j, hj, rfl⟩ := exists_job_of_mem_entries hsound he
    have hdep := Compiler.mem_dependencyNames_of_mem_needs hneed
    exact Compiler.mem_keys_jobs.2 (hsound.mem_jobNames hj hdep)
  · intro e he
    obtain ⟨j, -, rfl⟩ := exists_job_of_mem_entries hsound he
    have hneeds : (c.job j).needs.map (·.job) = j.dependencyNames := Compiler.map_job_needs j
    rw [hneeds]
    exact nodup_eraseDups _

/-- Jobs that are registered before those they depend on, in both ways. -/
def latestFirst : Workflow where
  name := "CI"
  trigger := .push
  provider := .gitLab
  jobs := [
    .ofSteps "Deploy" [
      (Step.ofCommands ["./check.sh"]).withJobDependency "Unit Tests"
        |>.withJobDependency "Build",
      (Step.ofCommands ["./deploy.sh"]).withArtifactDependency "Build"],
    .ofSteps "Unit Tests" [(Step.ofCommands ["make test"]).withJobDependency "Build"],
    .ofSteps "Build" [(Step.ofCommands ["make"]).withArtifactDirectory "out/"]]

theorem latestFirst_has_schedule :
    latestFirst.validate = .ok () ∧ latestFirst.jobs ≠ [] ∧
    ∃ jobs, ((Compiler.ofOptions .unset).compile latestFirst).value = some jobs ∧
      jobs.keys = ["Deploy", "Unit Tests", "Build"] ∧
      (jobs.get? "Deploy").map (·.needs) =
        some [.plain "Unit Tests", .withArtifacts "Build"] ∧
      ∃ order, order.Perm jobs.entries ∧ InOrder WaitsFor order := by
  have hok : latestFirst.validate = .ok () :=
    Workflow.validate_eq_ok_iff_violations.2 (by decide +kernel)
  have hjobs : latestFirst.jobs ≠ [] := List.cons_ne_nil _ _
  obtain ⟨jobs, hcompile, -, -, -, hschedule⟩ :=
    document_has_schedule (.ofOptions .unset) latestFirst hok hjobs
  cases hcompile
  exact ⟨hok, hjobs, _, rfl, by decide +kernel, by decide +kernel, hschedule⟩

end CiPipeline.GitLab

import CiPipeline.Proofs.Synthesis
import CiPipeline.Proofs.Writing
import Mathlib.Data.List.Nodup

set_option autoImplicit false

/-! # Files that share a path

The path of a workflow's file says the provider and the slug of the name. Each workflow is
checked alone, so nothing keeps two workflows of one provider from having names with the same
slug. Then their files have the same path, and when they are written the later file replaces
the earlier one. This is the only way in which two files of a definition can share a path.
-/

namespace CiPipeline

open Output

/-! ## Workflows -/

namespace Workflow

/-- The names in the path of the workflow's file. -/
def pathNames (w : Workflow) : List String :=
  [w.provider.rootDir, "workflows", w.slug ++ ".yml"]

theorem pathNames_eq_iff {v w : Workflow} :
    v.pathNames = w.pathNames ↔ (v.provider, v.slug) = (w.provider, w.slug) := by
  have hroot : ∀ p q : Provider, p.rootDir = q.rootDir → p = q := by
    intro p q
    cases p <;> cases q <;> decide
  have hslug : v.slug ++ ".yml" = w.slug ++ ".yml" → v.slug = w.slug := by
    intro h
    rw [← String.toList_inj, String.toList_append, String.toList_append] at h
    exact String.toList_inj.1 (List.append_cancel_right h)
  rw [Prod.mk.injEq]
  constructor
  · intro h
    simp only [pathNames, List.cons.injEq, and_true, true_and] at h
    exact ⟨hroot _ _ h.1, hslug h.2⟩
  · rintro ⟨hprovider, hs⟩
    rw [pathNames, pathNames, hprovider, hs]

theorem isPlain_path_of_validate {w : Workflow} (h : w.validate = .ok ()) :
    w.path.IsPlain w.pathNames :=
  isPlain_path (w.sound_of_validate h).no_separator.1

end Workflow

/-! ## Definitions -/

namespace Definition

variable {d : Definition} {files : List GeneratedFile}

theorem isPlain_pipelineFile : Path.IsPlain ⟨GitLab.pipelineFile⟩ [GitLab.pipelineFile] :=
  ⟨List.cons_ne_nil _ _, by decide⟩

theorem eq_of_synthesize (h : d.synthesize.value = .ok files) :
    files = d.gitHubFiles ++ d.topLevelFiles ++ d.gitLabFiles ∧
      ∀ w ∈ d.workflows, w.validate = .ok () := by
  rw [synthesize_value] at h
  split at h
  · rename_i herr
    exact ⟨(Except.ok.inj h).symm, errorsOf_eq_nil_iff.1 herr⟩
  · cases h

theorem map_path_gitHubFiles (d : Definition) :
    d.gitHubFiles.map (·.path) = (d.gitHubWorkflows.filter (·.hasJobs)).map (·.path) := by
  rw [gitHubFiles, gitHubWorkflows]
  cases d.gitHub with
  | none => rfl
  | some s =>
      simp only [Option.toList_some, List.flatMap_singleton, List.map_map, Function.comp_def,
        GitHub.fileOf, Workflow.hasJobs]

theorem map_path_gitLabFiles (d : Definition) :
    d.gitLabFiles.map (·.path) = (d.gitLabWorkflows.filter (·.hasJobs)).map (·.path) := by
  rw [gitLabFiles, gitLabWorkflows]
  cases d.gitLab with
  | none => rfl
  | some s =>
      simp only [Option.toList_some, List.flatMap_singleton, List.map_map, Function.comp_def,
        GitLab.fileOf, Workflow.hasJobs]

/-- The paths of the files: GitLab's top-level one, if there is one, and those of the
workflows that have jobs. -/
theorem map_path_perm (h : d.synthesize.value = .ok files) :
    (files.map (·.path)).Perm
      (d.topLevelFiles.map (·.path) ++ (d.workflows.filter (·.hasJobs)).map (·.path)) := by
  rw [(eq_of_synthesize h).1, List.map_append, List.map_append, map_path_gitHubFiles,
    map_path_gitLabFiles, workflows, List.filter_append, List.map_append, ← List.append_assoc]
  exact List.perm_append_comm.append_right _

theorem isPlain_of_mem (h : d.synthesize.value = .ok files) {f : GeneratedFile} (hf : f ∈ files) :
    ∃ ns, f.path.IsPlain ns := by
  have hpath := (map_path_perm h).mem_iff.1 (List.mem_map_of_mem hf)
  rcases List.mem_append.1 hpath with htop | hw
  · rw [map_path_topLevelFiles] at htop
    split at htop
    · rw [List.mem_singleton.1 htop]
      exact ⟨_, isPlain_pipelineFile⟩
    · cases htop
  · obtain ⟨w, hw, heq⟩ := List.mem_map.1 hw
    rw [← heq]
    exact ⟨_, w.isPlain_path_of_validate ((eq_of_synthesize h).2 w (List.mem_filter.1 hw).1)⟩

/-- No two files share a path iff no two workflows with jobs agree in provider and slug. -/
theorem nodup_map_path_iff (h : d.synthesize.value = .ok files) :
    (files.map (·.path.components)).Nodup ↔
      ((d.workflows.filter (·.hasJobs)).map fun w => (w.provider, w.slug)).Nodup := by
  have hcomponents : ∀ w ∈ d.workflows.filter (·.hasJobs),
      w.path.components = w.pathNames.map .name := fun w hw =>
    (w.isPlain_path_of_validate ((eq_of_synthesize h).2 w (List.mem_filter.1 hw).1)).components_eq
  have hkeys : ((d.workflows.filter (·.hasJobs)).map (·.path.components)).Nodup ↔
      ((d.workflows.filter (·.hasJobs)).map fun w => (w.provider, w.slug)).Nodup := by
    rw [List.Nodup, List.Nodup, List.pairwise_map, List.pairwise_map]
    refine List.Pairwise.iff_of_mem fun {v w} hv hw => not_congr ?_
    rw [hcomponents v hv, hcomponents w hw, List.map_inj_right fun _ _ => Path.Component.name.inj,
      Workflow.pathNames_eq_iff]
  have hperm : (files.map (·.path.components)).Perm
      (d.topLevelFiles.map (·.path.components) ++
        (d.workflows.filter (·.hasJobs)).map (·.path.components)) := by
    have := (map_path_perm h).map (·.components)
    simpa only [List.map_append, List.map_map, Function.comp_def] using this
  have htop : d.topLevelFiles.map (·.path.components) =
      if d.gitLabWorkflows.any (·.hasJobs) then [[.name GitLab.pipelineFile]] else [] := by
    have := congrArg (List.map (·.components)) d.map_path_topLevelFiles
    simp only [List.map_map, Function.comp_def] at this
    rw [this]
    split
    · exact congrArg (fun c => [c]) isPlain_pipelineFile.components_eq
    · rfl
  -- the order of the files does not matter, so the top-level one may come first
  rw [hperm.nodup_iff, htop, List.nodup_append, hkeys]
  constructor
  · exact fun hnodup => hnodup.2.1
  · refine fun hws => ⟨?_, hws, ?_⟩
    · split
      · exact List.nodup_singleton _
      · exact List.nodup_nil
    · -- the top-level path is one name, that of a workflow three
      intro a ha b hb
      obtain ⟨w, hw, rfl⟩ := List.mem_map.1 hb
      rw [hcomponents w hw]
      split at ha
      · rw [List.mem_singleton.1 ha]
        intro heq
        simp [Workflow.pathNames] at heq
      · cases ha

/-- **Files that share a path.** No two of the files share a path iff no provider has two
workflows with jobs whose names have the same slug. After the files have been written anywhere
with success, a check finds nothing iff files with the same path have the same content, and so
whenever no two share a path. -/
theorem distinct_paths_iff_distinct_slugs (d : Definition) (files : List GeneratedFile)
    (h : d.synthesize.value = .ok files) :
    ((files.map (·.path.components)).Nodup ↔
      ((d.workflows.filter (·.hasJobs)).map fun w => (w.provider, w.slug)).Nodup) ∧
    ∀ (root : Path) (disk disk' : Disk) (results : List FileResult),
      (writeFiles root files false : StateM Disk _).run disk = (⟨results, none⟩, disk') →
        ((files.map (·.path.components)).Nodup →
          (checkFiles root files : StateM Disk _).run disk' = (⟨[], none⟩, disk')) ∧
        ((checkFiles root files : StateM Disk _).run disk' = (⟨[], none⟩, disk') ↔
          ∀ f ∈ files, ∀ g ∈ files, f.path.components = g.path.components →
            f.content = g.content) := by
  refine ⟨nodup_map_path_iff h, fun root disk disk' results hwrite => ?_⟩
  have hclean := checkFiles_eq_nil_iff (fun f hf => isPlain_of_mem h hf) hwrite
  refine ⟨fun hnodup => hclean.2 fun f hf g hg heq => ?_, hclean⟩
  rw [List.inj_on_of_nodup_map hnodup hf hg heq]

/-- What comes of writing files to an empty disk. -/
def writtenAfresh (files : List GeneratedFile) : Progress FileResult × Disk :=
  (writeFiles ⟨"out"⟩ files false : StateM Disk _).run .empty

theorem run_eq_writtenAfresh (h : (writtenAfresh files).1.failure = none) :
    (writeFiles ⟨"out"⟩ files false : StateM Disk _).run .empty =
      (⟨(writtenAfresh files).1.achieved, none⟩, (writtenAfresh files).2) :=
  run_eq_of_failure h

/-- Both providers with the names that are used unless others are set. One name is the same for
both. -/
def defaultNames : Definition where
  gitHub := some ⟨GitHub.Options.unset, [], [.ofSteps "Test" [.ofCommands ["make test"]]]⟩
  gitLab := some ⟨GitLab.Options.unset, [], [.ofSteps "Test" [.ofCommands ["make test"]]]⟩

theorem defaultNames_written_then_clean :
    ∃ files, defaultNames.synthesize.value = .ok files ∧
      (files.map (·.path.components)).Nodup ∧ (writtenAfresh files).1.failure = none ∧
      (checkFiles ⟨"out"⟩ files : StateM Disk _).run (writtenAfresh files).2 =
        (⟨[], none⟩, (writtenAfresh files).2) := by
  have herr : errorsOf defaultNames.workflows = [] := by decide +kernel
  have h := (synthesize_value defaultNames).trans (if_pos herr)
  obtain ⟨hpaths, hcheck⟩ := distinct_paths_iff_distinct_slugs _ _ h
  have hnodup := hpaths.2 (by decide +kernel)
  have hfailure : (writtenAfresh (defaultNames.gitHubFiles ++ defaultNames.topLevelFiles
      ++ defaultNames.gitLabFiles)).1.failure = none := by decide +kernel
  exact ⟨_, h, hnodup, hfailure, (hcheck _ _ _ _ (run_eq_writtenAfresh hfailure)).1 hnodup⟩

/-- One provider with two workflows of the same name and different jobs. -/
def namesakes : Definition where
  gitHub := some {
    options := { GitHub.Options.unset with
      codeChangeRequestWorkflowName := "CI", pushWorkflowName := "CI" }
    codeChangeRequestJobs := [.ofSteps "Test" [.ofCommands ["make test"]]]
    pushJobs := [.ofSteps "Release" [.ofCommands ["make release"]]] }
  gitLab := none

/-- Files can share a path. Then writing them succeeds, and a check finds the one that has been
replaced. -/
theorem namesakes_share_path :
    ∃ files, namesakes.synthesize.value = .ok files ∧
      ¬ (files.map (·.path.components)).Nodup ∧ (writtenAfresh files).1.failure = none ∧
      ((checkFiles ⟨"out"⟩ files : StateM Disk _).run (writtenAfresh files).2).1 =
        ⟨[⟨".github/workflows/ci.yml"⟩], none⟩ := by
  have herr : errorsOf namesakes.workflows = [] := by decide +kernel
  refine ⟨_, (synthesize_value namesakes).trans (if_pos herr), ?_, ?_⟩
  · decide +kernel
  · decide +kernel

end Definition

end CiPipeline

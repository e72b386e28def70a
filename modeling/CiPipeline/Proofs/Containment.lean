import CiPipeline.Proofs.Collisions

set_option autoImplicit false

/-! # Files stay below the root

The names of workflows are chosen freely, and they end up in paths. Still a generated file is
either GitLab's top-level one or lies in a provider's directory of workflows, under one name that
is made of the slug. A name with a separator does not pass the check, a slug has no slash that is
not in the name, and what is put behind it keeps it from being `.` or `..`. So generated files are
never refused for their paths, whatever file system they are written to.
-/

namespace CiPipeline

/-! ## Paths -/

namespace Definition

variable {d : Definition} {files : List GeneratedFile}

/-- The three names in the path of a workflow's file. -/
theorem components_path {w : Workflow} (h : w.validate = .ok ()) :
    w.path.components =
      [.name w.provider.rootDir, .name "workflows", .name (Text.slugify w.name ++ ".yml")] :=
  (w.isPlain_path_of_validate h).components_eq

theorem provider_of_mem_gitHubWorkflows {w : Workflow} (h : w ∈ d.gitHubWorkflows) :
    w.provider = .gitHub := by
  obtain ⟨s, -, hw⟩ := List.mem_flatMap.1 h
  exact Section.provider_of_mem_described hw

theorem provider_of_mem_gitLabWorkflows {w : Workflow} (h : w ∈ d.gitLabWorkflows) :
    w.provider = .gitLab := by
  obtain ⟨s, -, hw⟩ := List.mem_flatMap.1 h
  exact Section.provider_of_mem_described hw

/-- **Where generated files lie**: at the top-level path, or in the provider's directory under
the slug of a workflow's name. -/
theorem path_of_mem (h : d.synthesize.value = .ok files) {f : GeneratedFile} (hf : f ∈ files) :
    f.path = ⟨".gitlab-ci.yml"⟩ ∨
    (∃ w ∈ d.gitHubWorkflows, f.path.components =
      [.name ".github", .name "workflows", .name (Text.slugify w.name ++ ".yml")]) ∨
    (∃ w ∈ d.gitLabWorkflows, f.path.components =
      [.name ".gitlab", .name "workflows", .name (Text.slugify w.name ++ ".yml")]) := by
  have hvalid := (eq_of_synthesize h).2
  have hpath := (map_path_perm h).mem_iff.1 (List.mem_map_of_mem hf)
  rcases List.mem_append.1 hpath with htop | hw
  · rw [map_path_topLevelFiles] at htop
    split at htop
    · exact Or.inl (List.mem_singleton.1 htop)
    · cases htop
  · obtain ⟨w, hw, heq⟩ := List.mem_map.1 hw
    have hmem := (List.mem_filter.1 hw).1
    have hcomponents := components_path (hvalid w hmem)
    rw [heq] at hcomponents
    rcases List.mem_append.1 hmem with hhub | hlab
    · rw [provider_of_mem_gitHubWorkflows hhub] at hcomponents
      exact Or.inr (Or.inl ⟨w, hhub, hcomponents⟩)
    · rw [provider_of_mem_gitLabWorkflows hlab] at hcomponents
      exact Or.inr (Or.inr ⟨w, hlab, hcomponents⟩)

theorem isContained_of_mem (h : d.synthesize.value = .ok files) {f : GeneratedFile}
    (hf : f ∈ files) : f.path.isContained = true := by
  obtain ⟨ns, hplain⟩ := isPlain_of_mem h hf
  exact hplain.isContained

end Definition

/-! ## Runs on any file system -/

namespace Output

variable {σ : Type} {α β : Type}

/-- In no state of the file system the computation fails because a path leads out of the root. -/
def KeepsInside (x : ExceptT Failure (StateM σ) α) : Prop :=
  ∀ s p, (x.run.run s).1 ≠ .error (.unsafePath p)

theorem KeepsInside.pure (a : α) : KeepsInside (Pure.pure a : ExceptT Failure (StateM σ) α) := by
  intro s p h
  cases h

theorem KeepsInside.bind {x : ExceptT Failure (StateM σ) α}
    {f : α → ExceptT Failure (StateM σ) β} (hx : KeepsInside x) (hf : ∀ a, KeepsInside (f a)) :
    KeepsInside (x >>= f) := by
  intro s p h
  have hs := hx s
  rw [ExceptT.run_bind, StateT.run_bind] at h
  rcases hrun : x.run.run s with ⟨r, s'⟩
  rw [hrun] at h hs
  cases r with
  | error e => exact hs p (congrArg Except.error (Except.error.inj h))
  | ok a => exact hf a s' p h

/-- What goes wrong in the file system is reported as such. -/
theorem keepsInside_onPath (path : Path) (x : StateM σ (Except Storage.Error α)) :
    KeepsInside (onPath path x) := by
  intro s p h
  change (x.run s).1.mapError (Failure.io path) = .error (.unsafePath p) at h
  cases hx : (x.run s).1 with
  | error e =>
      rw [hx] at h
      cases h
  | ok a =>
      rw [hx] at h
      cases h

/-- If no step fails because of where a path leads, neither does a run. -/
theorem failure_each_ne {step : GeneratedFile → ExceptT Failure (StateM σ) α}
    {fs : List GeneratedFile} (h : ∀ f ∈ fs, KeepsInside (step f)) (s : σ) (p : Path) :
    ((each step fs).run s).1.failure ≠ some (.unsafePath p) := by
  induction fs generalizing s with
  | nil =>
      intro hfail
      cases hfail
  | cons f fs ih =>
      have hstep := h f List.mem_cons_self s p
      have ih := ih fun g hg => h g (List.mem_cons_of_mem f hg)
      rw [each, StateT.run_bind]
      rcases hrun : (step f).run.run s with ⟨r, s'⟩
      rw [hrun] at hstep
      cases r with
      | error e =>
          intro hfail
          exact hstep (congrArg Except.error (Option.some.inj hfail))
      | ok a => exact ih s'

variable [FileStore (StateM σ)] {root : Path} {f : GeneratedFile} {fs : List GeneratedFile}

theorem keepsInside_current (path : Path) :
    KeepsInside (current path : ExceptT Failure (StateM σ) _) := by
  intro s p h
  rw [current, ExceptT.run_mk, StateT.run_bind] at h
  rcases hread : (FileStore.read path : StateM σ _).run s with ⟨r, s'⟩
  rw [hread] at h
  cases r with
  | ok text => cases h
  | error e => cases e <;> cases h

theorem keepsInside_due (root : Path) (f : GeneratedFile) :
    KeepsInside (due root f : ExceptT Failure (StateM σ) _) :=
  (keepsInside_current _).bind fun _ => .pure _

theorem keepsInside_place (path : Path) (text : String) :
    KeepsInside (place path text : ExceptT Failure (StateM σ) _) := by
  rw [place]
  split
  · exact (keepsInside_onPath _ _).bind fun _ => keepsInside_onPath _ _
  · exact keepsInside_onPath _ _

theorem keepsInside_write (root : Path) (f : GeneratedFile) :
    KeepsInside (write root f : ExceptT Failure (StateM σ) _) := by
  refine (keepsInside_due root f).bind fun status => ?_
  split
  · exact (keepsInside_place _ _).bind fun _ => .pure _
  · exact .pure _

theorem keepsInside_preview (root : Path) (f : GeneratedFile) :
    KeepsInside (preview root f : ExceptT Failure (StateM σ) _) :=
  (keepsInside_due root f).bind fun _ => .pure _

theorem keepsInside_check (hf : f.path.isContained = true) :
    KeepsInside (check root f : ExceptT Failure (StateM σ) _) := by
  rw [check, if_neg (not_not_intro hf)]
  exact (keepsInside_due root f).bind fun _ => .pure _

theorem failure_writeFiles_ne (hfs : ∀ f ∈ fs, f.path.isContained = true) (dryRun : Bool) (s : σ)
    (p : Path) :
    ((writeFiles root fs dryRun : StateM σ _).run s).1.failure ≠ some (.unsafePath p) := by
  rw [writeFiles_of_isContained hfs]
  refine failure_each_ne (fun f _ => ?_) s p
  cases dryRun with
  | false => exact keepsInside_write root f
  | true => exact keepsInside_preview root f

theorem failure_checkFiles_ne (hfs : ∀ f ∈ fs, f.path.isContained = true) (s : σ) (p : Path) :
    ((checkFiles root fs : StateM σ _).run s).1.failure ≠ some (.unsafePath p) := by
  rw [checkFiles, StateT.run_bind]
  exact failure_each_ne (fun f hf => keepsInside_check (hfs f hf)) s p

end Output

/-! ## Generated files -/

namespace Definition

/-- **Generated files stay below the root**, whatever names the definition gives. Each of them has
the path `.gitlab-ci.yml`, or a path of three names: the provider's directory, `workflows`, and
the slug of a workflow's name with `.yml` behind it. So all paths are accepted, and on no file
system writing, previewing or checking the files fails because a path leads out of the root. -/
theorem synthesized_below_root (d : Definition) (files : List GeneratedFile)
    (h : d.synthesize.value = .ok files) :
    (∀ f ∈ files,
      f.path = ⟨".gitlab-ci.yml"⟩ ∨
      (∃ w ∈ d.gitHubWorkflows, f.path.components =
        [.name ".github", .name "workflows", .name (Text.slugify w.name ++ ".yml")]) ∨
      (∃ w ∈ d.gitLabWorkflows, f.path.components =
        [.name ".gitlab", .name "workflows", .name (Text.slugify w.name ++ ".yml")])) ∧
    (∀ f ∈ files, f.path.isContained = true) ∧
    ∀ (σ : Type) [FileStore (StateM σ)] (root : Path) (state : σ) (path : Path),
      (∀ dryRun : Bool,
        ((writeFiles root files dryRun : StateM σ _).run state).1.failure ≠
          some (.unsafePath path)) ∧
      ((checkFiles root files : StateM σ _).run state).1.failure ≠ some (.unsafePath path) := by
  have hinside : ∀ f ∈ files, f.path.isContained = true := fun f hf => isContained_of_mem h hf
  refine ⟨fun f hf => path_of_mem h hf, hinside, fun σ _ root state path => ⟨?_, ?_⟩⟩
  · intro dryRun
    exact Output.failure_writeFiles_ne hinside dryRun state path
  · exact Output.failure_checkFiles_ne hinside state path

/-- Workflows whose names are made of dots and blanks or begin with them, are empty, or have
letters whose lower case is longer. -/
def oddNames : Definition where
  gitHub := some {
    options := { GitHub.Options.unset with
      codeChangeRequestWorkflowName := "..", pushWorkflowName := "\t.CI\u2003.." }
    codeChangeRequestJobs := [.ofSteps "Test" [.ofCommands ["make test"]]]
    pushJobs := [.ofSteps "Test" [.ofCommands ["make test"]]] }
  gitLab := some {
    options := { GitLab.Options.unset with
      codeChangeRequestWorkflowName := "", pushWorkflowName := "\u0130~ÄÖ" }
    codeChangeRequestJobs := [.ofSteps "Test" [.ofCommands ["make test"]]]
    pushJobs := [.ofSteps "Test" [.ofCommands ["make test"]]] }

theorem oddNames_below_root :
    ∃ files, oddNames.synthesize.value = .ok files ∧
      files.map (·.path.text) = [".github/workflows/...yml", ".github/workflows/-.ci-...yml",
        ".gitlab-ci.yml", ".gitlab/workflows/.yml", ".gitlab/workflows/i\u0307~äö.yml"] ∧
      (∀ f ∈ files, f.path.isContained = true) ∧
      ∀ (disk : Disk) (path : Path),
        ((writeFiles ⟨"out"⟩ files false : StateM Disk _).run disk).1.failure ≠
          some (.unsafePath path) := by
  have herr : errorsOf oddNames.workflows = [] := by decide +kernel
  have h := (synthesize_value oddNames).trans (if_pos herr)
  obtain ⟨-, hinside, hruns⟩ := synthesized_below_root _ _ h
  refine ⟨_, h, by decide +kernel, hinside, fun disk path => ?_⟩
  exact (hruns Disk ⟨"out"⟩ disk path).1 false

end Definition

end CiPipeline

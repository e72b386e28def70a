import CiPipeline.Definition
import CiPipeline.Proofs.Soundness

set_option autoImplicit false

/-! # All files or all errors

The files of a definition are made in layers: workflows are rendered one by one, sections
collect them, and the definition collects the sections. Each layer has its equation here, and
they add up to one for the whole (`synthesize_value`): if every workflow passes its check
there is one file for each workflow that has jobs, and GitLab's top-level file before those of
GitLab; otherwise there is one error for each workflow that fails, and no file.
-/

namespace CiPipeline

variable {ρ δ : Type}

/-! ## Errors -/

/-- The errors of the workflows that break a rule, each with all the rules it breaks. -/
def errorsOf (ws : List Workflow) : List CompileError :=
  (ws.filter fun w => !w.violations.isEmpty).map fun w => .invalid w.name w.violations

theorem errorsOf_append (vs ws : List Workflow) :
    errorsOf (vs ++ ws) = errorsOf vs ++ errorsOf ws := by
  simp [errorsOf]

theorem errorsOf_eq_nil_iff {ws : List Workflow} :
    errorsOf ws = [] ↔ ∀ w ∈ ws, w.validate = .ok () := by
  simp only [errorsOf, List.map_eq_nil_iff, List.filter_eq_nil_iff, Bool.not_eq_true',
    Bool.not_eq_false, List.isEmpty_iff, Workflow.validate_eq_ok_iff_violations]

/-! ## Rendering workflows -/

/-- The file of a workflow, if the backend makes a document of it. -/
def Backend.file? (b : Backend δ) (w : Workflow) : Option GeneratedFile :=
  (b.compile w).value.map fun document => ⟨w.path, fileContent (b.toTree document)⟩

theorem Backend.render_value {b : Backend δ} {w : Workflow} (h : w.provider = b.provider) :
    (b.render w).value =
      if w.violations.isEmpty then .ok (b.file? w) else .error (.invalid w.name w.violations) := by
  rw [render, accepts, if_pos h, Workflow.validate]
  split
  · rename_i hv
    split at hv
    · cases hv
    · rename_i hw
      cases hv
      rw [if_neg hw]
      rfl
  · rename_i hv
    split at hv
    · rename_i hw
      rw [if_pos hw, Logged.value_bind, file?]
      cases (b.compile w).value <;> rfl
    · cases hv

/-- A workflow gives a file iff it belongs to the backend's provider, passes its check and gives a
document. -/
theorem Backend.render_eq_ok_some_iff {b : Backend δ} {w : Workflow} {file : GeneratedFile} :
    (b.render w).value = .ok (some file) ↔
      w.provider = b.provider ∧ w.validate = .ok () ∧ b.file? w = some file := by
  by_cases h : w.provider = b.provider
  · rw [render_value h, Workflow.validate_eq_ok_iff_violations, ← List.isEmpty_iff]
    by_cases hv : w.violations.isEmpty
    · simp [h, hv]
    · simp [hv]
  · have hrefused : (b.render w).value = .error (.providerMismatch w.name b.provider w.provider) := by
      rw [render, accepts, if_neg h]
      rfl
    rw [hrefused]
    exact iff_of_false (fun he => by cases he) fun he => h he.1

theorem Section.renderAll_value {b : Backend δ} {ws : List Workflow}
    (h : ∀ w ∈ ws, w.provider = b.provider) :
    (renderAll b ws).value =
      ((ws.filter fun w => w.violations.isEmpty).filterMap b.file?, errorsOf ws) := by
  induction ws with
  | nil => rfl
  | cons w ws ih =>
      have hw := Backend.render_value (h w List.mem_cons_self)
      have ih := ih fun v hv => h v (List.mem_cons_of_mem w hv)
      rw [renderAll, Logged.value_bind, hw]
      by_cases hv : w.violations.isEmpty
      · rw [if_pos hv, Logged.value_bind, ih]
        have herr : errorsOf (w :: ws) = errorsOf ws := by simp [errorsOf, hv]
        simp only [herr, List.filter_cons, hv, if_true, List.filterMap_cons]
        cases b.file? w <;> rfl
      · rw [if_neg hv, Logged.value_bind, Logged.value_bind, ih]
        have herr : errorsOf (w :: ws) = .invalid w.name w.violations :: errorsOf ws := by
          simp [errorsOf, hv]
        simp only [herr, List.filter_cons, hv]
        rfl

/-! ## Sections -/

namespace Section

/-- The workflows that a section describes: first that of its jobs for code change requests, then
that of its jobs for pushes. -/
def described (p : Platform ρ δ) (s : Section ρ) : List Workflow := [
  { name := p.workflowName s.options .codeChangeRequest
    trigger := .codeChangeRequest
    provider := (p.backend s.options).provider
    jobs := s.codeChangeRequestJobs },
  { name := p.workflowName s.options .push
    trigger := .push
    provider := (p.backend s.options).provider
    jobs := s.pushJobs }]

/-- A section's workflows belong to its backend. -/
theorem provider_of_mem_described {p : Platform ρ δ} {s : Section ρ} {w : Workflow}
    (h : w ∈ s.described p) : w.provider = (p.backend s.options).provider := by
  simp only [described, List.mem_cons, List.not_mem_nil, or_false] at h
  rcases h with rfl | rfl <;> rfl

/-- The program asks for the jobs of a trigger, and finds the two lists of the section. -/
theorem workflows_value (p : Platform ρ δ) (s : Section ρ) :
    (s.workflows p).value = s.described p := rfl

/-- The files of a section all of whose workflows pass. -/
def output (p : Platform ρ δ) (s : Section ρ) : List GeneratedFile :=
  (p.overview s.options (s.described p)).value.toList
    ++ (s.described p).filterMap (p.backend s.options).file?

theorem synthesize_value (p : Platform ρ δ) (s : Section ρ) :
    (s.synthesize p).value =
      if errorsOf (s.described p) = [] then .ok (s.output p)
      else .error (errorsOf (s.described p)) := by
  -- no workflow of the section is refused for its provider
  have hprov : ∀ w ∈ s.described p, w.provider = (p.backend s.options).provider :=
    fun _ => provider_of_mem_described
  rw [synthesize, Logged.value_bind, workflows_value, files, Logged.value_bind,
    renderAll_value hprov]
  by_cases herr : errorsOf (s.described p) = []
  · have hall : ((s.described p).filter fun w => w.violations.isEmpty) = s.described p := by
      refine List.filter_eq_self.2 fun w hw => List.isEmpty_iff.2 ?_
      exact Workflow.validate_eq_ok_iff_violations.1 (errorsOf_eq_nil_iff.1 herr w hw)
    rw [if_pos herr, hall]
    simp only [herr, List.isEmpty_nil, if_true]
    rfl
  · rw [if_neg herr]
    have hne : ¬ (errorsOf (s.described p)).isEmpty = true := fun he => herr (List.isEmpty_iff.1 he)
    simp only [hne]
    rfl

end Section

/-! ## Documents of the providers -/

/-- The files are those of the workflows that have jobs, for a backend that makes a document of
these and of no others. -/
theorem Backend.filterMap_file? {b : Backend δ} {document : Workflow → δ}
    (h : ∀ w, (b.compile w).value = if w.hasJobs then some (document w) else none)
    (ws : List Workflow) :
    ws.filterMap b.file? =
      (ws.filter (·.hasJobs)).map fun w => ⟨w.path, fileContent (b.toTree (document w))⟩ := by
  rw [← filterMap_if]
  refine congrArg (ws.filterMap ·) (funext fun w => ?_)
  rw [Backend.file?, h w]
  split <;> rfl

theorem GitHub.Compiler.compile_value (c : Compiler) (w : Workflow) :
    (c.compile w).value = if w.hasJobs then some (c.document w) else none := by
  rw [compile]
  split <;> rfl

theorem GitLab.Compiler.compile_value (c : Compiler) (w : Workflow) :
    (c.compile w).value = if w.hasJobs then some (c.jobs w.jobs) else none := by
  rw [compile]
  split <;> rfl

/-- The GitHub file of a workflow that has jobs. -/
def GitHub.fileOf (o : GitHub.Options) (w : Workflow) : GeneratedFile :=
  ⟨w.path, fileContent ((Compiler.ofOptions o).document w).toTree⟩

/-- The GitLab file of a workflow that has jobs. -/
def GitLab.fileOf (o : GitLab.Options) (w : Workflow) : GeneratedFile :=
  ⟨w.path, fileContent ((Compiler.ofOptions o).jobs w.jobs).toTree⟩

theorem GitHub.filterMap_file? (o : GitHub.Options) (ws : List Workflow) :
    ws.filterMap (GitHub.platform.backend o).file? =
      (ws.filter (·.hasJobs)).map (GitHub.fileOf o) :=
  Backend.filterMap_file? (Compiler.ofOptions o).compile_value ws

theorem GitLab.filterMap_file? (o : GitLab.Options) (ws : List Workflow) :
    ws.filterMap (GitLab.platform.backend o).file? =
      (ws.filter (·.hasJobs)).map (GitLab.fileOf o) :=
  Backend.filterMap_file? (Compiler.ofOptions o).compile_value ws

/-- The top-level file, if there is anything to include. -/
def GitLab.topFile? (o : GitLab.Options) (ws : List Workflow) : Option GeneratedFile :=
  (pipeline o ws).map fun p => ⟨⟨pipelineFile⟩, fileContent p.toTree⟩

theorem GitLab.overview_value (o : GitLab.Options) (ws : List Workflow) :
    (overview o ws).value = topFile? o ws := by
  rw [overview, topFile?]
  cases pipeline o ws <;> rfl

/-- There is a top-level file iff some workflow has jobs. -/
theorem GitLab.map_path_topFile? (o : GitLab.Options) (ws : List Workflow) :
    (topFile? o ws).toList.map (·.path) =
      if ws.any (·.hasJobs) then [⟨pipelineFile⟩] else [] := by
  have hiff : (includes o ws).isEmpty = true ↔ ¬ ws.any (·.hasJobs) = true := by
    simp [includes, List.isEmpty_iff, List.filter_eq_nil_iff]
  rw [topFile?, pipeline]
  by_cases h : ws.any (·.hasJobs)
  · rw [if_pos h, if_neg fun he => hiff.1 he h]
    rfl
  · rw [if_neg h, if_pos (hiff.2 h)]
    rfl

/-- The files of a GitLab section: the top-level one, if there is one, before the others. -/
theorem GitLab.output_eq (s : Section GitLab.Options) :
    s.output GitLab.platform =
      (topFile? s.options (s.described GitLab.platform)).toList
        ++ ((s.described GitLab.platform).filter (·.hasJobs)).map (fileOf s.options) := by
  rw [Section.output, filterMap_file?]
  exact congrArg (·.toList ++ _) (overview_value _ _)

/-! ## Definitions -/

/-- Two results as one: the files of both, or the errors of both. -/
def combined : Except (List CompileError) (List GeneratedFile) →
    Except (List CompileError) (List GeneratedFile) →
    Except (List CompileError) (List GeneratedFile)
  | .ok fs, .ok gs => .ok (fs ++ gs)
  | .ok _, .error e => .error e
  | .error e, .ok _ => .error e
  | .error e, .error f => .error (e ++ f)

namespace Definition

/-- The workflows of the GitHub section, if there is one. -/
def gitHubWorkflows (d : Definition) : List Workflow :=
  d.gitHub.toList.flatMap (Section.described GitHub.platform)

/-- The workflows of the GitLab section, if there is one. -/
def gitLabWorkflows (d : Definition) : List Workflow :=
  d.gitLab.toList.flatMap (Section.described GitLab.platform)

/-- All workflows, GitHub's first. -/
def workflows (d : Definition) : List Workflow := d.gitHubWorkflows ++ d.gitLabWorkflows

/-- One file for each GitHub workflow that has jobs. -/
def gitHubFiles (d : Definition) : List GeneratedFile :=
  d.gitHub.toList.flatMap fun s =>
    ((s.described GitHub.platform).filter fun w => !w.jobs.isEmpty).map (GitHub.fileOf s.options)

/-- One file for each GitLab workflow that has jobs. -/
def gitLabFiles (d : Definition) : List GeneratedFile :=
  d.gitLab.toList.flatMap fun s =>
    ((s.described GitLab.platform).filter fun w => !w.jobs.isEmpty).map (GitLab.fileOf s.options)

/-- GitLab's top-level file, if there is one. -/
def topLevelFiles (d : Definition) : List GeneratedFile :=
  d.gitLab.toList.flatMap fun s =>
    (GitLab.topFile? s.options (s.described GitLab.platform)).toList

theorem sectionFiles_value (p : Platform ρ δ) (o : Option (Section ρ)) :
    (sectionFiles p o).value =
      if errorsOf (o.toList.flatMap (Section.described p)) = [] then
        (o.toList.flatMap (Section.output p), [])
      else ([], errorsOf (o.toList.flatMap (Section.described p))) := by
  cases o with
  | none => rfl
  | some s =>
      rw [sectionFiles, Logged.value_bind, Section.synthesize_value]
      simp only [Option.toList_some, List.flatMap_singleton]
      by_cases h : errorsOf (s.described p) = []
      · simp only [if_pos h]
        rfl
      · simp only [if_neg h]
        rfl

theorem flatMap_output_gitHub (d : Definition) :
    d.gitHub.toList.flatMap (Section.output GitHub.platform) = d.gitHubFiles := by
  refine congrArg (d.gitHub.toList.flatMap ·) (funext fun s => ?_)
  rw [Section.output, GitHub.filterMap_file?]
  rfl

theorem flatMap_output_gitLab (d : Definition) :
    d.gitLab.toList.flatMap (Section.output GitLab.platform) =
      d.topLevelFiles ++ d.gitLabFiles := by
  cases hd : d.gitLab with
  | none => simp [topLevelFiles, gitLabFiles, hd]
  | some s =>
      simp only [topLevelFiles, gitLabFiles, hd, Option.toList_some, List.flatMap_singleton]
      exact GitLab.output_eq s

/-- The sections are looked at apart, and only their errors decide. -/
theorem synthesize_value_of_sections (d : Definition) :
    d.synthesize.value =
      let hub := (sectionFiles GitHub.platform d.gitHub).value
      let lab := (sectionFiles GitLab.platform d.gitLab).value
      if hub.2 ++ lab.2 = [] then .ok (hub.1 ++ lab.1) else .error (hub.2 ++ lab.2) := by
  rw [synthesize, Logged.value_bind]
  simp only [Logged.value_bind, List.isEmpty_iff]
  by_cases herr : (sectionFiles GitHub.platform d.gitHub).value.2
      ++ (sectionFiles GitLab.platform d.gitLab).value.2 = []
  · rw [if_pos herr, if_pos herr]
    split <;> rfl
  · rw [if_neg herr, if_neg herr]
    rfl

/-- **The result for a definition**: all its files, or all its errors. -/
theorem synthesize_value (d : Definition) :
    d.synthesize.value =
      if errorsOf d.workflows = [] then
        .ok (d.gitHubFiles ++ d.topLevelFiles ++ d.gitLabFiles)
      else .error (errorsOf d.workflows) := by
  have hhub : (sectionFiles GitHub.platform d.gitHub).value =
      if errorsOf d.gitHubWorkflows = [] then (d.gitHubFiles, [])
      else ([], errorsOf d.gitHubWorkflows) := by
    rw [sectionFiles_value, flatMap_output_gitHub]
    rfl
  have hlab : (sectionFiles GitLab.platform d.gitLab).value =
      if errorsOf d.gitLabWorkflows = [] then (d.topLevelFiles ++ d.gitLabFiles, [])
      else ([], errorsOf d.gitLabWorkflows) := by
    rw [sectionFiles_value, flatMap_output_gitLab]
    rfl
  rw [synthesize_value_of_sections, hhub, hlab, workflows, errorsOf_append, List.append_assoc]
  by_cases h₁ : errorsOf d.gitHubWorkflows = [] <;>
    by_cases h₂ : errorsOf d.gitLabWorkflows = [] <;> simp [h₁, h₂]

theorem synthesize_gitHub (d : Definition) :
    (synthesize { d with gitLab := none }).value =
      if errorsOf d.gitHubWorkflows = [] then .ok d.gitHubFiles
      else .error (errorsOf d.gitHubWorkflows) := by
  have hws : workflows { d with gitLab := none } = d.gitHubWorkflows := List.append_nil _
  have hfs : ∀ fs, fs ++ topLevelFiles { d with gitLab := none }
      ++ gitLabFiles { d with gitLab := none } = fs := by
    intro fs
    simp [topLevelFiles, gitLabFiles]
  rw [synthesize_value, hws, hfs]
  rfl

theorem synthesize_gitLab (d : Definition) :
    (synthesize { d with gitHub := none }).value =
      if errorsOf d.gitLabWorkflows = [] then .ok (d.topLevelFiles ++ d.gitLabFiles)
      else .error (errorsOf d.gitLabWorkflows) := synthesize_value _

/-- A definition gives what its two sections give, each taken alone. -/
theorem synthesize_eq_combined (d : Definition) :
    d.synthesize.value =
      combined (synthesize { d with gitLab := none }).value
        (synthesize { d with gitHub := none }).value := by
  rw [synthesize_value, synthesize_gitHub, synthesize_gitLab, workflows, errorsOf_append]
  by_cases h₁ : errorsOf d.gitHubWorkflows = [] <;>
    by_cases h₂ : errorsOf d.gitLabWorkflows = [] <;> simp [h₁, h₂, combined]

theorem map_path_topLevelFiles (d : Definition) :
    d.topLevelFiles.map (·.path) =
      if d.gitLabWorkflows.any (·.hasJobs) then [⟨GitLab.pipelineFile⟩] else [] := by
  cases hd : d.gitLab with
  | none => simp [topLevelFiles, gitLabWorkflows, hd]
  | some s =>
      simp only [topLevelFiles, gitLabWorkflows, hd, Option.toList_some, List.flatMap_singleton]
      exact GitLab.map_path_topFile? _ _

/-- **All files or all errors.** A definition gives files iff each of its workflows passes
its check: one for each GitHub workflow that has jobs, `.gitlab-ci.yml` iff some GitLab
workflow has jobs, and one for each GitLab workflow that has jobs. Otherwise it gives one
error for each workflow that fails, with all that is wrong with it. Neither provider is
affected by the other. -/
theorem synthesize_all_or_nothing (d : Definition) :
    ((∃ files, d.synthesize.value = .ok files) ↔ ∀ w ∈ d.workflows, w.validate = .ok ()) ∧
    (∀ files, d.synthesize.value = .ok files →
      files = d.gitHubFiles ++ d.topLevelFiles ++ d.gitLabFiles) ∧
    d.topLevelFiles.map (·.path) =
      (if d.gitLabWorkflows.any fun w => !w.jobs.isEmpty then [⟨".gitlab-ci.yml"⟩] else []) ∧
    (∀ errors, d.synthesize.value = .error errors →
      errors = (d.workflows.filter fun w => !w.violations.isEmpty).map
        fun w => .invalid w.name w.violations) ∧
    d.synthesize.value =
      combined (synthesize { d with gitLab := none }).value
        (synthesize { d with gitHub := none }).value := by
  refine ⟨?_, ?_, map_path_topLevelFiles d, ?_, synthesize_eq_combined d⟩
  · rw [synthesize_value, ← errorsOf_eq_nil_iff]
    constructor
    · rintro ⟨files, h⟩
      split at h
      · assumption
      · cases h
    · intro h
      exact ⟨_, if_pos h⟩
  · intro files h
    rw [synthesize_value] at h
    split at h
    · cases h
      rfl
    · cases h
  · intro errors h
    rw [synthesize_value] at h
    split at h
    · cases h
    · cases h
      rfl

end Definition

end CiPipeline

import CiPipeline.Proofs.Collisions

set_option autoImplicit false

/-! # GitLab's top-level file and the files it includes

The path of a workflow's file and the path under which it is included are put together in
different ways. They are the same for every workflow that passes its check, since no slug begins
with a slash then. So the top-level file includes exactly the files that are written beside it,
each under the expressions for its trigger. What counts is the tree that is written: it is only
looked at under its keys.
-/

namespace CiPipeline

/-- The value under a key of a map. -/
def Tree.get? (t : Tree) (key : String) : Option Tree :=
  match t with
  | .map es => es.lookup key
  | _ => none

namespace GitLab

/-! ## Single workflows -/

theorem includePath_eq {w : Workflow} (h : w.validate = .ok ()) : includePath w = w.path.text := by
  rw [Workflow.path_eq (w.sound_of_validate h).no_separator.1]
  rfl

/-- The path of a workflow's file has three names, that of the top-level file one. -/
theorem path_ne_pipelineFile {w : Workflow} (h : w.validate = .ok ()) :
    w.path ≠ ⟨pipelineFile⟩ := by
  intro heq
  have hnames := w.isPlain_path_of_validate h
  rw [heq] at hnames
  have hcomponents := hnames.components_eq.symm.trans Definition.isPlain_pipelineFile.components_eq
  simp [Workflow.pathNames] at hcomponents

/-! ## The written includes -/

/-- The rules that stand under an include: one for each expression, and no list without any. -/
def writtenRules (expressions : List String) : Option Tree :=
  if expressions = [] then none
  else some (.list (expressions.map fun expression => .map [("if", .str expression)]))

/-- A written include takes in the file of a workflow: it has the path of the file, and as rules
the expressions configured for the workflow's trigger, one by one and as they are. There is
nothing else in it. -/
structure Includes (o : Options) (w : Workflow) (written : Tree) : Prop where
  path : written.get? "local" = some (.str (fileOf o w).path.text)
  requests : w.trigger = .codeChangeRequest →
    written.get? "rules" = writtenRules o.rules.codeChangeRequest
  pushes : w.trigger = .push → written.get? "rules" = writtenRules o.rules.push
  others : ∀ key, key ≠ "local" → key ≠ "rules" → written.get? key = none

theorem get?_rules (path : String) (expressions : List String) :
    (Include.toTree ⟨path, expressions.map Rule.whenTrue⟩).get? "rules" =
      writtenRules expressions := by
  cases expressions with
  | nil => rfl
  | cons expression rest =>
      have hrules : rulesTree ((expression :: rest).map Rule.whenTrue) =
          .list ((expression :: rest).map fun expression => .map [("if", .str expression)]) :=
        congrArg Tree.list List.map_map
      rw [writtenRules, if_neg (List.cons_ne_nil _ _), ← hrules]
      rfl

theorem get?_toTree_of_ne (i : Include) {key : String} (hpath : key ≠ "local")
    (hrules : key ≠ "rules") : i.toTree.get? key = none := by
  refine List.lookup_eq_none_iff.2 fun e he => bne_iff_ne.2 ?_
  rcases List.mem_cons.1 he with rfl | he
  · exact hpath
  · rw [List.flatten_singleton, Tree.unlessEmpty] at he
    split at he
    · cases he
    · obtain rfl := List.mem_singleton.1 he
      exact hrules

/-- The includes are always written, whatever stands before and after them. -/
theorem get?_include (p : Pipeline) :
    p.toTree.get? "include" = some (.list (p.includes.map (·.toTree))) := by
  have hservices :
      (Tree.unlessEmpty "services" Tree.strings p.services).lookup "include" = none := by
    unfold Tree.unlessEmpty
    split <;> rfl
  have hscript :
      (Tree.unlessEmpty "before_script" Tree.strings p.beforeScript).lookup "include" = none := by
    unfold Tree.unlessEmpty
    split <;> rfl
  have hinclude : (Tree.field "include" (.list (p.includes.map (·.toTree)))).lookup "include" =
      some (.list (p.includes.map (·.toTree))) := rfl
  show List.lookup "include" (List.flatten _) = _
  simp only [List.flatten_cons, List.lookup_append, hservices, hscript, hinclude, Option.none_or,
    Option.some_or]

/-! ## Sections -/

theorem pipeline_eq_none {o : Options} {ws : List Workflow} (h : includes o ws = []) :
    pipeline o ws = none := by
  rw [pipeline, h]
  rfl

theorem exists_pipeline {o : Options} {ws : List Workflow} (h : includes o ws ≠ []) :
    ∃ p, pipeline o ws = some p ∧ p.includes = includes o ws := by
  have hsome : ¬ (includes o ws).isEmpty = true := fun he => h (List.isEmpty_iff.1 he)
  rw [pipeline, if_neg hsome]
  exact ⟨_, rfl, rfl⟩

/-- What is included for a workflow that passes its check takes in the workflow's file. -/
theorem includes_toTree {o : Options} {w : Workflow} (h : w.validate = .ok ()) :
    Includes o w (Include.toTree ⟨includePath w, o.rules.rulesFor w.trigger⟩) where
  path := congrArg (fun text => some (Tree.str text)) (includePath_eq h)
  requests htrigger := by
    rw [htrigger]
    exact get?_rules _ _
  pushes htrigger := by
    rw [htrigger]
    exact get?_rules _ _
  others _ hpath hrules := get?_toTree_of_ne _ hpath hrules

/-- The files of the section's workflows that have jobs. -/
def subFiles (s : Section Options) : List GeneratedFile :=
  ((s.described platform).filter fun w => !w.jobs.isEmpty).map (fileOf s.options)

/-- **The top-level file includes what is beside it.** If the files of a GitLab section can be
made, there is a file for each workflow that has jobs, that for code change requests first. If
there is none, there is no top-level file either. Otherwise the top-level file comes before them
all, and the list of includes that is written in it takes in one file after the other, each by its
path and under the expressions that are configured for its trigger. -/
theorem includes_match_files (s : Section Options) (files : List GeneratedFile)
    (h : (s.synthesize platform).value = .ok files) :
    (∀ f ∈ subFiles s, f.path ≠ ⟨".gitlab-ci.yml"⟩) ∧
    (subFiles s = [] → files = []) ∧
    (subFiles s ≠ [] →
      ∃ p written, pipeline s.options (s.described platform) = some p ∧
        files = ⟨⟨".gitlab-ci.yml"⟩, fileContent p.toTree⟩ :: subFiles s ∧
        p.toTree.get? "include" = some (.list written) ∧
        List.Forall₂ (Includes s.options)
          ((s.described platform).filter fun w => !w.jobs.isEmpty) written) := by
  rw [Section.synthesize_value] at h
  split at h
  · rename_i herr
    have hok : ∀ w ∈ (s.described platform).filter fun w => !w.jobs.isEmpty,
        w.validate = .ok () :=
      fun w hw => errorsOf_eq_nil_iff.1 herr w (List.mem_filter.1 hw).1
    -- includes and files are made of the same workflows
    have hempty : includes s.options (s.described platform) = [] ↔ subFiles s = [] := by
      rw [includes, subFiles, List.map_eq_nil_iff, List.map_eq_nil_iff]
      rfl
    have hfiles : files = (topFile? s.options (s.described platform)).toList ++ subFiles s :=
      (Except.ok.inj h).symm.trans (output_eq s)
    refine ⟨fun f hf => ?_, fun hnone => ?_, fun hsome => ?_⟩
    · obtain ⟨w, hw, rfl⟩ := List.mem_map.1 hf
      simp only [fileOf]
      exact path_ne_pipelineFile (hok w hw)
    · rw [hfiles, topFile?, pipeline_eq_none (hempty.2 hnone), hnone]
      rfl
    · obtain ⟨p, hp, hincludes⟩ := exists_pipeline fun he => hsome (hempty.1 he)
      refine ⟨p, _, hp, ?_, get?_include p, ?_⟩
      · rw [hfiles, topFile?, hp]
        rfl
      · rw [hincludes, includes, List.map_map, List.forall₂_map_right_iff]
        exact List.forall₂_same.2 fun w hw => includes_toTree (hok w hw)
  · cases h

/-- A section with jobs for both triggers, rules of its own, and blanks in the names of the
workflows. -/
def ownRules : Section Options where
  options := { Options.unset with
    codeChangeRequestWorkflowName := " Review  App"
    rules := { TriggerRules.unset with push := ["$CI_COMMIT_TAG", "$RELEASE == \"1\""] } }
  codeChangeRequestJobs := [.ofSteps "Test" [.ofCommands ["make test"]]]
  pushJobs := [.ofSteps "Release" [.ofCommands ["make release"]]]

theorem ownRules_included :
    ∃ files tree review release, (ownRules.synthesize platform).value = .ok files ∧
      files.map (·.path.text) = [".gitlab-ci.yml", ".gitlab/workflows/-review-app.yml",
        ".gitlab/workflows/push-to-main.yml"] ∧
      files = ⟨⟨".gitlab-ci.yml"⟩, fileContent tree⟩ :: subFiles ownRules ∧
      tree.get? "include" = some (.list [review, release]) ∧
      review.get? "local" = some (.str ".gitlab/workflows/-review-app.yml") ∧
      release.get? "local" = some (.str ".gitlab/workflows/push-to-main.yml") ∧
      release.get? "rules" = some (.list [.map [("if", .str "$CI_COMMIT_TAG")],
        .map [("if", .str "$RELEASE == \"1\"")]]) := by
  have herr : errorsOf (ownRules.described platform) = [] := by decide +kernel
  have h := (Section.synthesize_value platform ownRules).trans (if_pos herr)
  obtain ⟨-, -, hsome⟩ := includes_match_files ownRules _ h
  obtain ⟨p, written, hp, hfiles, hwritten, hall⟩ := hsome (List.cons_ne_nil _ _)
  cases hp
  obtain ⟨review, rest, hreview, hrest, rfl⟩ := List.forall₂_cons_left_iff.1 hall
  obtain ⟨release, last, hrelease, hlast, rfl⟩ := List.forall₂_cons_left_iff.1 hrest
  obtain rfl := List.forall₂_nil_left_iff.1 hlast
  have hpaths : (subFiles ownRules).map (·.path.text) =
      [".gitlab/workflows/-review-app.yml", ".gitlab/workflows/push-to-main.yml"] := by
    decide +kernel
  obtain ⟨hpath_review, hpath_release⟩ := List.cons.inj hpaths
  have hpath_release := (List.cons.inj hpath_release).1
  refine ⟨_, _, review, release, h, ?_, hfiles, hwritten, ?_, ?_, ?_⟩
  · rw [hfiles, List.map_cons, hpaths]
  · rw [hreview.path]
    exact congrArg (fun text => some (Tree.str text)) hpath_review
  · rw [hrelease.path]
    exact congrArg (fun text => some (Tree.str text)) hpath_release
  · exact hrelease.pushes rfl

end GitLab

end CiPipeline

import CiPipeline.Proofs.Agreement
import CiPipeline.Proofs.Splitting

set_option autoImplicit false

/-! # The steps of an entry

The entry for a job begins with the checkout, has one step for each step of the job in the same
order, and ends with at most one upload and one download for the job as a whole. The commands of
the job can be read back from the scripts, if no step is without commands and no command has more
than one line.
-/

namespace CiPipeline.GitHub

/-! ## Single steps -/

/-- The step runs the commands of a model step, under its name and with its variables. -/
structure Runs (m : CiPipeline.Step) (s : Step) : Prop where
  name_eq : s.name = m.name
  /-- All variables are there. -/
  env_eq : s.env.entries = m.environmentVariables.entries
  /-- Their names increase. -/
  env_sorted : s.env.keys.Pairwise (· < ·)
  /-- There is a line break between two commands, and nothing else. -/
  script_eq : s.script = some (String.intercalate "\n" m.commands)

/-- The step checks out the repository, with its whole history and its tags, and does nothing
else. -/
structure Step.ChecksOut (s : Step) : Prop where
  name_eq : s.name = some "Checkout Repository"
  action_eq : s.action = some "actions/checkout@v4"
  inputs_eq : s.inputs.entries = [("fetch-depth", .int 0), ("fetch-tags", .bool true)]
  env_eq : s.env.entries = []
  script_eq : s.script = none

/-- The step uploads these directories as a bundle. -/
structure Step.Keeps (s : Step) (bundle : String) (directories : List String) : Prop where
  action_eq : s.action = some uploadAction
  inputs_eq : s.inputs.entries =
    [("name", .str bundle), ("path", .str (String.intercalate "\n" directories))]

/-- The step either uses an action or runs a script, and has inputs only for an action. -/
structure Step.Proper (s : Step) : Prop where
  either : s.action = none ↔ s.script ≠ none
  inputs_of_action : s.inputs.entries ≠ [] → s.action ≠ none

namespace Compiler

theorem runs_scriptStep (m : CiPipeline.Step) : Runs m (scriptStep m) := by
  have hsorted : (m.environmentVariables.entries.map Prod.fst).Pairwise (· < ·) :=
    List.pairwise_map.2 m.environmentVariables.sorted
  have hnodup : (m.environmentVariables.entries.map Prod.fst).Nodup := by
    refine hsorted.imp ?_
    intro a b hlt heq
    rw [heq] at hlt
    exact String.lt_irrefl b hlt
  have henv : (scriptStep m).env.entries = m.environmentVariables.entries :=
    OrderedMap.entries_ofList hnodup
  refine ⟨rfl, henv, ?_, rfl⟩
  rw [OrderedMap.keys, henv]
  exact hsorted

theorem checksOut_checkoutStep : checkoutStep.ChecksOut := ⟨rfl, rfl, rfl, rfl, rfl⟩

theorem keeps_uploadStep (bundle : String) (directories : List String) :
    (uploadStep bundle directories).Keeps bundle directories := ⟨rfl, rfl⟩

theorem proper_of_action {s : Step} {action : String} (haction : s.action = some action)
    (hscript : s.script = none) : s.Proper where
  either := by
    rw [haction, hscript]
    exact iff_of_false (Option.some_ne_none _) (not_not_intro rfl)
  inputs_of_action := by
    intro _ hnone
    rw [haction] at hnone
    cases hnone

theorem proper_scriptStep (m : CiPipeline.Step) : (scriptStep m).Proper where
  either := iff_of_true rfl (Option.some_ne_none _)
  inputs_of_action := fun hinputs => absurd rfl hinputs

/-! ## All steps -/

/-- The steps of an entry are of four kinds. -/
theorem mem_steps {j : CiPipeline.Job} {s : Step} (h : s ∈ steps j) :
    s = checkoutStep ∨ (∃ m ∈ j.steps, s = scriptStep m) ∨
      s = uploadStep (Text.slugify j.name) j.artifactDirectories ∨
      s = downloadStep (slugs j.artifactDependencies) := by
  rw [steps, List.mem_append, List.mem_append, List.mem_append] at h
  rcases h with ((h | h) | h) | h
  · exact Or.inl (List.mem_singleton.1 h)
  · obtain ⟨m, hm, rfl⟩ := List.mem_map.1 h
    exact Or.inr (Or.inl ⟨m, hm, rfl⟩)
  · split at h
    · cases h
    · exact Or.inr (Or.inr (Or.inl (List.mem_singleton.1 h)))
  · split at h
    · cases h
    · exact Or.inr (Or.inr (Or.inr (List.mem_singleton.1 h)))

theorem proper_of_mem_steps {j : CiPipeline.Job} {s : Step} (h : s ∈ steps j) : s.Proper := by
  rcases mem_steps h with rfl | ⟨m, -, rfl⟩ | rfl | rfl
  · exact proper_of_action rfl rfl
  · exact proper_scriptStep m
  · exact proper_of_action rfl rfl
  · exact proper_of_action (action_downloadStep _) (script_downloadStep _)

end Compiler

/-- Some step of the job asks for the artifacts of another job. -/
def FetchesArtifacts (j : CiPipeline.Job) : Prop := ∃ m ∈ j.steps, m.artifactDependencies ≠ []

instance (j : CiPipeline.Job) : Decidable (FetchesArtifacts j) :=
  inferInstanceAs (Decidable (∃ m ∈ j.steps, _))

theorem slugs_artifactDependencies_isEmpty_iff {j : CiPipeline.Job} :
    (Compiler.slugs j.artifactDependencies).isEmpty = true ↔ ¬ FetchesArtifacts j := by
  rw [List.isEmpty_iff, List.eq_nil_iff_forall_not_mem]
  simp only [Compiler.mem_slugs, CiPipeline.Job.artifactDependencies, List.mem_eraseDups,
    List.mem_flatMap, List.mem_map]
  constructor
  · rintro h ⟨m, hm, hne⟩
    obtain ⟨dep, hdep⟩ := List.exists_mem_of_ne_nil _ hne
    exact h _ ⟨dep.jobName, ⟨m, hm, dep, hdep, rfl⟩, rfl⟩
  · rintro h bundle ⟨name, ⟨m, hm, dep, hdep, -⟩, -⟩
    exact h ⟨m, hm, List.ne_nil_of_mem hdep⟩

/-- What the steps in the entry for a job are for. -/
structure Laid (j : CiPipeline.Job) (checkout : Step) (scripts uploads downloads : List Step) :
    Prop where
  checkout : checkout.ChecksOut
  /-- One script for each step, in the same order. -/
  scripts : List.Forall₂ Runs j.steps scripts
  /-- One upload of all directories if some step declares one, and no upload otherwise. -/
  uploads : (LeavesArtifacts j ∧ ∃ u directories, uploads = [u] ∧
      u.Keeps (Text.slugify j.name) directories ∧
      FirstAppearances (j.steps.flatMap (·.artifactDirectories)) directories) ∨
    (¬ LeavesArtifacts j ∧ uploads = [])
  /-- One download of all bundles if some step asks for artifacts, and no download otherwise. -/
  downloads : (FetchesArtifacts j ∧ ∃ d, downloads = [d] ∧
      d.Fetches (Compiler.slugs j.artifactDependencies)) ∨
    (¬ FetchesArtifacts j ∧ downloads = [])

theorem laid_steps (j : CiPipeline.Job) :
    ∃ checkout scripts uploads downloads,
      Compiler.steps j = checkout :: (scripts ++ uploads ++ downloads) ∧
      Laid j checkout scripts uploads downloads := by
  refine ⟨Compiler.checkoutStep, j.steps.map Compiler.scriptStep, _, _, rfl,
    Compiler.checksOut_checkoutStep, ?_, ?_, ?_⟩
  · exact List.forall₂_map_right_iff.2 (List.forall₂_same.2 fun m _ => Compiler.runs_scriptStep m)
  · split
    · rename_i hnone
      exact Or.inr ⟨artifactDirectories_isEmpty_iff.1 hnone, rfl⟩
    · rename_i hsome
      refine Or.inl ⟨not_not.1 (mt artifactDirectories_isEmpty_iff.2 hsome), _, _, rfl,
        Compiler.keeps_uploadStep _ _, ?_⟩
      exact firstAppearances_eraseDups _
  · split
    · rename_i hnone
      exact Or.inr ⟨slugs_artifactDependencies_isEmpty_iff.1 hnone, rfl⟩
    · rename_i hsome
      refine Or.inl ⟨not_not.1 (mt slugs_artifactDependencies_isEmpty_iff.2 hsome), _, rfl, ?_⟩
      exact Compiler.fetches_downloadStep fun hnil => hsome (List.isEmpty_iff.2 hnil)

/-! ## Commands -/

/-- The commands can be told from a script: there are some, and each has one line. -/
def OneLiners (m : CiPipeline.Step) : Prop :=
  m.commands ≠ [] ∧ ∀ command ∈ m.commands, '\n' ∉ command.toList

instance (m : CiPipeline.Step) : Decidable (OneLiners m) :=
  inferInstanceAs (Decidable (_ ∧ ∀ command ∈ m.commands, _))

theorem splitAt_intercalate_commands {m : CiPipeline.Step} (h : OneLiners m) :
    Text.splitAt '\n' (String.intercalate "\n" m.commands) = m.commands := by
  have hbreak : "\n" = String.singleton '\n' := rfl
  rw [hbreak, Text.splitAt_intercalate '\n' h.1]
  exact Text.flatMap_splitAt_eq_iff.2 h.2

/-- **The steps of an entry**, whatever the settings of the compiler. There is the checkout, of
the whole history with its tags; one script for each step of the job; one upload of its
directories, each once and in the order of their first appearance; and one download. Every step
either uses an action or runs a script, and only actions have inputs. The commands of every step
can be read off its script, if there are some and each has one line. -/
theorem entry_steps (c : Compiler) (j : CiPipeline.Job) :
    (∃ checkout scripts uploads downloads,
      (c.job j).steps = checkout :: (scripts ++ uploads ++ downloads) ∧
      Laid j checkout scripts uploads downloads) ∧
    (∀ s ∈ (c.job j).steps, s.Proper) ∧
    ((∀ m ∈ j.steps, OneLiners m) →
      (c.job j).scripts.map (Text.splitAt '\n') = j.steps.map (·.commands)) := by
  refine ⟨laid_steps j, fun s hs => Compiler.proper_of_mem_steps hs, fun hlines => ?_⟩
  rw [Compiler.scripts_job, List.map_map]
  exact List.map_congr_left fun m hm => splitAt_intercalate_commands (hlines m hm)

/-- A job with two steps that share a directory, one of which has variables. -/
def packaging : CiPipeline.Job :=
  .ofSteps "Package" [
    (CiPipeline.Step.ofCommands ["make", "make install"]).withArtifactDirectory "dist/"
      |>.withArtifactDirectory "docs/" |>.withName "Make" |>.withVariable "PREFIX" "/usr"
      |>.withVariable "CC" "cc",
    (CiPipeline.Step.ofCommands ["./sign.sh"]).withArtifactDirectory "sig/"
      |>.withArtifactDirectory "dist/" |>.withArtifactDependency "Keys"]

theorem packaging_entry :
    (∀ m ∈ packaging.steps, OneLiners m) ∧
    (∃ checkout first second u d directories,
      ((Compiler.ofOptions .unset).job packaging).steps = [checkout, first, second, u, d] ∧
      checkout.ChecksOut ∧ first.env.entries = [("CC", "cc"), ("PREFIX", "/usr")] ∧
      u.Keeps "package" directories ∧
      FirstAppearances ["dist/", "docs/", "sig/", "dist/"] directories ∧ d.Fetches ["keys"]) ∧
    ((Compiler.ofOptions .unset).job packaging).scripts.map (Text.splitAt '\n') =
      [["make", "make install"], ["./sign.sh"]] := by
  have hlines : ∀ m ∈ packaging.steps, OneLiners m := by decide +kernel
  obtain ⟨⟨checkout, scripts, uploads, downloads, hsteps, hlaid⟩, -, hsplit⟩ :=
    entry_steps (.ofOptions .unset) packaging
  obtain ⟨first, second, rfl⟩ := List.length_eq_two.1 hlaid.scripts.length_eq.symm
  obtain ⟨-, u, directories, rfl, hkeeps, hfirst⟩ :=
    hlaid.uploads.resolve_right fun h => h.1 (by decide +kernel)
  obtain ⟨-, d, rfl, hfetches⟩ := hlaid.downloads.resolve_right fun h => h.1 (by decide +kernel)
  have hruns : Runs packaging.steps[0] first := (List.forall₂_cons.1 hlaid.scripts).1
  have henv : packaging.steps[0].environmentVariables.entries =
      [("CC", "cc"), ("PREFIX", "/usr")] := by decide +kernel
  have hslug : Text.slugify packaging.name = "package" := by decide +kernel
  have hbundles : Compiler.slugs packaging.artifactDependencies = ["keys"] := by decide +kernel
  rw [hslug] at hkeeps
  rw [hbundles] at hfetches
  exact ⟨hlines, ⟨checkout, first, second, u, d, directories, hsteps, hlaid.checkout,
    hruns.env_eq.trans henv, hkeeps, hfirst, hfetches⟩, hsplit hlines⟩

end CiPipeline.GitHub

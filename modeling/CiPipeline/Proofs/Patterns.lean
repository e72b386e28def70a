import CiPipeline.Proofs.Agreement
import CiPipeline.Proofs.Slug
import CiPipeline.Proofs.Splitting

set_option autoImplicit false

/-! # What a download step names

The bundles that a job fetches are written into one input of a step: a single bundle as its name,
several with commas between them as a pattern. A name can be read off as it is. A pattern can only
be split at its commas, and these may be commas of the bundles themselves. So the step determines
the pieces of the bundles (`download_step_names_pieces`), and the bundles if no name of a job has
a comma.
-/

namespace CiPipeline.GitHub

/-! ## Reading a step -/

/-- What stands between the first and the last character of a pattern. -/
def body (pattern : String) : String := String.ofList (pattern.toList.drop 1).dropLast

/-- The bundles that a step names: the one under `name`, or those between the commas of the
pattern. -/
def Step.named (s : Step) : List String :=
  match s.inputs.get? "name", s.inputs.get? "pattern" with
  | some (.str bundle), _ => [bundle]
  | none, some (.str pattern) => Text.splitAt ',' (body pattern)
  | _, _ => []

/-- What is left of some bundles in the step that fetches them. -/
def pieces (bundles : List String) : List String :=
  if bundles.length = 1 then bundles else bundles.flatMap (Text.splitAt ',')

variable {s : Step} {bundles bundles' : List String}

theorem body_braces (inner : String) : body ("\x7b" ++ inner ++ "\x7d") = inner := by
  have hlist : ("\x7b" ++ inner ++ "\x7d").toList = '\x7b' :: (inner.toList ++ ['\x7d']) := by
    simp
  rw [body, hlist, List.drop_succ_cons, List.drop_zero, List.dropLast_concat,
    String.ofList_toList]

/-- The two ways in which bundles are fetched, by what can be looked up. -/
theorem Step.Fetches.single_or_several (h : s.Fetches bundles) :
    (∃ b, bundles = [b] ∧ s.inputs.get? "name" = some (.str b)) ∨
    (bundles ≠ [] ∧ bundles.length ≠ 1 ∧ s.inputs.get? "name" = none ∧
      s.inputs.get? "pattern" =
        some (.str ("\x7b" ++ String.intercalate "," bundles ++ "\x7d"))) := by
  obtain ⟨-, hinputs⟩ := h
  cases bundles with
  | nil => cases hinputs
  | cons b rest =>
      cases rest with
      | nil =>
          have hentries : s.inputs.entries = [("name", .str b)] := hinputs
          refine Or.inl ⟨b, rfl, ?_⟩
          rw [OrderedMap.get?, hentries]
          rfl
      | cons b' rest =>
          have hentries : s.inputs.entries = [
              ("pattern", .str ("\x7b" ++ String.intercalate "," (b :: b' :: rest) ++ "\x7d")),
              ("merge-multiple", .bool true)] := hinputs
          rw [OrderedMap.get?, OrderedMap.get?, hentries]
          exact Or.inr ⟨List.cons_ne_nil _ _, by simp, rfl, rfl⟩

/-- **A step that fetches bundles** names their pieces. -/
theorem Step.Fetches.named_eq (h : s.Fetches bundles) : s.named = pieces bundles := by
  rcases h.single_or_several with ⟨b, rfl, hname⟩ | ⟨hne, hseveral, hname, hpattern⟩
  · rw [named, hname]
    rfl
  · have hcomma : "," = String.singleton ',' := rfl
    rw [named, hname, hpattern, pieces, if_neg hseveral]
    simp only [body_braces]
    rw [hcomma, Text.splitAt_intercalate ',' hne]

/-- It has a name among its inputs iff it fetches a single bundle. -/
theorem Step.Fetches.length_eq_one_iff (h : s.Fetches bundles) :
    bundles.length = 1 ↔ (s.inputs.get? "name").isSome = true := by
  rcases h.single_or_several with ⟨b, rfl, hname⟩ | ⟨-, hseveral, hname, -⟩
  · rw [hname]
    exact iff_of_true rfl rfl
  · rw [hname]
    exact iff_of_false hseveral Bool.false_ne_true

theorem pieces_eq_nil_iff : pieces bundles = [] ↔ bundles = [] := by
  rw [pieces]
  split
  · exact Iff.rfl
  · rw [List.flatMap_eq_nil_iff, List.eq_nil_iff_forall_not_mem]
    exact forall₂_congr fun b _ => iff_of_false (Text.splitAt_ne_nil ',' b) not_false

/-- A list of bundles is its own list of pieces iff it is a single one or none has a comma. -/
theorem pieces_eq_iff :
    pieces bundles = bundles ↔ bundles.length = 1 ∨ ∀ b ∈ bundles, ',' ∉ b.toList := by
  rw [pieces]
  split
  · rename_i hone
    exact iff_of_true rfl (Or.inl hone)
  · rename_i hone
    rw [or_iff_right hone]
    exact Text.flatMap_splitAt_eq_iff

/-! ## Equal steps -/

namespace Compiler

theorem downloadStep_of_length_ne_one (h : bundles.length ≠ 1) :
    downloadStep bundles =
      (((Step.uses downloadAction).withName "Download Artifacts").withInput "pattern"
        (.str ("\x7b" ++ String.intercalate "," bundles ++ "\x7d"))).withInput
          "merge-multiple" (.bool true) := by
  cases bundles with
  | nil => rfl
  | cons b rest =>
      cases rest with
      | nil => exact absurd rfl h
      | cons b' rest => rfl

/-- **Equal steps** are made for single bundles iff these are equal, and for several bundles iff
they have the same pieces. -/
theorem downloadStep_eq_iff (h : bundles ≠ []) (h' : bundles' ≠ []) :
    downloadStep bundles = downloadStep bundles' ↔
      (bundles.length = 1 ↔ bundles'.length = 1) ∧ pieces bundles = pieces bundles' := by
  have hfetches := fetches_downloadStep h
  have hfetches' := fetches_downloadStep h'
  constructor
  · intro heq
    -- one step for both lists: all that can be read off it is the same
    rw [heq] at hfetches
    refine ⟨hfetches.length_eq_one_iff.trans hfetches'.length_eq_one_iff.symm, ?_⟩
    rw [← hfetches.named_eq, hfetches'.named_eq]
  · rintro ⟨hone, hpieces⟩
    rw [pieces, pieces] at hpieces
    by_cases hsingle : bundles.length = 1
    · rw [if_pos hsingle, if_pos (hone.1 hsingle)] at hpieces
      rw [hpieces]
    · have hseveral : ¬ bundles'.length = 1 := fun hsingle' => hsingle (hone.2 hsingle')
      rw [if_neg hsingle, if_neg hseveral] at hpieces
      -- the pattern is the same whether bundles or their pieces are joined
      have hcomma : "," = String.singleton ',' := rfl
      have hpattern : String.intercalate "," bundles = String.intercalate "," bundles' := by
        rw [hcomma, ← Text.intercalate_flatMap_splitAt, hpieces, Text.intercalate_flatMap_splitAt]
      rw [downloadStep_of_length_ne_one hsingle, downloadStep_of_length_ne_one hseveral, hpattern]

end Compiler

/-! ## Jobs -/

/-- The bundles for some names can be told from a step: there is a single one, or no name has a
comma. -/
def Legible (names : List String) : Prop :=
  (Compiler.slugs names).length = 1 ∨ ∀ name ∈ names, ',' ∉ name.toList

instance (names : List String) : Decidable (Legible names) :=
  inferInstanceAs (Decidable (_ ∨ ∀ name ∈ names, _))

theorem pieces_slugs_eq_iff {names : List String} :
    pieces (Compiler.slugs names) = Compiler.slugs names ↔ Legible names := by
  rw [pieces_eq_iff, Legible]
  refine or_congr_right ?_
  constructor
  · intro h name hname hcomma
    exact h _ (Compiler.mem_slugs.2 ⟨name, hname, rfl⟩) (Text.comma_mem_slugify.2 hcomma)
  · intro h bundle hbundle hcomma
    obtain ⟨name, hname, rfl⟩ := Compiler.mem_slugs.1 hbundle
    exact h name hname (Text.comma_mem_slugify.1 hcomma)

/-- Two jobs have the same download step, or none, iff the step leaves the same of their
bundles. -/
theorem stepsUsing_downloadAction_eq_iff (c c' : Compiler) (j k : CiPipeline.Job) :
    (c.job j).stepsUsing downloadAction = (c'.job k).stepsUsing downloadAction ↔
      ((Compiler.slugs j.artifactDependencies).length = 1 ↔
        (Compiler.slugs k.artifactDependencies).length = 1) ∧
      pieces (Compiler.slugs j.artifactDependencies) =
        pieces (Compiler.slugs k.artifactDependencies) := by
  rw [stepsUsing_downloadAction, stepsUsing_downloadAction]
  generalize Compiler.slugs j.artifactDependencies = bundles
  generalize Compiler.slugs k.artifactDependencies = bundles'
  cases bundles with
  | nil =>
      cases bundles' with
      | nil => exact iff_of_true rfl ⟨Iff.rfl, rfl⟩
      | cons b' rest' =>
          have hpieces : pieces (b' :: rest') ≠ [] := mt pieces_eq_nil_iff.1 (List.cons_ne_nil _ _)
          exact iff_of_false (List.cons_ne_nil _ _).symm fun h => hpieces h.2.symm
  | cons b rest =>
      cases bundles' with
      | nil =>
          have hpieces : pieces (b :: rest) ≠ [] := mt pieces_eq_nil_iff.1 (List.cons_ne_nil _ _)
          exact iff_of_false (List.cons_ne_nil _ _) fun h => hpieces h.2
      | cons b' rest' =>
          rw [← Compiler.downloadStep_eq_iff (List.cons_ne_nil _ _) (List.cons_ne_nil _ _)]
          exact List.singleton_inj

/-- **What a download step tells**: the pieces of the bundles, whatever the settings of the
compilers. The bundles themselves can be read off it iff there is a single one, or no job that is
named has a comma in its name. -/
theorem download_step_names_pieces (c c' : Compiler) (j k : CiPipeline.Job) :
    (∀ s ∈ (c.job j).stepsUsing downloadAction,
      s.named = pieces (Compiler.slugs j.artifactDependencies) ∧
      (s.named = Compiler.slugs j.artifactDependencies ↔ Legible j.artifactDependencies)) ∧
    ((c.job j).stepsUsing downloadAction = (c'.job k).stepsUsing downloadAction ↔
      ((Compiler.slugs j.artifactDependencies).length = 1 ↔
        (Compiler.slugs k.artifactDependencies).length = 1) ∧
      pieces (Compiler.slugs j.artifactDependencies) =
        pieces (Compiler.slugs k.artifactDependencies)) ∧
    (Legible j.artifactDependencies → Legible k.artifactDependencies →
      (c.job j).stepsUsing downloadAction = (c'.job k).stepsUsing downloadAction →
      Compiler.slugs j.artifactDependencies = Compiler.slugs k.artifactDependencies) := by
  have heq := stepsUsing_downloadAction_eq_iff c c' j k
  refine ⟨fun s hs => ?_, heq, fun hj hk hsteps => ?_⟩
  · have hfetches := Compiler.fetches_of_action (List.mem_filter.1 hs).1
      (of_decide_eq_true (List.mem_filter.1 hs).2)
    rw [hfetches.named_eq]
    exact ⟨rfl, pieces_slugs_eq_iff⟩
  · rw [← pieces_slugs_eq_iff.2 hj, ← pieces_slugs_eq_iff.2 hk]
    exact (heq.1 hsteps).2

/-- A job that fetches from two others. -/
def fetchingTwo (name first second : String) : CiPipeline.Job :=
  .ofSteps name [(CiPipeline.Step.ofCommands ["./run.sh"]).withArtifactDependency first
    |>.withArtifactDependency second]

theorem fetchingTwo_told :
    Legible (fetchingTwo "Publish" "Unit Tests" "Lint").artifactDependencies ∧
    Legible (fetchingTwo "Deploy" "unit tests" "LINT").artifactDependencies ∧
    Compiler.slugs (fetchingTwo "Publish" "Unit Tests" "Lint").artifactDependencies =
      Compiler.slugs (fetchingTwo "Deploy" "unit tests" "LINT").artifactDependencies := by
  have hj : Legible (fetchingTwo "Publish" "Unit Tests" "Lint").artifactDependencies := by
    decide +kernel
  have hk : Legible (fetchingTwo "Deploy" "unit tests" "LINT").artifactDependencies := by
    decide +kernel
  obtain ⟨-, hsteps, htold⟩ := download_step_names_pieces (.ofOptions .unset) ⟨"linux", ["main"]⟩
    (fetchingTwo "Publish" "Unit Tests" "Lint") (fetchingTwo "Deploy" "unit tests" "LINT")
  exact ⟨hj, hk, htold hj hk (hsteps.2 (by decide +kernel))⟩

/-- Commas make two lists of bundles look the same. The step for both names three bundles, none
of which is the one with the comma. -/
theorem commas_confuse_bundles :
    ((Compiler.ofOptions .unset).job (fetchingTwo "Publish" "a,b" "c")).stepsUsing
        downloadAction =
      ((Compiler.ofOptions .unset).job (fetchingTwo "Deploy" "a" "b,c")).stepsUsing
        downloadAction ∧
    Compiler.slugs (fetchingTwo "Publish" "a,b" "c").artifactDependencies = ["a,b", "c"] ∧
    Compiler.slugs (fetchingTwo "Deploy" "a" "b,c").artifactDependencies = ["a", "b,c"] ∧
    ∃ s, ((Compiler.ofOptions .unset).job (fetchingTwo "Publish" "a,b" "c")).stepsUsing
        downloadAction = [s] ∧ s.named = ["a", "b", "c"] := by
  refine ⟨?_, by decide +kernel, by decide +kernel, ?_⟩
  · rw [stepsUsing_downloadAction_eq_iff]
    decide +kernel
  · rw [stepsUsing_downloadAction, if_neg (by decide +kernel)]
    exact ⟨_, rfl, by decide +kernel⟩

end CiPipeline.GitHub

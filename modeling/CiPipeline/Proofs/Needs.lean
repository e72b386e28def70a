import CiPipeline.GitHub.Backend
import CiPipeline.Proofs.Bindings
import CiPipeline.Proofs.Synthesis
import Mathlib.Logic.Equiv.Basic

set_option autoImplicit false

/-! # The needs of GitHub jobs

A GitHub document refers to jobs by the slugs of their names, and of jobs with one slug only
the last is in it. If the slugs are distinct, nothing is lost: taking slugs is an isomorphism
from the dependencies between the names onto the needs between the keys. Otherwise a need can
refer to another job than the one depended on, namely to the one that has replaced it. There can
be cycles of needs then, and all of them come from such references.
-/

namespace CiPipeline.GitHub

open Relation

variable {js : List CiPipeline.Job}

/-! ## Kept jobs -/

/-- The job that is kept of those whose names have the slug `key`: the last one. -/
def keptUnder (js : List CiPipeline.Job) (key : String) : Option CiPipeline.Job :=
  js.reverse.find? fun j => Text.slugify j.name == key

/-- A job after this one has the same slug, and takes its place. -/
def ReplacedIn (js : List CiPipeline.Job) (j : CiPipeline.Job) : Prop :=
  ∃ k ∈ js, [j, k].Sublist js ∧ Text.slugify k.name = Text.slugify j.name

instance (js : List CiPipeline.Job) (j : CiPipeline.Job) : Decidable (ReplacedIn js j) :=
  inferInstanceAs (Decidable (∃ k ∈ js, _))

theorem of_keptUnder {key : String} {j : CiPipeline.Job} (h : keptUnder js key = some j) :
    j ∈ js ∧ Text.slugify j.name = key := by
  rw [keptUnder] at h
  have hslug := List.find?_some h
  exact ⟨List.mem_reverse.1 (List.mem_of_find?_eq_some h), beq_iff_eq.1 hslug⟩

theorem exists_keptUnder {j : CiPipeline.Job} (hj : j ∈ js) :
    ∃ k, keptUnder js (Text.slugify j.name) = some k := by
  refine Option.isSome_iff_exists.1 (List.find?_isSome.2 ⟨j, List.mem_reverse.2 hj, ?_⟩)
  exact beq_self_eq_true _

/-- A job that is not kept has been replaced. -/
theorem replacedIn_of_ne {j k : CiPipeline.Job} (hj : j ∈ js)
    (hk : keptUnder js (Text.slugify j.name) = some k) (hne : j ≠ k) : ReplacedIn js j := by
  obtain ⟨hkjs, hslug⟩ := of_keptUnder hk
  obtain ⟨-, before, after, hsplit, hafter⟩ := find?_reverse_eq_some_iff.1 hk
  -- behind the kept job the slug does not come again, so the other one stands before it
  have hbefore : j ∈ before := by
    rw [hsplit, List.mem_append, List.mem_cons] at hj
    rcases hj with hj | rfl | hj
    · exact hj
    · exact absurd rfl hne
    · have := hafter j hj
      simp at this
  refine ⟨k, hkjs, ?_, hslug⟩
  rw [hsplit]
  exact (List.singleton_sublist.2 hbefore).append (List.singleton_sublist.2 List.mem_cons_self)

theorem not_replacedIn_of_nodup (hslugs : (js.map fun j => Text.slugify j.name).Nodup)
    (j : CiPipeline.Job) : ¬ ReplacedIn js j := by
  rintro ⟨k, -, hsub, hslug⟩
  have hpair := hslugs.sublist (hsub.map fun j : CiPipeline.Job => Text.slugify j.name)
  simp [hslug] at hpair

theorem keptUnder_slugify (hslugs : (js.map fun j => Text.slugify j.name).Nodup)
    {j : CiPipeline.Job} (hj : j ∈ js) : keptUnder js (Text.slugify j.name) = some j := by
  obtain ⟨k, hk⟩ := exists_keptUnder hj
  have heq : j = k := by
    by_contra hne
    exact not_replacedIn_of_nodup hslugs j (replacedIn_of_ne hj hk hne)
  rw [hk, heq]

/-! ## Entries of the document -/

/-- The entry under `k` needs that under `l`. -/
def Needs (jobs : OrderedMap Job) (k l : String) : Prop := ∃ job ∈ jobs.get? k, l ∈ job.needs

instance (jobs : OrderedMap Job) (k l : String) : Decidable (Needs jobs k l) :=
  inferInstanceAs (Decidable (∃ job ∈ jobs.get? k, l ∈ job.needs))

namespace Compiler

theorem nodup_slugs (names : List String) : (slugs names).Nodup := nodup_eraseDups _

theorem mem_slugs {names : List String} {s : String} :
    s ∈ slugs names ↔ ∃ name ∈ names, Text.slugify name = s := by
  rw [slugs, List.mem_eraseDups, List.mem_map]

theorem get?_jobs (c : Compiler) (js : List CiPipeline.Job) (key : String) :
    (c.jobs js).get? key = (keptUnder js key).map c.job := by
  rw [jobs, OrderedMap.get?_ofList_map (fun j : CiPipeline.Job => Text.slugify j.name) c.job]
  rfl

theorem mem_keys_jobs {c : Compiler} {key : String} :
    key ∈ (c.jobs js).keys ↔ ∃ j ∈ js, Text.slugify j.name = key := by
  rw [jobs, OrderedMap.keys_ofList_map (fun j : CiPipeline.Job => Text.slugify j.name) c.job,
    List.mem_eraseDups, List.mem_map]

/-- Every entry is that of the job kept under its key. -/
theorem exists_keptUnder_of_mem_entries {c : Compiler} {e : String × Job}
    (he : e ∈ (c.jobs js).entries) : ∃ j, keptUnder js e.1 = some j ∧ c.job j = e.2 := by
  rw [← Option.map_eq_some_iff, ← get?_jobs]
  exact (OrderedMap.mem_entries_iff _ e.1 e.2).1 he

/-- With distinct slugs there is one entry for each job. -/
theorem entries_jobs (c : Compiler) (hslugs : (js.map fun j => Text.slugify j.name).Nodup) :
    (c.jobs js).entries = js.map fun j => (Text.slugify j.name, c.job j) :=
  OrderedMap.entries_ofList_map (fun j : CiPipeline.Job => Text.slugify j.name) c.job hslugs

theorem needs_jobs_iff {c : Compiler} {k l : String} :
    Needs (c.jobs js) k l ↔
      ∃ j, keptUnder js k = some j ∧ ∃ name ∈ j.dependencyNames, Text.slugify name = l := by
  rw [Needs, get?_jobs]
  simp only [Option.mem_def, Option.map_eq_some_iff, exists_exists_and_eq_and]
  exact exists_congr fun j => and_congr_right fun _ => mem_slugs

theorem compile_value_eq_some_iff {c : Compiler} {w : Workflow} {d : Document} :
    (c.compile w).value = some d ↔ w.jobs ≠ [] ∧ c.document w = d := by
  rw [compile_value, Workflow.hasJobs]
  by_cases h : w.jobs = []
  · simp [h]
  · simp [h]

theorem compile_value_eq_none_iff {c : Compiler} {w : Workflow} :
    (c.compile w).value = none ↔ w.jobs = [] := by
  rw [Option.eq_none_iff_forall_ne_some]
  simp only [ne_eq, compile_value_eq_some_iff, not_and]
  exact ⟨fun h => by_contra fun hne => h _ hne rfl, fun h _ hne => absurd h hne⟩

theorem jobs_of_compile {c : Compiler} {w : Workflow} {d : Document}
    (h : (c.compile w).value = some d) : d.jobs = c.jobs w.jobs := by
  obtain ⟨-, rfl⟩ := compile_value_eq_some_iff.1 h
  rfl

end Compiler

variable {workflow : String} {c : Compiler}

/-- All that is needed is in the document. -/
theorem mem_keys_of_needs (h : Sound workflow js) {k l : String} (hneeds : Needs (c.jobs js) k l) :
    l ∈ (c.jobs js).keys := by
  obtain ⟨j, hj, name, hname, rfl⟩ := Compiler.needs_jobs_iff.1 hneeds
  obtain ⟨i, hi, rfl⟩ := mem_jobNames.1 (h.mem_jobNames (of_keptUnder hj).1 hname)
  exact Compiler.mem_keys_jobs.2 ⟨i, hi, rfl⟩

/-! ## Distinct slugs -/

theorem slugify_injOn (hslugs : (js.map fun j => Text.slugify j.name).Nodup) {a b : String}
    (ha : a ∈ jobNames js) (hb : b ∈ jobNames js) (h : Text.slugify a = Text.slugify b) :
    a = b := by
  obtain ⟨i, hi, rfl⟩ := mem_jobNames.1 ha
  obtain ⟨j, hj, rfl⟩ := mem_jobNames.1 hb
  exact congrArg CiPipeline.Job.name (List.inj_on_of_nodup_map hslugs hi hj h)

/-- No name is lost among the slugs of the names that a job depends on. -/
theorem slugs_dependencyNames (h : Sound workflow js)
    (hslugs : (js.map fun j => Text.slugify j.name).Nodup) {j : CiPipeline.Job} (hj : j ∈ js) :
    Compiler.slugs j.dependencyNames = j.dependencyNames.map Text.slugify := by
  have hnodup : j.dependencyNames.Nodup := nodup_eraseDups _
  rw [Compiler.slugs, eraseDups_of_nodup]
  refine hnodup.map_on fun a ha b hb hab => ?_
  exact slugify_injOn hslugs (h.mem_jobNames hj ha) (h.mem_jobNames hj hb) hab

/-- The entries are what is registered, with slugs for names. -/
theorem map_entries_jobs (h : Sound workflow js)
    (hslugs : (js.map fun j => Text.slugify j.name).Nodup) :
    (c.jobs js).entries.map (fun e => (e.1, e.2.name, e.2.needs)) =
      js.map fun j => (Text.slugify j.name, j.name, j.dependencyNames.map Text.slugify) := by
  rw [c.entries_jobs hslugs, List.map_map]
  refine List.map_congr_left fun j hj => ?_
  simp only [Function.comp_apply, Compiler.job, slugs_dependencyNames h hslugs hj]

theorem needs_slugify_iff (h : Sound workflow js)
    (hslugs : (js.map fun j => Text.slugify j.name).Nodup) {a b : String}
    (ha : a ∈ jobNames js) (hb : b ∈ jobNames js) :
    Needs (c.jobs js) (Text.slugify a) (Text.slugify b) ↔ DependsOn js a b := by
  obtain ⟨j, hj, rfl⟩ := mem_jobNames.1 ha
  rw [Compiler.needs_jobs_iff, keptUnder_slugify hslugs hj]
  constructor
  · rintro ⟨i, hi, name, hname, heq⟩
    cases hi
    have hsame := slugify_injOn hslugs (h.mem_jobNames hj hname) hb heq
    exact ⟨⟨j, hj, rfl, hsame ▸ hname⟩, mem_jobNames.1 hb⟩
  · rintro ⟨⟨i, hi, hij, hdep⟩, -⟩
    cases CiPipeline.Job.eq_of_name_eq h.distinct hi hj hij
    exact ⟨j, rfl, b, hdep, rfl⟩

/-- Taking slugs is one-to-one from the names onto the keys. -/
theorem bijective_slugify (hslugs : (js.map fun j => Text.slugify j.name).Nodup) :
    ∃ f : {a // a ∈ jobNames js} ≃ {k // k ∈ (c.jobs js).keys},
      ∀ a, (f a).1 = Text.slugify a.1 := by
  have hkey : ∀ a ∈ jobNames js, Text.slugify a ∈ (c.jobs js).keys := by
    intro a ha
    obtain ⟨j, hj, rfl⟩ := mem_jobNames.1 ha
    exact Compiler.mem_keys_jobs.2 ⟨j, hj, rfl⟩
  let f : {a // a ∈ jobNames js} → {k // k ∈ (c.jobs js).keys} := fun a =>
    ⟨Text.slugify a.1, hkey a.1 a.2⟩
  have hinj : Function.Injective f := fun a b hab =>
    Subtype.ext (slugify_injOn hslugs a.2 b.2 (congrArg Subtype.val hab))
  have hsurj : Function.Surjective f := by
    rintro ⟨k, hk⟩
    obtain ⟨j, hj, rfl⟩ := Compiler.mem_keys_jobs.1 hk
    exact ⟨⟨j.name, mem_jobNames.2 ⟨j, hj, rfl⟩⟩, rfl⟩
  exact ⟨Equiv.ofBijective f ⟨hinj, hsurj⟩, fun _ => rfl⟩

/-- **The needs are the dependencies.** If the names of the jobs have distinct slugs, the document
has one entry for each job, in the order of registration, under the slug of its name and with
its name; the entry needs the slugs of all names that the job depends on, in their order. So
taking slugs is an isomorphism from the dependencies onto the needs. -/
theorem needs_isomorphic_to_dependencies (c : Compiler) (w : Workflow)
    (hok : w.validate = .ok ()) (hslugs : (w.jobs.map fun j => Text.slugify j.name).Nodup) :
    ((c.compile w).value = none ↔ w.jobs = []) ∧
    ∀ d, (c.compile w).value = some d →
      d.jobs.entries.map (fun e => (e.1, e.2.name, e.2.needs)) =
        w.jobs.map (fun j => (Text.slugify j.name, j.name, j.dependencyNames.map Text.slugify)) ∧
      (∀ k l, Needs d.jobs k l → k ∈ d.jobs.keys ∧ l ∈ d.jobs.keys) ∧
      ∃ f : {a // a ∈ jobNames w.jobs} ≃ {k // k ∈ d.jobs.keys},
        (∀ a, (f a).1 = Text.slugify a.1) ∧
        ∀ a b, DependsOn w.jobs a.1 b.1 ↔ Needs d.jobs (f a).1 (f b).1 := by
  have hsound := w.sound_of_validate hok
  refine ⟨Compiler.compile_value_eq_none_iff, fun d hd => ?_⟩
  rw [Compiler.jobs_of_compile hd]
  obtain ⟨f, hf⟩ := bijective_slugify (c := c) hslugs
  have hentries := map_entries_jobs (c := c) hsound hslugs
  refine ⟨hentries, fun k l hkl => ⟨?_, mem_keys_of_needs hsound hkl⟩, f, hf, fun a b => ?_⟩
  · obtain ⟨job, hjob, -⟩ := hkl
    exact (OrderedMap.mem_keys_iff _ k).2 ⟨job, hjob⟩
  · rw [hf, hf]
    exact (needs_slugify_iff hsound hslugs a.2 b.2).symm

/-- Three jobs with distinct slugs, one of which depends on both others. -/
def distinctSlugs : Workflow where
  name := "CI"
  trigger := .push
  provider := .gitHub
  jobs := [
    .ofSteps "Deploy Docs" [
      (Step.ofCommands ["./deploy.sh"]).withArtifactDependency "Build",
      (Step.ofCommands ["./notify.sh"]).withJobDependency "Unit Tests"
        |>.withJobDependency "Build"],
    .ofSteps "Build" [.ofCommands ["make"]],
    .ofSteps "Unit Tests" [(Step.ofCommands ["make test"]).withJobDependency "Build"]]

theorem distinctSlugs_isomorphic :
    distinctSlugs.validate = .ok () ∧
    (distinctSlugs.jobs.map fun j => Text.slugify j.name).Nodup ∧
    ∃ d, ((Compiler.ofOptions .unset).compile distinctSlugs).value = some d ∧
      d.jobs.entries.map (fun e => (e.1, e.2.name, e.2.needs)) = [
        ("deploy-docs", "Deploy Docs", ["unit-tests", "build"]), ("build", "Build", []),
        ("unit-tests", "Unit Tests", ["build"])] ∧
      ∃ f : {a // a ∈ jobNames distinctSlugs.jobs} ≃ {k // k ∈ d.jobs.keys},
        ∀ a b, DependsOn distinctSlugs.jobs a.1 b.1 ↔ Needs d.jobs (f a).1 (f b).1 := by
  have hok : distinctSlugs.validate = .ok () :=
    Workflow.validate_eq_ok_iff_violations.2 (by decide +kernel)
  have hslugs : (distinctSlugs.jobs.map fun j => Text.slugify j.name).Nodup := by decide +kernel
  obtain ⟨-, h⟩ := needs_isomorphic_to_dependencies (.ofOptions .unset) distinctSlugs hok hslugs
  obtain ⟨hentries, -, f, -, hiff⟩ := h _ rfl
  exact ⟨hok, hslugs, _, rfl, hentries.trans (by decide +kernel), f, hiff⟩

/-! ## Cycles -/

/-- The need for `l` stands for a job that a later one has replaced. -/
def NeedsReplaced (js : List CiPipeline.Job) (jobs : OrderedMap Job) (k l : String) : Prop :=
  ∃ job ∈ jobs.get? k, ∃ j, DependsOn js job.name j.name ∧ ReplacedIn js j ∧
    Text.slugify j.name = l

/-- The name of the job under a key. -/
def nameUnder (jobs : OrderedMap Job) (key : String) : String :=
  ((jobs.get? key).map (·.name)).getD ""

/-- All other needs are for the very jobs that are depended on. -/
theorem dependsOn_of_needs (h : Sound workflow js) {k l : String} (hneeds : Needs (c.jobs js) k l)
    (hkept : ¬ NeedsReplaced js (c.jobs js) k l) :
    DependsOn js (nameUnder (c.jobs js) k) (nameUnder (c.jobs js) l) := by
  obtain ⟨j, hj, name, hname, rfl⟩ := Compiler.needs_jobs_iff.1 hneeds
  obtain ⟨i, hi, rfl⟩ := mem_jobNames.1 (h.mem_jobNames (of_keptUnder hj).1 hname)
  have hdep : DependsOn js j.name i.name := ⟨⟨j, (of_keptUnder hj).1, rfl, hname⟩, i, hi, rfl⟩
  have hget : (c.jobs js).get? k = some (c.job j) := by rw [Compiler.get?_jobs, hj, Option.map_some]
  obtain ⟨m, hm⟩ := exists_keptUnder hi
  have heq : i = m := by
    by_contra hne
    exact hkept ⟨c.job j, hget, i, hdep, replacedIn_of_ne hi hm hne, rfl⟩
  rw [nameUnder, nameUnder, hget, Compiler.get?_jobs, hm, ← heq]
  exact hdep

/-- Needs for jobs that have not been replaced form no cycle. -/
theorem needs_kept_acyclic (h : Sound workflow js) (k : String) :
    ¬ TransGen (fun k l => Needs (c.jobs js) k l ∧ ¬ NeedsReplaced js (c.jobs js) k l) k k := by
  intro hcycle
  have hlift : ∀ a b, Needs (c.jobs js) a b ∧ ¬ NeedsReplaced js (c.jobs js) a b →
      DependsOn js (nameUnder (c.jobs js) a) (nameUnder (c.jobs js) b) := fun a b hab =>
    dependsOn_of_needs h hab.1 hab.2
  exact h.dependsOn_acyclic _ (hcycle.lift (nameUnder (c.jobs js)) hlift)

theorem not_needsReplaced {jobs : OrderedMap Job}
    (h : ∀ i ∈ js, ReplacedIn js i → ∀ j ∈ js, ¬ j.DependsOn i) (k l : String) :
    ¬ NeedsReplaced js jobs k l := by
  rintro ⟨job, -, i, ⟨⟨j, hj, -, hdep⟩, -⟩, hi, -⟩
  obtain ⟨_, -, hsub, -⟩ := id hi
  exact h i (hsub.subset List.mem_cons_self) hi j hj (Job.mem_dependencyNames.1 hdep)

/-- **Cycles of needs come from replaced jobs.** Every cycle of needs in the file of a workflow
has a need for a job in whose place there is a later one with the same slug. So there is no
cycle if no job depends on a replaced one, and in particular if the slugs are distinct. -/
theorem needs_cycle_through_replaced (c : Compiler) (w : Workflow) (file : GeneratedFile)
    (h : (c.backend.render w).value = .ok (some file)) :
    ∃ d, (c.compile w).value = some d ∧ file = ⟨w.path, fileContent d.toTree⟩ ∧
      (∀ k, ¬ TransGen (fun k l => Needs d.jobs k l ∧ ¬ NeedsReplaced w.jobs d.jobs k l) k k) ∧
      ((∀ i ∈ w.jobs, ReplacedIn w.jobs i → ∀ j ∈ w.jobs, ¬ j.DependsOn i) →
        ∀ k, ¬ TransGen (Needs d.jobs) k k) ∧
      ((w.jobs.map fun j => Text.slugify j.name).Nodup → ∀ k, ¬ TransGen (Needs d.jobs) k k) := by
  obtain ⟨-, hok, hfile⟩ := Backend.render_eq_ok_some_iff.1 h
  obtain ⟨d, hd, rfl⟩ := Option.map_eq_some_iff.1 hfile
  have hjobs := Compiler.jobs_of_compile hd
  have hkept := needs_kept_acyclic (c := c) (w.sound_of_validate hok)
  have hnone : (∀ i ∈ w.jobs, ReplacedIn w.jobs i → ∀ j ∈ w.jobs, ¬ j.DependsOn i) →
      ∀ k, ¬ TransGen (Needs (c.jobs w.jobs)) k k := by
    intro hreplaced k hcycle
    have hall : ∀ a b, Needs (c.jobs w.jobs) a b →
        Needs (c.jobs w.jobs) a b ∧ ¬ NeedsReplaced w.jobs (c.jobs w.jobs) a b := fun a b hab =>
      ⟨hab, not_needsReplaced hreplaced a b⟩
    exact hkept k (TransGen.mono hall k k hcycle)
  rw [← hjobs] at hkept hnone
  refine ⟨d, hd, rfl, hkept, hnone, fun hslugs => hnone fun i _ hi => ?_⟩
  exact absurd hi (not_replacedIn_of_nodup hslugs i)

/-- A job whose slug a later job has, and other jobs that depend on the later one only. -/
def overtaken : Workflow where
  name := "CI"
  trigger := .push
  provider := .gitHub
  jobs := [
    .ofSteps "Build" [.ofCommands ["make"]],
    .ofSteps "Lint" [.ofCommands ["make lint"]],
    .ofSteps "build" [(Step.ofCommands ["make all"]).withJobDependency "Lint"],
    .ofSteps "Deploy" [(Step.ofCommands ["./deploy.sh"]).withArtifactDependency "build"]]

theorem overtaken_acyclic :
    (∃ j ∈ overtaken.jobs, ReplacedIn overtaken.jobs j) ∧
    ∃ file, ((Compiler.ofOptions .unset).backend.render overtaken).value = .ok (some file) ∧
    ∃ d, ((Compiler.ofOptions .unset).compile overtaken).value = some d ∧
      Needs d.jobs "deploy" "build" ∧ Needs d.jobs "build" "lint" ∧
      ∀ k, ¬ TransGen (Needs d.jobs) k k := by
  have hok : overtaken.validate = .ok () :=
    Workflow.validate_eq_ok_iff_violations.2 (by decide +kernel)
  obtain ⟨file, hrender⟩ :
      ∃ file, ((Compiler.ofOptions .unset).backend.render overtaken).value = .ok (some file) :=
    ⟨_, Backend.render_eq_ok_some_iff.2 ⟨rfl, hok, rfl⟩⟩
  obtain ⟨d, hd, -, -, hacyclic, -⟩ := needs_cycle_through_replaced _ _ file hrender
  cases hd
  refine ⟨by decide +kernel, file, hrender, _, rfl, by decide +kernel, by decide +kernel, ?_⟩
  exact hacyclic (by decide +kernel)

/-- A job that depends on another one whose name has the same slug. -/
def namesakes : Workflow where
  name := "CI"
  trigger := .push
  provider := .gitHub
  jobs := [
    .ofSteps "Build" [.ofCommands ["make"]],
    .ofSteps "build" [(Step.ofCommands ["make all"]).withJobDependency "Build"]]

/-- There can be cycles: a job that has replaced the one it depends on needs itself. -/
theorem namesake_needs_itself :
    ∃ file, ((Compiler.ofOptions .unset).backend.render namesakes).value = .ok (some file) ∧
    ∃ d, ((Compiler.ofOptions .unset).compile namesakes).value = some d ∧
      TransGen (Needs d.jobs) "build" "build" := by
  have hok : namesakes.validate = .ok () :=
    Workflow.validate_eq_ok_iff_violations.2 (by decide +kernel)
  refine ⟨_, Backend.render_eq_ok_some_iff.2 ⟨rfl, hok, rfl⟩, _, rfl, .single ?_⟩
  decide +kernel

end CiPipeline.GitHub

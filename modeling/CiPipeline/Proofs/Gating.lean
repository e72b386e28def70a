import CiPipeline.Proofs.Inclusion

set_option autoImplicit false

/-! # Gates of included files

The top-level file includes each workflow under rules, and a rule holds when its expression does.
Whether an expression holds is known only when a pipeline runs, so everything here is for any
truth values of the expressions. What decides is the tree that is written, not the record behind
it: there a list without rules is left out, and an include without rules is always taken. So the
expressions for a trigger guard its workflow unless there are none, and then nothing does.
-/

namespace CiPipeline.GitLab

/-! ## Reading an include -/

/-- A written rule holds: its expression does, or it has none. -/
def ruleHolds (truth : String → Bool) (rule : Tree) : Bool :=
  match rule.get? "if" with
  | some (.str expression) => truth expression
  | some _ => false
  | none => true

/-- A written include is taken: one of its rules holds, or it has no rules. -/
def isTaken (truth : String → Bool) (written : Tree) : Bool :=
  match written.get? "rules" with
  | some (.list rules) => rules.any (ruleHolds truth)
  | some _ => false
  | none => true

variable (truth : String → Bool)

/-- The rules for a trigger hold when one of its expressions does; without any expression they
are not there. -/
theorem isTaken_rulesFor (path : String) (rules : TriggerRules) (t : Trigger) :
    isTaken truth (Include.toTree ⟨path, rules.rulesFor t⟩) = true ↔
      rules.expressions t = [] ∨ ∃ e ∈ rules.expressions t, truth e = true := by
  rw [TriggerRules.rulesFor, isTaken, get?_rules, writtenRules]
  by_cases hnone : rules.expressions t = []
  · rw [if_pos hnone]
    exact iff_of_true rfl (Or.inl hnone)
  · -- a rule with one expression holds iff the expression is true
    have hholds : ∀ e, ruleHolds truth (.map [("if", .str e)]) = truth e := fun _ => rfl
    rw [if_neg hnone, or_iff_right hnone]
    simp only [List.any_map, List.any_eq_true, Function.comp_apply, hholds]

/-! ## Reading the top-level file -/

/-- A written include stands for a workflow: it has the path of the workflow's file, and is taken
when an expression for the workflow's trigger holds, or when there is none. -/
structure Gates (o : Options) (w : Workflow) (written : Tree) : Prop where
  path : written.get? "local" = some (.str (includePath w))
  taken_iff : isTaken truth written = true ↔
    o.rules.expressions w.trigger = [] ∨ ∃ e ∈ o.rules.expressions w.trigger, truth e = true

theorem gates_toTree (o : Options) (w : Workflow) :
    Gates truth o w (Include.toTree ⟨includePath w, o.rules.rulesFor w.trigger⟩) where
  path := rfl
  taken_iff := isTaken_rulesFor truth (includePath w) o.rules w.trigger

/-- **What the top-level file is gated by.** There is no file iff no workflow has jobs. Otherwise
it has one include for each workflow that has jobs, in their order. For any truth values of the
expressions an include is taken iff one of the expressions for its workflow's trigger is true,
unless there are none, in which case it is always taken. -/
theorem includes_gated (o : Options) (ws : List Workflow) :
    (pipeline o ws = none ↔ ∀ w ∈ ws, w.hasJobs = false) ∧
    ∀ p, pipeline o ws = some p →
      ∃ includes, p.toTree.get? "include" = some (.list includes) ∧
        List.Forall₂ (Gates truth o) (ws.filter (·.hasJobs)) includes := by
  have hnil : includes o ws = [] ↔ ∀ w ∈ ws, w.hasJobs = false := by
    rw [includes, List.map_eq_nil_iff, List.filter_eq_nil_iff]
    simp only [Bool.not_eq_true]
  by_cases hnone : includes o ws = []
  · rw [pipeline_eq_none hnone]
    refine ⟨iff_of_true rfl (hnil.1 hnone), fun p hp => ?_⟩
    cases hp
  · obtain ⟨p, hp, hincludes⟩ := exists_pipeline hnone
    rw [hp]
    refine ⟨iff_of_false (Option.some_ne_none p) (mt hnil.2 hnone), fun q hq => ?_⟩
    obtain rfl := Option.some.inj hq
    refine ⟨_, get?_include p, ?_⟩
    rw [hincludes, includes, List.map_map, List.forall₂_map_right_iff]
    exact List.forall₂_same.2 fun w _ => gates_toTree truth o w

/-- A workflow with one job. -/
def releases : Workflow where
  name := "Push to Main"
  trigger := .push
  provider := .gitLab
  jobs := [.ofSteps "Release" [.ofCommands ["make release"]]]

/-- A workflow for the other trigger. -/
def reviews : Workflow :=
  { releases with name := "Merge Request", trigger := .codeChangeRequest }

/-- Rules of its own for code change requests, and no rules for pushes. -/
def withoutPushes : Options :=
  { Options.unset with rules := ⟨["$CI_MERGE_REQUEST_ID", "$REVIEW == \"1\""], []⟩ }

/-- When no expression holds, the include with rules is not taken and the one without is. -/
theorem withoutPushes_gated :
    ∃ p review release,
      pipeline withoutPushes [reviews, { releases with jobs := [] }, releases] = some p ∧
      p.toTree.get? "include" = some (.list [review, release]) ∧
      isTaken (fun _ => false) review = false ∧ isTaken (fun _ => false) release = true := by
  obtain ⟨-, hgates⟩ := includes_gated (fun _ => false) withoutPushes
    [reviews, { releases with jobs := [] }, releases]
  obtain ⟨written, hwritten, hall⟩ := hgates _ rfl
  obtain ⟨review, rest, hreview, hrest, rfl⟩ := List.forall₂_cons_left_iff.1 hall
  obtain ⟨release, last, hrelease, hlast, rfl⟩ := List.forall₂_cons_left_iff.1 hrest
  obtain rfl := List.forall₂_nil_left_iff.1 hlast
  refine ⟨_, review, release, rfl, hwritten, ?_, hrelease.taken_iff.2 (Or.inl rfl)⟩
  rw [Bool.eq_false_iff, ne_eq, hreview.taken_iff]
  decide +kernel

/-- **An include can be taken although no expression for it holds**: without expressions for a
trigger the workflow is included on every event, while a list of rules none of which holds would
include it on none. -/
theorem emptied_rules_always_taken :
    ∃ p release, pipeline withoutPushes [releases] = some p ∧
      p.toTree.get? "include" = some (.list [release]) ∧
      ∀ truth : String → Bool, isTaken truth release = true ∧
        ¬ ∃ e ∈ withoutPushes.rules.expressions releases.trigger, truth e = true := by
  refine ⟨_, _, rfl, rfl, fun truth => ⟨rfl, ?_⟩⟩
  rintro ⟨e, he, -⟩
  exact absurd he List.not_mem_nil

end CiPipeline.GitLab

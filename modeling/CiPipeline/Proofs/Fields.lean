import CiPipeline.GitHub.Options
import CiPipeline.Proofs.Bindings
import CiPipeline.Proofs.Settling

set_option autoImplicit false

/-! # Records are decoded field by field

A record none of whose keys must be there is decoded by looking each key up: its value is
what the tree under the key is decoded to, and what the record holds without any keys if the
key is not there. The order of the entries does not matter, and neither do entries whose keys
the record does not have.

Decoding goes through the entries and looks each key up among the fields; `Fills` goes through
the fields and looks each key up among the entries. An entry can be moved to the place of its
field because setting two fields in either order gives the same record.
-/

namespace CiPipeline

open Decode Source

namespace Decode

variable {α β ρ : Type}

/-! ## Values under keys -/

/-- The value for a key: what the tree under the key is decoded to, or the other value if the
key is not there. -/
def Takes (es : List (String × Tree)) (key : String) (decode : Decoder α) (otherwise v : α) :
    Prop :=
  match es.lookup key with
  | none => v = otherwise
  | some t => decode (ofTree t) = pure v

section Takes

variable {es es' : List (String × Tree)} {key : String} {decode : Decoder α} {otherwise v : α}

theorem takes_of_lookup_eq_none (h : es.lookup key = none) :
    Takes es key decode otherwise v ↔ v = otherwise := by
  rw [Takes, h]

theorem takes_of_lookup_eq_some {t : Tree} (h : es.lookup key = some t) :
    Takes es key decode otherwise v ↔ decode (ofTree t) = pure v := by
  rw [Takes, h]

theorem takes_congr (h : es'.lookup key = es.lookup key) :
    Takes es' key decode otherwise v ↔ Takes es key decode otherwise v := by
  rw [Takes, Takes, h]

end Takes

/-! ## Fields in turn -/

/-- The fields take the record from one to the other in turn: a field whose key is there sets
what it reads, and the others leave the record as it is. -/
def Fills (es : List (String × Tree)) : List (Field ρ) → ρ → ρ → Prop
  | [], r, r' => r = r'
  | f :: fs, r, r' =>
      match es.lookup f.key with
      | none => Fills es fs r r'
      | some t => ∃ set, f.read (ofTree t) = pure set ∧ Fills es fs (set r) r'

section Fills

variable {es es' : List (String × Tree)} {f : Field ρ} {fs : List (Field ρ)} {r r' : ρ}

theorem fills_of_lookup_eq_none (h : es.lookup f.key = none) :
    Fills es (f :: fs) r r' ↔ Fills es fs r r' := by
  rw [Fills, h]

theorem fills_of_lookup_eq_some {t : Tree} (h : es.lookup f.key = some t) :
    Fills es (f :: fs) r r' ↔
      ∃ set, f.read (ofTree t) = pure set ∧ Fills es fs (set r) r' := by
  rw [Fills, h]

/-- Only what is under the keys of the fields matters. -/
theorem fills_congr (h : ∀ f ∈ fs, es'.lookup f.key = es.lookup f.key) :
    Fills es' fs r r' ↔ Fills es fs r r' := by
  induction fs generalizing r with
  | nil => exact Iff.rfl
  | cons f fs ih =>
      have hrest : ∀ g ∈ fs, es'.lookup g.key = es.lookup g.key := fun g hg =>
        h g (List.mem_cons_of_mem f hg)
      have hfirst : es'.lookup f.key = es.lookup f.key := h f List.mem_cons_self
      cases hlookup : es.lookup f.key with
      | none =>
          rw [fills_of_lookup_eq_none hlookup, fills_of_lookup_eq_none (hfirst.trans hlookup)]
          exact ih hrest
      | some t =>
          rw [fills_of_lookup_eq_some hlookup, fills_of_lookup_eq_some (hfirst.trans hlookup)]
          exact exists_congr fun set => and_congr_right fun _ => ih hrest

theorem fills_nil : Fills [] fs r r' ↔ r = r' := by
  induction fs with
  | nil => exact Iff.rfl
  | cons f fs ih => exact ih

/-- A field that may be left out takes its value, and the record holds the other value before
that. -/
theorem fills_allow {key : String} {decode : Decoder α} {set : α → ρ → ρ} {otherwise : α}
    (h : Alike decode) (hblank : set otherwise r = r) :
    Fills es (.allow key decode set :: fs) r r' ↔
      ∃ v, Takes es key decode otherwise v ∧ Fills es fs (set v r) r' := by
  cases hlookup : es.lookup key with
  | none =>
      rw [fills_of_lookup_eq_none hlookup]
      constructor
      · intro hfills
        exact ⟨otherwise, (takes_of_lookup_eq_none hlookup).2 rfl, hblank.symm ▸ hfills⟩
      · rintro ⟨v, hv, hfills⟩
        rw [(takes_of_lookup_eq_none hlookup).1 hv, hblank] at hfills
        exact hfills
  | some t =>
      rw [fills_of_lookup_eq_some hlookup]
      constructor
      · rintro ⟨update, hread, hfills⟩
        obtain ⟨v, hv, rfl⟩ := ((h t).map_eq_pure_iff set update).1 hread
        exact ⟨v, (takes_of_lookup_eq_some hlookup).2 hv, hfills⟩
      · rintro ⟨v, hv, hfills⟩
        have hread : decode (ofTree t) = pure v := (takes_of_lookup_eq_some hlookup).1 hv
        exact ⟨set v, Writes.map_set hread set, hfills⟩

end Fills

/-! ## Fields in any order -/

/-- Setting both fields gives the same in either order. -/
def Field.Commutes (f g : Field ρ) : Prop :=
  ∀ ⦃x y : Source⦄ ⦃set set' : ρ → ρ⦄, f.read x = pure set → g.read y = pure set' →
    ∀ r, set (set' r) = set' (set r)

theorem Field.commutes_allow {key key' : String} {decode : Decoder α} {decode' : Decoder β}
    {set : α → ρ → ρ} {set' : β → ρ → ρ}
    (h : ∀ v w r, set v (set' w r) = set' w (set v r)) :
    Commutes (.allow key decode set) (.allow key' decode' set') := by
  intro x y update update' hx hy r
  obtain ⟨v, rfl⟩ := Decoded.exists_of_map_eq_pure hx
  obtain ⟨w, rfl⟩ := Decoded.exists_of_map_eq_pure hy
  exact h v w r

section Cons

variable {es : List (String × Tree)} {f : Field ρ} {fs : List (Field ρ)} {r r' : ρ} {t : Tree}

/-- Of two fields that are read either can be set first. -/
theorem fills_swap {g : Field ρ} {t' : Tree} (h : Field.Commutes g f) :
    (∃ set', g.read (ofTree t') = pure set' ∧
      ∃ set, f.read (ofTree t) = pure set ∧ Fills es fs (set (set' r)) r') ↔
    ∃ set, f.read (ofTree t) = pure set ∧
      ∃ set', g.read (ofTree t') = pure set' ∧ Fills es fs (set' (set r)) r' := by
  constructor
  · rintro ⟨set', hread', set, hread, hfills⟩
    exact ⟨set, hread, set', hread', h hread' hread r ▸ hfills⟩
  · rintro ⟨set, hread, set', hread', hfills⟩
    exact ⟨set', hread', set, hread, (h hread' hread r).symm ▸ hfills⟩

/-- **One more entry** is the same as setting its field first. -/
theorem fills_cons (hf : f ∈ fs) (distinct : (fs.map (·.key)).Nodup)
    (commute : fs.Pairwise Field.Commutes) (hnew : f.key ∉ es.map Prod.fst) :
    Fills ((f.key, t) :: es) fs r r' ↔
      ∃ set, f.read (ofTree t) = pure set ∧ Fills es fs (set r) r' := by
  have hnone : es.lookup f.key = none := OrderedMap.lookup_eq_none_of_not_mem hnew
  -- the fields before that of the entry are passed one by one
  induction fs generalizing r with
  | nil => exact absurd hf List.not_mem_nil
  | cons g fs ih =>
      rw [List.map_cons, List.nodup_cons] at distinct
      rw [List.pairwise_cons] at commute
      have hother : ∀ h : Field ρ, h.key ≠ f.key →
          ((f.key, t) :: es).lookup h.key = es.lookup h.key := fun h hne => by
        rw [OrderedMap.lookup_cons_eq_ite, if_neg hne]
      rcases List.mem_cons.1 hf with rfl | hf
      · have hlater : ∀ h ∈ fs, ((f.key, t) :: es).lookup h.key = es.lookup h.key :=
          fun h hh => hother h fun heq => distinct.1 (heq ▸ List.mem_map_of_mem hh)
        have hfirst : ((f.key, t) :: es).lookup f.key = some t := by
          rw [OrderedMap.lookup_cons_eq_ite, if_pos rfl]
        rw [fills_of_lookup_eq_some hfirst]
        refine exists_congr fun set => and_congr_right fun _ => ?_
        rw [fills_of_lookup_eq_none hnone, fills_congr hlater]
      · have hne : g.key ≠ f.key := fun heq => distinct.1 (heq ▸ List.mem_map_of_mem hf)
        cases hlookup : es.lookup g.key with
        | none =>
            rw [fills_of_lookup_eq_none ((hother g hne).trans hlookup)]
            refine (ih hf distinct.2 commute.2).trans ?_
            refine exists_congr fun set => and_congr_right fun _ => ?_
            rw [fills_of_lookup_eq_none hlookup]
        | some t' =>
            have hlater : ∀ r, Fills ((f.key, t) :: es) fs r r' ↔
                ∃ set, f.read (ofTree t) = pure set ∧ Fills es fs (set r) r' := fun r =>
              ih (r := r) hf distinct.2 commute.2
            rw [fills_of_lookup_eq_some ((hother g hne).trans hlookup)]
            simp only [hlater, fills_of_lookup_eq_some hlookup]
            exact fills_swap (commute.1 f hf)

end Cons

/-! ## Records -/

namespace Shape

variable {shape : Shape ρ}

/-- Every key may be left out, and the keys may come in any order. -/
structure Loose (shape : Shape ρ) : Prop where
  distinct : (shape.fields.map (·.key)).Nodup
  free : ∀ f ∈ shape.fields, f.required = false
  alike : ∀ f ∈ shape.fields, Alike f.read
  commute : shape.fields.Pairwise Field.Commutes

/-- Entries with keys of their own set the same as the fields in turn. -/
theorem Loose.readEntries_iff (h : shape.Loose) {es : List (String × Tree)}
    (hkeys : (es.map Prod.fst).Nodup) {seen : List String}
    (hseen : ∀ k ∈ es.map Prod.fst, k ∉ seen) {r r' : ρ} :
    (∃ seen', shape.readEntries seen r (Source.ofEntries es) = pure (seen', r')) ↔
      Fills es shape.fields r r' := by
  induction es generalizing seen r with
  | nil =>
      rw [fills_nil]
      constructor
      · rintro ⟨seen', hread⟩
        exact congrArg Prod.snd (Decoded.pure_inj hread)
      · rintro rfl
        exact ⟨seen, rfl⟩
  | cons e es ih =>
      rw [List.map_cons, List.nodup_cons] at hkeys
      rw [List.map_cons, List.forall_mem_cons] at hseen
      have hkey : (atom (.str e.1)).Shows (.str e.1) := rfl
      cases hfind : shape.fields.find? fun f => f.key == e.1 with
      | none =>
          rw [Source.ofEntries, readEntries_of_unknown hkey hfind, ih hkeys.2 hseen.2]
          -- no field looks at a key that none of them has
          refine (fills_congr fun f hf => ?_).symm
          have hne : f.key ≠ e.1 := by simpa using List.find?_eq_none.1 hfind f hf
          rw [OrderedMap.lookup_cons_eq_ite, if_neg hne]
      | some f =>
          have hf : f ∈ shape.fields := List.mem_of_find?_eq_some hfind
          have hname : f.key = e.1 := by simpa using List.find?_some hfind
          have hcontains : ¬ seen.contains f.key = true := by
            rw [hname]
            simpa using hseen.1
          -- the entries after this one have other keys, so that none of them is a second one
          have hlater : ∀ k ∈ es.map Prod.fst, k ∉ f.key :: seen := by
            intro k hk hmem
            rcases List.mem_cons.1 hmem with rfl | hmem
            · exact hkeys.1 (hname ▸ hk)
            · exact hseen.2 k hk hmem
          have hcons : Fills (e :: es) shape.fields r r' ↔
              ∃ set, f.read (ofTree e.2) = pure set ∧ Fills es shape.fields (set r) r' := by
            have hnew : f.key ∉ es.map Prod.fst := hname ▸ hkeys.1
            rw [← fills_cons hf h.distinct h.commute hnew, hname]
          have hread := (h.alike f hf e.2).under (.key e.1) (.key e.1)
          rw [Source.ofEntries, readEntries_of_known hkey hfind, if_neg hcontains, hcons]
          constructor
          · rintro ⟨seen', hrun⟩
            obtain ⟨set, hset, hrest⟩ := (hread.bind_eq_pure_iff _ _).1 hrun
            refine ⟨set, ((h.alike f hf e.2).mapError_eq_pure_iff _ _).1 hset, ?_⟩
            exact (ih hkeys.2 hlater).1 ⟨seen', hrest⟩
          · rintro ⟨set, hset, hfills⟩
            obtain ⟨seen', hrest⟩ := (ih hkeys.2 hlater).2 hfills
            refine ⟨seen', (hread.bind_eq_pure_iff _ _).2 ⟨set, ?_, hrest⟩⟩
            rw [hset, Decoded.under_pure]

/-- **A map is decoded to what its fields in turn make of the record without any keys.** -/
theorem Loose.decode_iff (h : shape.Loose) {es : List (String × Tree)}
    (hkeys : (es.map Prod.fst).Nodup) {r : ρ} :
    shape.decode (ofTree (.map es)) = pure r ↔ Fills es shape.fields shape.blank r := by
  rw [← h.readEntries_iff hkeys (fun _ _ => List.not_mem_nil)]
  have hdecode : shape.decode (ofTree (.map es)) = shape.ofEntries (Source.ofEntries es) := rfl
  have hsame := same_readEntries h.alike (fun _ => true) (fun _ _ _ _ => rfl) es [] shape.blank
  -- whatever has been seen, nothing that must be there is missing
  have hmissing : ∀ seen : List String,
      (shape.fields.find? fun f => f.required && !seen.contains f.key) = none := by
    intro seen
    rw [List.find?_eq_none]
    intro f hf
    rw [h.free f hf, Bool.false_and]
    exact Bool.false_ne_true
  rw [hdecode, Shape.ofEntries, hsame.bind_eq_pure_iff]
  constructor
  · rintro ⟨⟨seen, r'⟩, hread, hr⟩
    simp only [hmissing] at hr
    exact ⟨seen, Decoded.pure_inj hr ▸ hread⟩
  · rintro ⟨seen, hread⟩
    refine ⟨(seen, r), hread, ?_⟩
    simp only [hmissing]

end Shape

end Decode

/-! ## Options -/

/-- The options of a GitHub section are those of a map: a key that is not there leaves its
option unset. -/
structure GitHub.Options.TakenFrom (es : List (String × Tree)) (o : Options) : Prop where
  codeChangeRequestWorkflowName :
    Takes es "code_change_request_workflow_name" string unset.codeChangeRequestWorkflowName
      o.codeChangeRequestWorkflowName
  pushWorkflowName :
    Takes es "push_workflow_name" string unset.pushWorkflowName o.pushWorkflowName
  defaultRunner : Takes es "default_runner" string unset.defaultRunner o.defaultRunner
  branches : Takes es "branches" (list string) unset.branches o.branches

/-- The rules for both triggers are those of a map: a key that is not there leaves the rules
of its trigger unset. -/
structure GitLab.TriggerRules.TakenFrom (es : List (String × Tree)) (r : TriggerRules) :
    Prop where
  codeChangeRequest :
    Takes es "code_change_request" (list string) unset.codeChangeRequest r.codeChangeRequest
  push : Takes es "push" (list string) unset.push r.push

/-- The options of a GitLab section are those of a map: a key that is not there leaves its
option unset. -/
structure GitLab.Options.TakenFrom (es : List (String × Tree)) (o : Options) : Prop where
  codeChangeRequestWorkflowName :
    Takes es "code_change_request_workflow_name" string unset.codeChangeRequestWorkflowName
      o.codeChangeRequestWorkflowName
  pushWorkflowName :
    Takes es "push_workflow_name" string unset.pushWorkflowName o.pushWorkflowName
  services : Takes es "services" (list string) unset.services o.services
  beforeScript : Takes es "before_script" (list string) unset.beforeScript o.beforeScript
  defaultTags : Takes es "default_tags" (list string) unset.defaultTags o.defaultTags
  artifactExpiry : Takes es "artifact_expiry" string unset.artifactExpiry o.artifactExpiry
  manualJobs : Takes es "manual_jobs" names unset.manualJobs o.manualJobs
  rules : Takes es "rules" TriggerRules.decode unset.rules o.rules
  placeholderJob : Takes es "placeholder_job" bool unset.placeholderJob o.placeholderJob

theorem GitHub.Options.loose : shape.Loose where
  distinct := by decide
  free := by decide
  alike := alike_fields
  commute := by
    -- one goal for each pair of fields, which are different fields of the structure
    simp only [shape, List.pairwise_cons, List.forall_mem_cons, List.not_mem_nil, false_imp_iff,
      implies_true, List.Pairwise.nil, and_true]
    and_intros
    all_goals exact Field.commutes_allow fun _ _ _ => rfl

theorem GitLab.TriggerRules.loose : shape.Loose where
  distinct := by decide
  free := by decide
  alike := alike_fields
  commute := by
    simp only [shape, List.pairwise_cons, List.forall_mem_cons, List.not_mem_nil, false_imp_iff,
      implies_true, List.Pairwise.nil, and_true]
    exact Field.commutes_allow fun _ _ _ => rfl

theorem GitLab.Options.loose : shape.Loose where
  distinct := by decide
  free := by decide
  alike := alike_fields
  commute := by
    simp only [shape, List.pairwise_cons, List.forall_mem_cons, List.not_mem_nil, false_imp_iff,
      implies_true, List.Pairwise.nil, and_true]
    and_intros
    all_goals exact Field.commutes_allow fun _ _ _ => rfl

section Maps

variable {es : List (String × Tree)} (hkeys : (es.map Prod.fst).Nodup)
include hkeys

theorem GitHub.Options.decode_iff (o : Options) :
    decode (ofTree (.map es)) = pure o ↔ TakenFrom es o := by
  refine (loose.decode_iff hkeys).trans ⟨fun h => ?_, fun h => ?_⟩
  · obtain ⟨request, hrequest, h⟩ := (fills_allow alike_string rfl).1 h
    obtain ⟨push, hpush, h⟩ := (fills_allow alike_string rfl).1 h
    obtain ⟨runner, hrunner, h⟩ := (fills_allow alike_string rfl).1 h
    obtain ⟨branches, hbranches, rfl⟩ := (fills_allow alike_string.list rfl).1 h
    exact ⟨hrequest, hpush, hrunner, hbranches⟩
  · refine (fills_allow alike_string rfl).2 ⟨_, h.codeChangeRequestWorkflowName, ?_⟩
    refine (fills_allow alike_string rfl).2 ⟨_, h.pushWorkflowName, ?_⟩
    refine (fills_allow alike_string rfl).2 ⟨_, h.defaultRunner, ?_⟩
    exact (fills_allow alike_string.list rfl).2 ⟨_, h.branches, rfl⟩

theorem GitLab.TriggerRules.decode_iff (r : TriggerRules) :
    decode (ofTree (.map es)) = pure r ↔ TakenFrom es r := by
  refine (loose.decode_iff hkeys).trans ⟨fun h => ?_, fun h => ?_⟩
  · obtain ⟨request, hrequest, h⟩ := (fills_allow alike_string.list rfl).1 h
    obtain ⟨push, hpush, rfl⟩ := (fills_allow alike_string.list rfl).1 h
    exact ⟨hrequest, hpush⟩
  · refine (fills_allow alike_string.list rfl).2 ⟨_, h.codeChangeRequest, ?_⟩
    exact (fills_allow alike_string.list rfl).2 ⟨_, h.push, rfl⟩

theorem GitLab.Options.decode_iff (o : Options) :
    decode (ofTree (.map es)) = pure o ↔ TakenFrom es o := by
  have hrules : Alike TriggerRules.decode := Shape.alike_decode TriggerRules.alike_fields
  refine (loose.decode_iff hkeys).trans ⟨fun h => ?_, fun h => ?_⟩
  · obtain ⟨request, hrequest, h⟩ := (fills_allow alike_string rfl).1 h
    obtain ⟨push, hpush, h⟩ := (fills_allow alike_string rfl).1 h
    obtain ⟨services, hservices, h⟩ := (fills_allow alike_string.list rfl).1 h
    obtain ⟨script, hscript, h⟩ := (fills_allow alike_string.list rfl).1 h
    obtain ⟨tags, htags, h⟩ := (fills_allow alike_string.list rfl).1 h
    obtain ⟨expiry, hexpiry, h⟩ := (fills_allow alike_string rfl).1 h
    obtain ⟨manual, hmanual, h⟩ := (fills_allow alike_names rfl).1 h
    obtain ⟨rules, hrules, h⟩ := (fills_allow hrules rfl).1 h
    obtain ⟨placeholder, hplaceholder, rfl⟩ := (fills_allow alike_bool rfl).1 h
    exact ⟨hrequest, hpush, hservices, hscript, htags, hexpiry, hmanual, hrules, hplaceholder⟩
  · refine (fills_allow alike_string rfl).2 ⟨_, h.codeChangeRequestWorkflowName, ?_⟩
    refine (fills_allow alike_string rfl).2 ⟨_, h.pushWorkflowName, ?_⟩
    refine (fills_allow alike_string.list rfl).2 ⟨_, h.services, ?_⟩
    refine (fills_allow alike_string.list rfl).2 ⟨_, h.beforeScript, ?_⟩
    refine (fills_allow alike_string.list rfl).2 ⟨_, h.defaultTags, ?_⟩
    refine (fills_allow alike_string rfl).2 ⟨_, h.artifactExpiry, ?_⟩
    refine (fills_allow alike_names rfl).2 ⟨_, h.manualJobs, ?_⟩
    refine (fills_allow hrules rfl).2 ⟨_, h.rules, ?_⟩
    exact (fills_allow alike_bool rfl).2 ⟨_, h.placeholderJob, rfl⟩

end Maps

end CiPipeline

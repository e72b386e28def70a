import CiPipeline.Definition
import CiPipeline.Proofs.Fields

set_option autoImplicit false

/-! # Sections are decoded as their options and their jobs

A section shares one map between the options and the jobs. It is decoded exactly where the
map is decoded as options alone and the value of each list of jobs, where there is one, as
such a list; the section has those options and those jobs. The two ways to the options differ:
alone they are decoded from the map as it is, with the jobs as keys that no option has, and
in a section from what is left without the jobs, with the types settled.

The invariant for reading the entries of a section says of every list of jobs that it is the
one read before or the one under its key, and of what is left that it is settled and in order.
-/

namespace CiPipeline

open Decode Source
open Decoded (Same)

namespace Section

variable {ρ δ : Type}

/-! ## Lists of jobs by their triggers -/

theorem jobsKey_inj {t u : Trigger} (h : jobsKey t = jobsKey u) : t = u := by
  revert h
  cases t <;> cases u <;> decide

/-- Whether an entry is left for the options. -/
def isOption (e : String × Tree) : Bool := Trigger.all.all fun t => e.1 != jobsKey t

theorem isOption_iff (e : String × Tree) : isOption e = true ↔ ∀ t, e.1 ≠ jobsKey t := by
  rw [isOption, List.all_eq_true]
  constructor
  · intro h t
    have ht : t ∈ Trigger.all := by cases t <;> decide
    simpa using h t ht
  · intro h t _
    simpa using h t

/-- A list of jobs that is there. -/
def givenJobs : Decoder (Option (List Job)) := fun src => some <$> list Job.decode src

theorem takes_givenJobs {es : List (String × Tree)} {key : String} (js : List Job) :
    (∃ given, Takes es key givenJobs none given ∧ given.getD [] = js) ↔
      Takes es key (list Job.decode) [] js := by
  cases hlookup : es.lookup key with
  | none =>
      rw [takes_of_lookup_eq_none hlookup]
      constructor
      · rintro ⟨given, hgiven, rfl⟩
        rw [(takes_of_lookup_eq_none hlookup).1 hgiven, Option.getD_none]
      · rintro rfl
        exact ⟨none, (takes_of_lookup_eq_none hlookup).2 rfl, rfl⟩
  | some t =>
      rw [takes_of_lookup_eq_some hlookup]
      constructor
      · rintro ⟨given, hgiven, rfl⟩
        rw [takes_of_lookup_eq_some hlookup] at hgiven
        obtain ⟨js, hjs, rfl⟩ := ((Job.alike.list t).map_eq_pure_iff some given).1 hgiven
        exact hjs
      · intro hjs
        refine ⟨some js, (takes_of_lookup_eq_some hlookup).2 ?_, rfl⟩
        exact ((Job.alike.list t).map_eq_pure_iff some (some js)).2 ⟨js, hjs, rfl⟩

namespace Reading

@[simp] theorem jobs_withJobs_self (r : Reading) (js : List Job) (t : Trigger) :
    (r.withJobs js t).jobs t = some js := by
  cases t <;> rfl

theorem jobs_withJobs_of_ne (r : Reading) (js : List Job) {t u : Trigger} (h : u ≠ t) :
    (r.withJobs js t).jobs u = r.jobs u := by
  cases t <;> cases u <;> first | rfl | exact absurd rfl h

@[simp] theorem others_withJobs (r : Reading) (js : List Job) (t : Trigger) :
    (r.withJobs js t).others = r.others := by
  cases t <;> rfl

theorem jobs_empty (t : Trigger) : empty.jobs t = none := by
  cases t <;> rfl

theorem ext_jobs {r r' : Reading} (hjobs : ∀ t, r.jobs t = r'.jobs t)
    (hothers : r.others = r'.others) : r = r' := by
  cases r
  cases r'
  have hrequest := hjobs .codeChangeRequest
  have hpush := hjobs .push
  simp only [jobs] at hrequest hpush hothers
  rw [hrequest, hpush, hothers]

/-! ## One entry -/

/-- An entry that is left for the options. -/
theorem add_option (r : Reading) {e : String × Tree} (h : isOption e = true) :
    r.add (.key e.1, .atom (.str e.1), ofTree e.2) =
      pure { r with others := r.others ++ settledEntries [e] } := by
  have hne := (isOption_iff e).1 h
  have hkey : (atom (.str e.1)).Shows (.str e.1) := rfl
  exact r.add_other hkey (hne .codeChangeRequest) (hne .push) (settle_ofTree e.2)

/-- Reading an entry gives a reading or fails. -/
theorem same_add (r : Reading) (e : String × Tree) :
    Same (r.add (.key e.1, .atom (.str e.1), ofTree e.2))
      (r.add (.key e.1, .atom (.str e.1), ofTree e.2)) := by
  have hkey : key (.key e.1, .atom (.str e.1), ofTree e.2) = pure e.1 := rfl
  have hread : ∀ before : Option (List Job),
      Same (readJobs before e.1 (.key e.1, .atom (.str e.1), ofTree e.2))
        (readJobs before e.1 (.key e.1, .atom (.str e.1), ofTree e.2)) := by
    intro before
    cases before with
    | none => exact (Job.alike.list e.2).left.under _ _
    | some js => exact .error _ _
  rw [add, hkey, pure_bind]
  split
  · exact (hread r.codeChangeRequestJobs).bind fun js => .value _
  · split
    · exact (hread r.pushJobs).bind fun js => .value _
    · rw [settle_ofTree, Decoded.under_pure, pure_bind]
      exact .value _

/-! ## All entries -/

theorem same_addAll (es : List (String × Tree)) (r : Reading) :
    Same (r.addAll (Source.ofEntries es)) (r.addAll (Source.ofEntries es)) := by
  induction es generalizing r with
  | nil => exact .value r
  | cons e es ih => exact (same_add r e).bind fun r => ih r

/-- The first list of jobs for a trigger must be one, and is kept. -/
theorem addAll_given_iff {r r' : Reading} {t : Trigger} (h : r.jobs t = none) (tree : Tree)
    (rest : List (PathStep × Source × Source)) :
    r.addAll ((.key (jobsKey t), .atom (.str (jobsKey t)), ofTree tree) :: rest) = pure r' ↔
      ∃ js, list Job.decode (ofTree tree) = pure js ∧
        (r.withJobs js t).addAll rest = pure r' := by
  have hjobs := Job.alike.list tree
  have hkey : (atom (.str (jobsKey t))).Shows (.str (jobsKey t)) := rfl
  rw [addAll, add_jobs hkey h, bind_assoc, (hjobs.under _ (.key (jobsKey t))).bind_eq_pure_iff]
  refine exists_congr fun js => and_congr (hjobs.mapError_eq_pure_iff _ js) ?_
  rw [pure_bind]

/-- The entries take one reading to the other: each list of jobs is the one read before or the
one under its key, and what is left of the entries is added, settled and in order. -/
structure Reads (es : List (String × Tree)) (r r' : Reading) : Prop where
  jobs : ∀ t, Takes es (jobsKey t) givenJobs (r.jobs t) (r'.jobs t)
  others : r'.others = r.others ++ settledEntries (es.filter isOption)

section Reads

variable {es : List (String × Tree)} {r r' : Reading}

theorem reads_nil : Reads [] r r' ↔ r = r' := by
  constructor
  · intro h
    refine (ext_jobs h.jobs ?_).symm
    rw [h.others, List.filter_nil, settledEntries, List.append_nil]
  · rintro rfl
    exact ⟨fun t => rfl, by rw [List.filter_nil, settledEntries, List.append_nil]⟩

theorem reads_option {e : String × Tree} (h : isOption e = true) :
    Reads (e :: es) r r' ↔ Reads es { r with others := r.others ++ settledEntries [e] } r' := by
  have hskip : ∀ t, (e :: es).lookup (jobsKey t) = es.lookup (jobsKey t) := fun t => by
    rw [OrderedMap.lookup_cons_eq_ite, if_neg ((isOption_iff e).1 h t).symm]
  have hothers : r.others ++ settledEntries [e] ++ settledEntries (es.filter isOption) =
      r.others ++ settledEntries ((e :: es).filter isOption) := by
    rw [List.filter_cons_of_pos h, List.append_assoc]
    rfl
  constructor
  · rintro ⟨hjobs, hrest⟩
    exact ⟨fun t => (takes_congr (hskip t)).1 (hjobs t), hrest.trans hothers.symm⟩
  · rintro ⟨hjobs, hrest⟩
    exact ⟨fun t => (takes_congr (hskip t)).2 (hjobs t), hrest.trans hothers⟩

/-- A list of jobs under its key is the same as one that has been read. -/
theorem takes_withJobs_iff {t : Trigger} {tree : Tree} {js : List Job}
    (hjs : list Job.decode (ofTree tree) = pure js) (hrest : es.lookup (jobsKey t) = none)
    (u : Trigger) (given : Option (List Job)) :
    Takes ((jobsKey t, tree) :: es) (jobsKey u) givenJobs (r.jobs u) given ↔
      Takes es (jobsKey u) givenJobs ((r.withJobs js t).jobs u) given := by
  by_cases hut : u = t
  · have hself : ((jobsKey t, tree) :: es).lookup (jobsKey t) = some tree := by
      rw [OrderedMap.lookup_cons_eq_ite, if_pos rfl]
    have hread : givenJobs (ofTree tree) = pure (some js) := by
      rw [givenJobs, hjs, map_pure]
    rw [hut, jobs_withJobs_self, takes_of_lookup_eq_some hself, takes_of_lookup_eq_none hrest,
      hread]
    exact ⟨fun h => (Decoded.pure_inj h).symm, fun h => congrArg pure h.symm⟩
  · rw [jobs_withJobs_of_ne r js hut]
    refine takes_congr ?_
    rw [OrderedMap.lookup_cons_eq_ite, if_neg fun h => hut (jobsKey_inj h)]

theorem reads_jobs {t : Trigger} {tree : Tree} (hrest : jobsKey t ∉ es.map Prod.fst) :
    Reads ((jobsKey t, tree) :: es) r r' ↔
      ∃ js, list Job.decode (ofTree tree) = pure js ∧ Reads es (r.withJobs js t) r' := by
  have hself : ((jobsKey t, tree) :: es).lookup (jobsKey t) = some tree := by
    rw [OrderedMap.lookup_cons_eq_ite, if_pos rfl]
  have hnone : es.lookup (jobsKey t) = none := OrderedMap.lookup_eq_none_of_not_mem hrest
  have hdrop : ¬ isOption (jobsKey t, tree) = true := fun h => (isOption_iff _).1 h t rfl
  constructor
  · rintro ⟨hjobs, hothers⟩
    have hgiven := (takes_of_lookup_eq_some hself).1 (hjobs t)
    obtain ⟨js, hjs, -⟩ := ((Job.alike.list tree).map_eq_pure_iff some _).1 hgiven
    rw [List.filter_cons_of_neg hdrop, ← others_withJobs r js t] at hothers
    exact ⟨js, hjs, fun u => (takes_withJobs_iff hjs hnone u _).1 (hjobs u), hothers⟩
  · rintro ⟨js, hjs, hjobs, hothers⟩
    rw [others_withJobs, ← List.filter_cons_of_neg hdrop] at hothers
    exact ⟨fun u => (takes_withJobs_iff hjs hnone u _).2 (hjobs u), hothers⟩

/-- **The entries of a section**, none of whose lists of jobs has been read before. -/
theorem addAll_iff (hkeys : (es.map Prod.fst).Nodup)
    (hfresh : ∀ t, r.jobs t ≠ none → jobsKey t ∉ es.map Prod.fst) :
    r.addAll (Source.ofEntries es) = pure r' ↔ Reads es r r' := by
  -- each entry changes the reading, and the rest goes on from there
  induction es generalizing r with
  | nil =>
      rw [reads_nil]
      exact ⟨Decoded.pure_inj, congrArg pure⟩
  | cons e es ih =>
      obtain ⟨key, tree⟩ := e
      rw [List.map_cons, List.nodup_cons] at hkeys
      have hlater : ∀ t, r.jobs t ≠ none → jobsKey t ∉ es.map Prod.fst := fun t ht hmem =>
        hfresh t ht (List.mem_cons_of_mem _ hmem)
      rw [Source.ofEntries]
      by_cases hoption : isOption (key, tree) = true
      · rw [addAll, add_option r hoption, pure_bind, reads_option hoption]
        exact ih hkeys.2 hlater
      · obtain ⟨t, rfl⟩ : ∃ t, key = jobsKey t := by
          simpa [isOption_iff] using hoption
        have hnone : r.jobs t = none := Classical.byContradiction fun hsome =>
          hfresh t hsome List.mem_cons_self
        -- from here on the list counts as read, and its key does not come again
        rw [addAll_given_iff hnone, reads_jobs hkeys.1]
        refine exists_congr fun js => and_congr_right fun _ => ih hkeys.2 fun u hu => ?_
        by_cases hut : u = t
        · exact hut ▸ hkeys.1
        · exact hlater u (jobs_withJobs_of_ne r js hut ▸ hu)

theorem addAll_empty_iff (hkeys : (es.map Prod.fst).Nodup) :
    empty.addAll (Source.ofEntries es) = pure r ↔ Reads es empty r :=
  addAll_iff hkeys fun t ht => absurd (jobs_empty t) ht

theorem Reads.others_eq (h : Reads es empty r) :
    r.others = settledEntries (es.filter isOption) :=
  h.others.trans (List.nil_append _)

end Reads

end Reading

/-! ## Sections -/

/-- A map is decoded to a section key by key: to options that it is decoded to alone, and to
the lists of jobs under their keys. -/
structure ByKey (p : Platform ρ δ) (es : List (String × Tree)) : Prop where
  /-- There is a section or an error, whatever number of references may be followed. -/
  decided : (∃ s, decode p.title p.shape (ofTree (.map es)) = pure s) ∨
    ∃ e, decode p.title p.shape (ofTree (.map es)) = Decoded.fail e
  /-- There is a section if there are options, and each list of jobs that is there is one. -/
  succeeds_iff : (∃ s, decode p.title p.shape (ofTree (.map es)) = pure s) ↔
    (∃ o, p.shape.decode (ofTree (.map es)) = pure o) ∧
      ∀ t tree, es.lookup (jobsKey t) = some tree →
        ∃ js, list Job.decode (ofTree tree) = pure js
  /-- The section has those options, and those lists of jobs or empty ones. -/
  decode_iff : ∀ s, decode p.title p.shape (ofTree (.map es)) = pure s ↔
    p.shape.decode (ofTree (.map es)) = pure s.options ∧
      ∀ t, Takes es (jobsKey t) (list Job.decode) [] (s.jobs t)
  /-- Only what is under the known keys matters, in whatever order and beside whatever else. -/
  unordered : ∀ es' : List (String × Tree), (es'.map Prod.fst).Nodup →
    (∀ f ∈ p.shape.fields, es'.lookup f.key = es.lookup f.key) →
    (∀ t, es'.lookup (jobsKey t) = es.lookup (jobsKey t)) →
    ∀ s, decode p.title p.shape (ofTree (.map es')) = pure s ↔
      decode p.title p.shape (ofTree (.map es)) = pure s

theorem decode_ofTree (title : String) (shape : Shape ρ) (es : List (String × Tree)) :
    decode title shape (ofTree (.map es)) = ofEntries shape (Source.ofEntries es) := rfl

section Loose

variable {shape : Shape ρ} (hloose : shape.Loose)
  (hapart : ∀ f ∈ shape.fields, ∀ t, f.key ≠ jobsKey t)
include hloose hapart

/-- The options are the same from what is left without the jobs. -/
theorem same_options (es : List (String × Tree)) :
    Same (shape.decode (ofTree (.map es)))
      (shape.ofEntries (settledEntries (es.filter isOption))) :=
  Shape.same_ofEntries hloose.alike isOption
    (fun e f hf hkey => (isOption_iff e).2 fun t => hkey ▸ hapart f hf t) es

theorem decode_eq_pure_iff {es : List (String × Tree)} (hkeys : (es.map Prod.fst).Nodup)
    (title : String) (s : Section ρ) :
    decode title shape (ofTree (.map es)) = pure s ↔
      shape.decode (ofTree (.map es)) = pure s.options ∧
        ∀ t, Takes es (jobsKey t) (list Job.decode) [] (s.jobs t) := by
  have hoptions := same_options hloose hapart es
  rw [decode_ofTree, ofEntries, (Reading.same_addAll es Reading.empty).bind_eq_pure_iff]
  constructor
  · rintro ⟨r, hrun, hsection⟩
    have hreads := (Reading.addAll_empty_iff hkeys).1 hrun
    -- an error in the options loses its place, but it stays an error
    rw [hreads.others_eq, (hoptions.symm.mapError _ id).bind_eq_pure_iff] at hsection
    obtain ⟨o, ho, hs⟩ := hsection
    obtain rfl := Decoded.pure_inj hs
    refine ⟨(hoptions.eq_pure_iff o).2 ((hoptions.symm.mapError_eq_pure_iff _ o).1 ho), ?_⟩
    intro t
    refine (takes_givenJobs _).1 ⟨r.jobs t, Reading.jobs_empty t ▸ hreads.jobs t, ?_⟩
    cases t <;> rfl
  · rintro ⟨ho, hjobs⟩
    obtain ⟨request, hrequest, hrequested⟩ := (takes_givenJobs _).2 (hjobs .codeChangeRequest)
    obtain ⟨push, hpush, hpushed⟩ := (takes_givenJobs _).2 (hjobs .push)
    have hreads : Reading.Reads es .empty ⟨request, push, settledEntries (es.filter isOption)⟩ := by
      refine ⟨fun t => ?_, rfl⟩
      cases t with
      | codeChangeRequest => exact hrequest
      | push => exact hpush
    refine ⟨_, (Reading.addAll_empty_iff hkeys).2 hreads, ?_⟩
    have hsettled := (hoptions.eq_pure_iff s.options).1 ho
    rw [hsettled, Decoded.mapError_pure, pure_bind, hrequested, hpushed]
    rfl

theorem decode_decided {es : List (String × Tree)} (hkeys : (es.map Prod.fst).Nodup)
    (title : String) :
    (∃ s, decode title shape (ofTree (.map es)) = pure s) ∨
      ∃ e, decode title shape (ofTree (.map es)) = Decoded.fail e := by
  rw [decode_ofTree, ofEntries]
  rcases (Reading.same_addAll es Reading.empty).cases_left with ⟨r, hr⟩ | ⟨e, he⟩
  · rw [hr, pure_bind, ((Reading.addAll_empty_iff hkeys).1 hr).others_eq]
    rcases (same_options hloose hapart es).symm.cases_left with ⟨o, ho⟩ | ⟨e, he⟩
    · rw [ho]
      exact Or.inl ⟨_, rfl⟩
    · rw [he]
      exact Or.inr ⟨_, rfl⟩
  · rw [he]
    exact Or.inr ⟨e, rfl⟩

end Loose

/-- **A section is decoded key by key** if its options may come in any order and none of them
has the key of a list of jobs. -/
theorem byKey (p : Platform ρ δ) (hloose : p.shape.Loose)
    (hapart : ∀ f ∈ p.shape.fields, ∀ t, f.key ≠ jobsKey t) {es : List (String × Tree)}
    (hkeys : (es.map Prod.fst).Nodup) : ByKey p es where
  decided := decode_decided hloose hapart hkeys p.title
  decode_iff := decode_eq_pure_iff hloose hapart hkeys p.title
  succeeds_iff := by
    simp only [decode_eq_pure_iff hloose hapart hkeys p.title]
    constructor
    · rintro ⟨s, ho, hjobs⟩
      exact ⟨⟨s.options, ho⟩, fun t tree htree =>
        ⟨s.jobs t, (takes_of_lookup_eq_some htree).1 (hjobs t)⟩⟩
    · rintro ⟨⟨o, ho⟩, hjobs⟩
      have hlists : ∀ t, ∃ js, Takes es (jobsKey t) (list Job.decode) [] js := by
        intro t
        cases hlookup : es.lookup (jobsKey t) with
        | none => exact ⟨[], (takes_of_lookup_eq_none hlookup).2 rfl⟩
        | some tree =>
            obtain ⟨js, hjs⟩ := hjobs t tree hlookup
            exact ⟨js, (takes_of_lookup_eq_some hlookup).2 hjs⟩
      obtain ⟨request, hrequest⟩ := hlists .codeChangeRequest
      obtain ⟨push, hpush⟩ := hlists .push
      refine ⟨⟨o, request, push⟩, ho, fun t => ?_⟩
      cases t with
      | codeChangeRequest => exact hrequest
      | push => exact hpush
  unordered := by
    intro es' hkeys' hfields hjobs s
    rw [decode_eq_pure_iff hloose hapart hkeys, decode_eq_pure_iff hloose hapart hkeys',
      hloose.decode_iff hkeys, hloose.decode_iff hkeys', fills_congr hfields]
    exact and_congr_right fun _ => forall_congr' fun t => takes_congr (hjobs t)

end Section

/-- **Sections and options are decoded key by key.** A map with distinct keys is decoded to a
section of either platform as its options and its lists of jobs are decoded each on its own.
Every option is what the value of its key is decoded to, and what a section that sets none has
where the key is not there; so are the rules for each trigger inside the rules. -/
theorem sections_decoded_by_key (es : List (String × Tree)) (hkeys : (es.map Prod.fst).Nodup) :
    Section.ByKey GitHub.platform es ∧ Section.ByKey GitLab.platform es ∧
      (∀ o, GitHub.Options.decode (ofTree (.map es)) = pure o ↔
        GitHub.Options.TakenFrom es o) ∧
      (∀ o, GitLab.Options.decode (ofTree (.map es)) = pure o ↔
        GitLab.Options.TakenFrom es o) ∧
      ∀ r, GitLab.TriggerRules.decode (ofTree (.map es)) = pure r ↔
        GitLab.TriggerRules.TakenFrom es r := by
  have hhub : ∀ f ∈ GitHub.platform.shape.fields, ∀ t, f.key ≠ Section.jobsKey t := by
    intro f hf t
    cases t <;> revert f <;> decide
  have hlab : ∀ f ∈ GitLab.platform.shape.fields, ∀ t, f.key ≠ Section.jobsKey t := by
    intro f hf t
    cases t <;> revert f <;> decide
  exact ⟨Section.byKey GitHub.platform GitHub.Options.loose hhub hkeys,
    Section.byKey GitLab.platform GitLab.Options.loose hlab hkeys,
    GitHub.Options.decode_iff hkeys, GitLab.Options.decode_iff hkeys,
    GitLab.TriggerRules.decode_iff hkeys⟩

/-- A map for either platform: a list of jobs before an option of one platform and an option
of the other, with rules for one trigger only, and with a key that neither knows. -/
def mixedEntries : List (String × Tree) := [
  ("push_jobs", .list [.map [("steps", .list []), ("name", .str "Release")]]),
  ("note", .null),
  ("rules", .map [("push", .list [.str "$CI_COMMIT_TAG"])]),
  ("default_runner", .str "self-hosted")]

/-- What the map is decoded to: what it does not name is unset, also inside the rules. -/
theorem mixedEntries_decoded :
    (mixedEntries.map Prod.fst).Nodup ∧
      Section.decode GitHub.platform.title GitHub.platform.shape (ofTree (.map mixedEntries)) =
        pure ⟨{ GitHub.Options.unset with defaultRunner := "self-hosted" }, [],
          [⟨"Release", [], none, none⟩]⟩ ∧
      Section.decode GitLab.platform.title GitLab.platform.shape (ofTree (.map mixedEntries)) =
        pure ⟨{ GitLab.Options.unset with
            rules := { GitLab.TriggerRules.unset with push := ["$CI_COMMIT_TAG"] } }, [],
          [⟨"Release", [], none, none⟩]⟩ := by
  have hkeys : (mixedEntries.map Prod.fst).Nodup := by decide
  obtain ⟨hhub, hlab, hhubOptions, hlabOptions, -⟩ := sections_decoded_by_key mixedEntries hkeys
  obtain ⟨-, -, -, -, hrules⟩ :=
    sections_decoded_by_key [("push", .list [.str "$CI_COMMIT_TAG"])] (by decide)
  refine ⟨hkeys, (hhub.decode_iff _).2 ⟨(hhubOptions _).2 ?_, ?_⟩,
    (hlab.decode_iff _).2 ⟨(hlabOptions _).2 ?_, ?_⟩⟩
  · exact ⟨rfl, rfl, rfl, rfl⟩
  · intro t
    cases t <;> rfl
  · exact ⟨rfl, rfl, rfl, rfl, rfl, rfl, rfl, (hrules _).2 ⟨rfl, rfl⟩, rfl⟩
  · intro t
    cases t <;> rfl

end CiPipeline

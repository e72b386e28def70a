import CiPipeline.Definition.Load
import CiPipeline.Proofs.Presenting

set_option autoImplicit false

/-! # Definitions are restored from their trees

What a definition is written as is decoded to the same definition, and so are the steps, jobs
and options in it. A key that is left out stands for what the record holds without it, so a
key may be left out only for that value; an option whose list is empty by choice is written
as the empty list.

The induction is on the fields of a record. Its fields come in the order of its keys, each
written once or left out, and `Writes` says for a list of entries that they take a record
from what it holds before to what it holds after. Step, job, options and definition are
each one chain of such entries.
-/

namespace CiPipeline

open Decode

namespace Decode

variable {ρ α : Type}

/-! ## Entries that set the fields of a record -/

/-- The entries set these fields in turn, which takes the first record to the second one. A
field that need not be there may be left out. -/
inductive Writes : List (Field ρ) → List (String × Tree) → ρ → ρ → Prop
  | done (r : ρ) : Writes [] [] r r
  | write {f : Field ρ} {fs : List (Field ρ)} {t : Tree} {es : List (String × Tree)}
      {r r' r'' : ρ} (set : ρ → ρ)
      (hread : ∀ {src : Source}, src.Presents t → f.read src = pure set) (hset : set r = r')
      (rest : Writes fs es r' r'') : Writes (f :: fs) ((f.key, t) :: es) r r''
  | leave {f : Field ρ} {fs : List (Field ρ)} {es : List (String × Tree)} {r r' : ρ}
      (hfree : f.required = false) (rest : Writes fs es r r') : Writes (f :: fs) es r r'

namespace Writes

variable {fs : List (Field ρ)} {es : List (String × Tree)} {r r' : ρ} {key : String}
  {decode : Decoder α} {toTree : α → Tree} {set : α → ρ → ρ}

/-- Entries have the keys of fields. -/
theorem mem_keys (h : Writes fs es r r') : ∀ e ∈ es, e.1 ∈ fs.map (·.key) := by
  induction h with
  | done => exact fun _ he => absurd he List.not_mem_nil
  | write set hread hset rest ih =>
      intro e he
      rcases List.mem_cons.1 he with rfl | he
      · exact List.mem_cons_self
      · exact List.mem_cons_of_mem _ (ih e he)
  | leave hfree rest ih => exact fun e he => List.mem_cons_of_mem _ (ih e he)

theorem map_set {x : Decoded α} {a : α} (h : x = pure a) (set : α → ρ → ρ) :
    set <$> x = pure (set a) := by
  rw [h, map_pure]

/-- A key that must be there. -/
theorem require (hd : Restores decode toTree) (a : α) (rest : Writes fs es (set a r) r') :
    Writes (.require key decode set :: fs) ((key, toTree a) :: es) r r' :=
  write (set a) (fun h => map_set (hd a h) set) rfl rest

/-- A key that is always written. -/
theorem allow (hd : Restores decode toTree) (a : α) (rest : Writes fs es (set a r) r') :
    Writes (.allow key decode set :: fs) ((key, toTree a) :: es) r r' :=
  write (set a) (fun h => map_set (hd a h) set) rfl rest

/-- A key that is left out without a value, which the record does not have before either. -/
theorem optional {set : Option α → ρ → ρ} (hd : Restores decode toTree)
    (hnull : ∀ a, toTree a ≠ .null) (o : Option α) (hblank : set none r = r)
    (rest : Writes fs es (set o r) r') :
    Writes (.allow key (Decode.optional decode) set :: fs)
      (Tree.optional key toTree o ++ es) r r' := by
  cases o with
  | none => exact leave rfl (hblank ▸ rest)
  | some a =>
      exact write (set (some a)) (fun h => map_set (optional_of_presents hd a (hnull a) h) set)
        rfl rest

/-- A key that is left out for a value without any items, which the record has before. -/
theorem unlessEmptyItems {β : Type} (items : α → List β) {toTree : List β → Tree}
    (hd : Restores decode fun a => toTree (items a)) (a : α)
    (hblank : items a = [] → set a r = r) (rest : Writes fs es (set a r) r') :
    Writes (.allow key decode set :: fs) (Tree.unlessEmpty key toTree (items a) ++ es) r r' := by
  unfold Tree.unlessEmpty
  split
  · rename_i hempty
    rw [hblank (List.isEmpty_iff.1 hempty)] at rest
    exact leave rfl rest
  · exact allow hd a rest

/-- A key that is left out for the empty list, which the record has before. -/
theorem unlessEmpty {decode : Decoder (List α)} {toTree : List α → Tree}
    {set : List α → ρ → ρ} (hd : Restores decode toTree) (as : List α) (hblank : set [] r = r)
    (rest : Writes fs es (set as r) r') :
    Writes (.allow key decode set :: fs) (Tree.unlessEmpty key toTree as ++ es) r r' := by
  refine unlessEmptyItems id hd as (fun h => ?_) rest
  rw [show as = [] from h]
  exact hblank

end Writes

/-! ## Records -/

namespace Shape

variable {shape : Shape ρ} {toTree : ρ → Tree}

/-- The tree of a record is a map whose entries set the fields, of which no two have one key. -/
structure Inverts (shape : Shape ρ) (toTree : ρ → Tree) : Prop where
  distinct : (shape.fields.map (·.key)).Nodup
  writes : ∀ r, ∃ ts, toTree r = .map ts ∧ Writes shape.fields ts shape.blank r

theorem field?_of_shows (shape : Shape ρ) {key : Source} {name : String}
    (h : key.Shows (.str name)) :
    shape.field? key = pure (shape.fields.find? fun f => f.key == name) := by
  rcases h.cases with rfl | ⟨w, rfl, htag, hatom⟩
  · rfl
  · rw [← Yaml.Scalar.text_eq htag hatom]
    rfl

/-- Of fields with distinct keys each is found under its key. -/
theorem find?_key {fs : List (Field ρ)} (distinct : (fs.map (·.key)).Nodup) {f : Field ρ}
    (hf : f ∈ fs) : (fs.find? fun g => g.key == f.key) = some f := by
  induction fs with
  | nil => exact absurd hf List.not_mem_nil
  | cons g gs ih =>
      rw [List.map_cons, List.nodup_cons] at distinct
      rcases List.mem_cons.1 hf with rfl | hf
      · simp
      · have hne : g.key ≠ f.key := fun h => distinct.1 (h ▸ List.mem_map_of_mem hf)
        rw [List.find?_cons_of_neg (by simpa using hne), ih distinct.2 hf]

section Entry

variable {seen : List String} {r : ρ} {step : PathStep} {name value : Source} {key : String}
  {f : Field ρ}

/-- An entry whose key no field has is passed over. -/
theorem readEntries_of_unknown (hkey : name.Shows (.str key))
    (h : (shape.fields.find? fun f => f.key == key) = none)
    (rest : List (PathStep × Source × Source)) :
    shape.readEntries seen r ((step, name, value) :: rest) = shape.readEntries seen r rest := by
  rw [readEntries, field?_of_shows shape hkey, h, pure_bind]

/-- An entry with the key of a field sets that field, unless it has been seen. -/
theorem readEntries_of_known (hkey : name.Shows (.str key))
    (h : (shape.fields.find? fun f => f.key == key) = some f)
    (rest : List (PathStep × Source × Source)) :
    shape.readEntries seen r ((step, name, value) :: rest) =
      if seen.contains f.key then Decoded.failure (.duplicateField f.key)
      else Decoded.under step (f.read value) >>= fun set =>
        shape.readEntries (f.key :: seen) (set r) rest := by
  rw [readEntries, field?_of_shows shape hkey, h, pure_bind]

/-- One entry sets its field if that has not been seen. -/
theorem readEntries_cons (distinct : (shape.fields.map (·.key)).Nodup) (hf : f ∈ shape.fields)
    (hseen : f.key ∉ seen) {set : ρ → ρ} (hkey : name.Shows (.str f.key))
    (hread : f.read value = pure set) (rest : List (PathStep × Source × Source)) :
    shape.readEntries seen r ((step, name, value) :: rest) =
      shape.readEntries (f.key :: seen) (set r) rest := by
  have hcontains : ¬ seen.contains f.key = true := by simpa using hseen
  rw [readEntries_of_known hkey (find?_key distinct hf), if_neg hcontains, hread,
    Decoded.under_pure, pure_bind]

end Entry

/-- **All entries.** Fields that come later have not been seen, and all that must be there
are seen in the end. -/
theorem readEntries_of_writes (distinct : (shape.fields.map (·.key)).Nodup)
    {fs : List (Field ρ)} {ts : List (String × Tree)} {r r' : ρ} (h : Writes fs ts r r')
    (hfs : fs.Sublist shape.fields) {seen : List String} (hseen : ∀ f ∈ fs, f.key ∉ seen)
    {es : List (PathStep × Source × Source)} (hes : Source.PresentsEntries es ts) :
    ∃ seen', shape.readEntries seen r es = pure (seen', r') ∧ seen ⊆ seen' ∧
      ∀ f ∈ fs, f.required = true → f.key ∈ seen' := by
  -- an entry removes its field from those to come and adds the key to those that were seen
  induction h generalizing seen es with
  | done r =>
      rw [show es = [] from hes]
      exact ⟨seen, rfl, fun _ h => h, fun _ hf => absurd hf List.not_mem_nil⟩
  | @write f fs t ts r r' r'' set hread hset rest ih =>
      obtain ⟨e, es, rfl, hkey, hvalue, hes⟩ := hes
      have hf : f ∈ shape.fields := hfs.subset List.mem_cons_self
      have hnodup : ((f :: fs).map (·.key)).Nodup := distinct.sublist (hfs.map _)
      have hlater : ∀ g ∈ fs, g.key ∉ f.key :: seen := by
        intro g hg hmem
        rcases List.mem_cons.1 hmem with heq | hmem
        · exact (List.nodup_cons.1 hnodup).1 (List.mem_map.2 ⟨g, hg, heq⟩)
        · exact hseen g (List.mem_cons_of_mem f hg) hmem
      obtain ⟨seen', hrun, hsub, hrequired⟩ :=
        ih ((List.sublist_cons_self f fs).trans hfs) hlater hes
      have hfirst : f.key ∈ seen' := hsub List.mem_cons_self
      refine ⟨seen', ?_, fun k hk => hsub (List.mem_cons_of_mem _ hk), fun g hg hreq => ?_⟩
      · rw [readEntries_cons distinct hf (hseen f List.mem_cons_self) hkey (hread hvalue),
          hset, hrun]
      · rcases List.mem_cons.1 hg with rfl | hg
        · exact hfirst
        · exact hrequired g hg hreq
  | @leave f fs ts r r' hfree rest ih =>
      have hlater : ∀ g ∈ fs, g.key ∉ seen := fun g hg => hseen g (List.mem_cons_of_mem f hg)
      obtain ⟨seen', hrun, hsub, hrequired⟩ :=
        ih ((List.sublist_cons_self f fs).trans hfs) hlater hes
      refine ⟨seen', hrun, hsub, fun g hg hreq => ?_⟩
      rcases List.mem_cons.1 hg with rfl | hg
      · exact absurd (hfree.symm.trans hreq) Bool.false_ne_true
      · exact hrequired g hg hreq

/-- A record is got back from its entries. -/
theorem Inverts.ofEntries (h : shape.Inverts toTree) (r : ρ) {ts : List (String × Tree)}
    (ht : toTree r = .map ts) {es : List (PathStep × Source × Source)}
    (hes : Source.PresentsEntries es ts) : shape.ofEntries es = pure r := by
  obtain ⟨ts', ht', hwrites⟩ := h.writes r
  obtain rfl : ts = ts' := Tree.map.inj (ht.symm.trans ht')
  obtain ⟨seen, hrun, -, hrequired⟩ := readEntries_of_writes h.distinct hwrites
    (List.Sublist.refl _) (fun _ _ => List.not_mem_nil) hes
  have hmissing : (shape.fields.find? fun f => f.required && !seen.contains f.key) = none := by
    rw [List.find?_eq_none]
    intro f hf hreq
    rw [Bool.and_eq_true, Bool.not_eq_true'] at hreq
    have hmem : f.key ∈ seen := hrequired f hf hreq.1
    exact absurd (List.contains_iff_mem.2 hmem) (by rw [hreq.2]; exact Bool.false_ne_true)
  rw [Shape.ofEntries, hrun, pure_bind]
  simp only [hmissing]

/-- **A record is restored from its tree.** -/
theorem Inverts.restores (h : shape.Inverts toTree) : Restores shape.decode toTree := by
  intro r src hsrc
  have hfollowed := hsrc.followed
  obtain ⟨ts, ht, -⟩ := h.writes r
  rw [ht] at hsrc
  obtain ⟨dialect, es, rfl, hes⟩ := hsrc
  rw [Shape.decode, hfollowed, pure_bind]
  exact h.ofEntries r ht hes

end Shape

end Decode

/-! ## Steps and jobs -/

theorem ArtifactDependency.restores : Restores decode toTree := by
  have hinverts : shape.Inverts toTree :=
    ⟨by decide, fun d => ⟨_, rfl, .require restores_string d.jobName (.done d)⟩⟩
  exact hinverts.restores

theorem Step.inverts : shape.Inverts toTree := by
  refine ⟨by decide, fun s => ⟨_, rfl, ?_⟩⟩
  -- what is left out is what the step without any keys holds, so each `rfl` compares the two
  have hvariables : s.environmentVariables.entries = [] → s.environmentVariables = .empty :=
    fun h => SortedMap.ext h
  refine .optional restores_string (fun _ => Tree.noConfusion) s.name rfl ?_
  refine .require restores_strings s.commands ?_
  refine .unlessEmptyItems SortedMap.entries restores_texts s.environmentVariables
    (fun h => by rw [hvariables h]; rfl) ?_
  refine .unlessEmpty restores_strings s.artifactDirectories rfl ?_
  refine .unlessEmpty (restores_list ArtifactDependency.restores) s.artifactDependencies rfl ?_
  refine .unlessEmpty restores_strings s.jobDependencies rfl ?_
  exact .done s

theorem Job.inverts : shape.Inverts toTree := by
  refine ⟨by decide, fun j => ⟨_, rfl, ?_⟩⟩
  refine .require restores_string j.name ?_
  refine .allow (restores_list Step.inverts.restores) j.steps ?_
  refine .optional restores_string (fun _ => Tree.noConfusion) j.environment rfl ?_
  refine .optional restores_string (fun _ => Tree.noConfusion) j.concurrencyGroup rfl ?_
  exact .done j

/-! ## Options -/

theorem GitHub.Options.inverts : shape.Inverts toTree := by
  refine ⟨by decide, fun o => ⟨_, rfl, ?_⟩⟩
  -- options hold something without any keys, so none of them may be left out for being empty
  refine .allow restores_string o.codeChangeRequestWorkflowName ?_
  refine .allow restores_string o.pushWorkflowName ?_
  refine .allow restores_string o.defaultRunner ?_
  refine .allow restores_strings o.branches ?_
  exact .done o

theorem GitLab.TriggerRules.inverts : shape.Inverts toTree := by
  refine ⟨by decide, fun r => ⟨_, rfl, ?_⟩⟩
  refine .allow restores_strings r.codeChangeRequest ?_
  refine .allow restores_strings r.push ?_
  exact .done r

theorem GitLab.Options.inverts : shape.Inverts toTree := by
  refine ⟨by decide, fun o => ⟨_, rfl, ?_⟩⟩
  refine .allow restores_string o.codeChangeRequestWorkflowName ?_
  refine .allow restores_string o.pushWorkflowName ?_
  refine .allow restores_strings o.services ?_
  refine .allow restores_strings o.beforeScript ?_
  refine .allow restores_strings o.defaultTags ?_
  refine .allow restores_string o.artifactExpiry ?_
  refine .allow restores_names o.manualJobs ?_
  refine .allow GitLab.TriggerRules.inverts.restores o.rules ?_
  refine .allow restores_bool o.placeholderJob ?_
  exact .done o

/-! ## Sections -/

namespace Section

variable {ρ δ : Type}

/-- The key of the jobs for a trigger. -/
def jobsKey : Trigger → String
  | .codeChangeRequest => codeChangeRequestKey
  | .push => pushKey

theorem Reading.key_of_shows {e : PathStep × Source × Source} {name : String}
    (h : e.2.1.Shows (.str name)) : Reading.key e = pure name := by
  rcases h.cases with hatom | ⟨w, hwritten, htag, hatom⟩
  · rw [Reading.key, hatom]
    rfl
  · rw [Reading.key, hwritten, ← Yaml.Scalar.text_eq htag hatom]
    rfl

/-- The jobs for a trigger as far as they have been read. -/
def Reading.jobs (r : Reading) : Trigger → Option (List Job)
  | .codeChangeRequest => r.codeChangeRequestJobs
  | .push => r.pushJobs

def Reading.withJobs (r : Reading) (js : List Job) : Trigger → Reading
  | .codeChangeRequest => { r with codeChangeRequestJobs := some js }
  | .push => { r with pushJobs := some js }

/-- The first list of jobs for a trigger. -/
theorem Reading.add_jobs {r : Reading} {t : Trigger} {e : PathStep × Source × Source}
    (hkey : e.2.1.Shows (.str (jobsKey t))) (h : r.jobs t = none) :
    r.add e = (list Job.decode e.2.2).under e.1 >>= fun js => pure (r.withJobs js t) := by
  rw [Reading.add, key_of_shows hkey, pure_bind]
  cases t with
  | codeChangeRequest =>
      have hnone : r.codeChangeRequestJobs = none := h
      have heq : jobsKey .codeChangeRequest = codeChangeRequestKey := rfl
      rw [if_pos heq, hnone]
      rfl
  | push =>
      have hnone : r.pushJobs = none := h
      have hne : jobsKey .push ≠ codeChangeRequestKey := by decide
      have heq : jobsKey .push = pushKey := rfl
      rw [if_neg hne, if_pos heq, hnone]
      rfl

/-- An entry that is no list of jobs is kept for the options, with its types settled. -/
theorem Reading.add_other (r : Reading) {e : PathStep × Source × Source} {name : String}
    {value : Source} (hkey : e.2.1.Shows (.str name)) (hrequest : name ≠ codeChangeRequestKey)
    (hpush : name ≠ pushKey) (hvalue : e.2.2.settle = pure value) :
    r.add e = pure { r with others := r.others ++ [(e.1, .atom (.str name), value)] } := by
  rw [Reading.add, key_of_shows hkey, pure_bind, if_neg hrequest, if_neg hpush, hvalue,
    Decoded.under_pure, pure_bind]

/-- Entries that are no lists of jobs are kept for the options, with their types settled. -/
theorem Reading.addAll_options {ts : List (String × Tree)}
    (hkeys : ∀ t ∈ ts, t.1 ≠ codeChangeRequestKey ∧ t.1 ≠ pushKey) (r : Reading)
    {es : List (PathStep × Source × Source)} (hes : Source.PresentsEntries es ts)
    (rest : List (PathStep × Source × Source)) :
    ∃ settled, Source.PresentsEntries settled ts ∧
      r.addAll (es ++ rest) = ({ r with others := r.others ++ settled } : Reading).addAll rest := by
  induction ts generalizing r es with
  | nil =>
      rw [show es = [] from hes]
      exact ⟨[], rfl, by rw [List.append_nil, List.nil_append]⟩
  | cons t ts ih =>
      obtain ⟨e, es, rfl, hkey, hvalue, hes⟩ := hes
      obtain ⟨v, hv, hpv⟩ := hvalue.settle
      obtain ⟨hrequest, hpush⟩ := hkeys t List.mem_cons_self
      have hadd : r.add e =
          pure { r with others := r.others ++ [(e.1, .atom (.str t.1), v)] } :=
        r.add_other hkey hrequest hpush hv
      obtain ⟨settled, hsettled, hrun⟩ :=
        ih (fun t ht => hkeys t (List.mem_cons_of_mem _ ht))
          { r with others := r.others ++ [(e.1, .atom (.str t.1), v)] } hes
      refine ⟨(e.1, .atom (.str t.1), v) :: settled, ⟨_, settled, rfl, rfl, hpv, hsettled⟩, ?_⟩
      rw [List.cons_append, Reading.addAll, hadd, pure_bind, hrun, List.append_assoc,
        List.singleton_append]

/-- Both lists of jobs, after the options. -/
theorem Reading.addAll_jobs (others : List (PathStep × Source × Source)) (request push : List Job)
    {es : List (PathStep × Source × Source)}
    (hes : Source.PresentsEntries es [(codeChangeRequestKey, .list (request.map (·.toTree))),
      (pushKey, .list (push.map (·.toTree)))]) :
    (⟨none, none, others⟩ : Reading).addAll es = pure ⟨some request, some push, others⟩ := by
  obtain ⟨e, es, rfl, hkey, hvalue, e', es', rfl, hkey', hvalue', rfl⟩ := hes
  have hrequest : list Job.decode e.2.2 = pure request :=
    restores_list Job.inverts.restores request hvalue
  have hpush : list Job.decode e'.2.2 = pure push :=
    restores_list Job.inverts.restores push hvalue'
  have hfirst : (⟨none, none, others⟩ : Reading).add e = pure ⟨some request, none, others⟩ := by
    have hshows : e.2.1.Shows (.str (jobsKey .codeChangeRequest)) := hkey
    rw [Reading.add_jobs hshows rfl, hrequest, Decoded.under_pure, pure_bind]
    rfl
  have hsecond : (⟨some request, none, others⟩ : Reading).add e' =
      pure ⟨some request, some push, others⟩ := by
    have hshows : e'.2.1.Shows (.str (jobsKey .push)) := hkey'
    rw [Reading.add_jobs hshows rfl, hpush, Decoded.under_pure, pure_bind]
    rfl
  rw [Reading.addAll, hfirst, pure_bind, Reading.addAll, hsecond, pure_bind, Reading.addAll]

/-- **A section is restored** if its options are and none of them has the key of a list of
jobs: options and jobs share one map, and each of its entries goes to one of the two. -/
theorem restores (p : Platform ρ δ) (title : String)
    (hoptions : p.shape.Inverts fun o => .map (p.entries o))
    (hkeys : ∀ k ∈ p.shape.fields.map (·.key), k ≠ codeChangeRequestKey ∧ k ≠ pushKey) :
    Restores (Section.decode title p.shape) (Section.toTree p) := by
  intro s src h
  have hfollowed := h.followed
  obtain ⟨dialect, es, rfl, hes⟩ := h
  obtain ⟨options, jobs, rfl, hopts, hjobs⟩ := Source.presentsEntries_append hes
  have hfree : ∀ t ∈ p.entries s.options, t.1 ≠ codeChangeRequestKey ∧ t.1 ≠ pushKey := by
    -- the entries have the keys of fields, and no field has the key of a list of jobs
    intro t ht
    obtain ⟨ts, hts, hwrites⟩ := hoptions.writes s.options
    rw [Tree.map.inj hts] at ht
    exact hkeys t.1 (hwrites.mem_keys t ht)
  obtain ⟨settled, hsettled, hrun⟩ :=
    Reading.addAll_options hfree Reading.empty hopts jobs
  have hread : Reading.empty.addAll (options ++ jobs) =
      pure ⟨some s.codeChangeRequestJobs, some s.pushJobs, settled⟩ :=
    hrun.trans (Reading.addAll_jobs settled s.codeChangeRequestJobs s.pushJobs hjobs)
  have hofEntries : p.shape.ofEntries settled = pure s.options :=
    hoptions.ofEntries s.options rfl hsettled
  rw [Section.decode, hfollowed, pure_bind]
  show Section.ofEntries p.shape (options ++ jobs) = pure s
  rw [Section.ofEntries, hread, pure_bind, hofEntries, Decoded.mapError_pure, pure_bind]
  rfl

end Section

/-! ## Definitions -/

theorem Definition.inverts : shape.Inverts toTree := by
  have hhub : Restores (Section.decode GitHub.platform.title GitHub.platform.shape)
      (Section.toTree GitHub.platform) :=
    Section.restores GitHub.platform _ GitHub.Options.inverts (by decide)
  have hlab : Restores (Section.decode GitLab.platform.title GitLab.platform.shape)
      (Section.toTree GitLab.platform) :=
    Section.restores GitLab.platform _ GitLab.Options.inverts (by decide)
  refine ⟨by decide, fun d => ⟨_, rfl, ?_⟩⟩
  refine .optional hhub (fun _ => Tree.noConfusion) d.gitHub rfl ?_
  refine .optional hlab (fun _ => Tree.noConfusion) d.gitLab rfl ?_
  exact .done d

/-- **Nothing is lost or confused in a tree**: definitions, steps, jobs and options are
decoded from their own trees as they were, without following any reference. -/
theorem decode_ofTree_toTree :
    (∀ d : Definition, Definition.decode (Source.ofTree d.toTree) = pure d) ∧
    (∀ s : Step, Step.decode (Source.ofTree s.toTree) = pure s) ∧
    (∀ j : Job, Job.decode (Source.ofTree j.toTree) = pure j) ∧
    (∀ o : GitHub.Options, GitHub.Options.decode (Source.ofTree o.toTree) = pure o) ∧
    (∀ o : GitLab.Options, GitLab.Options.decode (Source.ofTree o.toTree) = pure o) ∧
    ∀ r : GitLab.TriggerRules,
      GitLab.TriggerRules.decode (Source.ofTree r.toTree) = pure r := by
  refine ⟨fun d => ?_, fun s => ?_, fun j => ?_, fun o => ?_, fun o => ?_, fun r => ?_⟩
  · exact Definition.inverts.restores d (Source.presents_ofTree d.toTree)
  · exact Step.inverts.restores s (Source.presents_ofTree s.toTree)
  · exact Job.inverts.restores j (Source.presents_ofTree j.toTree)
  · exact GitHub.Options.inverts.restores o (Source.presents_ofTree o.toTree)
  · exact GitLab.Options.inverts.restores o (Source.presents_ofTree o.toTree)
  · exact GitLab.TriggerRules.inverts.restores r (Source.presents_ofTree r.toTree)

/-- A text is read as a definition if the YAML in it presents the definition's tree, even
where other parts of the document have no value. -/
theorem Definition.ofText_of_presents {d : Definition} (path : Path) {text : String}
    {document : Yaml.Document} (hread : Yaml.read? text = some document)
    (h : document.source.Presents d.toTree) : Definition.ofText path .yaml text = .ok d := by
  have hdecode : Definition.decode document.source = pure d := Definition.inverts.restores d h
  simp only [Definition.ofText, Format.read, hread, hdecode, Decoded.result_pure, Format.judge]

/-- An empty list of branches is not the one that is left out. -/
example :
    (Definition.ofText ⟨"cicd.yaml"⟩ .yaml "github:\n  branches: []\n").toOption =
      some ⟨some ⟨{ GitHub.Options.unset with branches := [] }, [], []⟩, none⟩ := by
  decide +kernel

end CiPipeline

import CiPipeline.Decode.Basic

set_option autoImplicit false

/-! # Sources that present trees

A source presents a tree if reading finds the tree in it: the scalars have the types and
values of those in the tree, and lists and maps have the same items and entries. The scalars
may have settled types or be written without a tag, and lists and maps may come from any
format, so one relation covers trees as they are, texts that were written from trees, and
what settling makes of either.

Decoding looks at what is presented only: texts, truth values, lists and maps of texts are
got back from whatever presents them.
-/

namespace CiPipeline

open Decode

namespace Source

/-! ## The relation -/

/-- The source is this scalar. -/
def Shows : Source → Atom → Prop
  | atom b, a => b = a
  | written s, a => s.tag = none ∧ s.atom? = some a
  | _, _ => False

mutual

/-- The source presents the tree. -/
def Presents : Source → Tree → Prop
  | src, .null => src.Shows .null
  | src, .bool b => src.Shows (.bool b)
  | src, .int n => src.Shows (.int n)
  | src, .float x => src.Shows (.float x)
  | src, .str s => src.Shows (.str s)
  | src, .list ts => ∃ dialect xs, src = list dialect xs ∧ PresentsItems xs ts
  | src, .map fs => ∃ dialect es, src = map dialect es ∧ PresentsEntries es fs

/-- The sources present the trees, one each. -/
def PresentsItems : List Source → List Tree → Prop
  | xs, [] => xs = []
  | xs, t :: ts => ∃ x rest, xs = x :: rest ∧ x.Presents t ∧ PresentsItems rest ts

/-- The entries present the named trees, one each. -/
def PresentsEntries : List (PathStep × Source × Source) → List (String × Tree) → Prop
  | es, [] => es = []
  | es, f :: fs => ∃ e rest, es = e :: rest ∧ e.2.1.Shows (.str f.1) ∧ e.2.2.Presents f.2 ∧
      PresentsEntries rest fs

end

/-! ## Trees as they are -/

mutual

/-- A tree as a source presents the tree. -/
theorem presents_ofTree : ∀ t : Tree, (ofTree t).Presents t
  | .null => rfl
  | .bool _ => rfl
  | .int _ => rfl
  | .float _ => rfl
  | .str _ => rfl
  | .list ts => ⟨.json, ofTrees ts, rfl, presentsItems_ofTrees ts⟩
  | .map fs => ⟨.json, ofEntries fs, rfl, presentsEntries_ofEntries fs⟩

theorem presentsItems_ofTrees : ∀ ts : List Tree, PresentsItems (ofTrees ts) ts
  | [] => rfl
  | t :: ts => ⟨ofTree t, ofTrees ts, rfl, presents_ofTree t, presentsItems_ofTrees ts⟩

theorem presentsEntries_ofEntries : ∀ fs : List (String × Tree), PresentsEntries (ofEntries fs) fs
  | [] => rfl
  | f :: fs => ⟨_, ofEntries fs, rfl, rfl, presents_ofTree f.2, presentsEntries_ofEntries fs⟩

end

/-! ## Settled sources -/

theorem Shows.cases {src : Source} {a : Atom} (h : src.Shows a) :
    src = atom a ∨ ∃ s, src = written s ∧ s.tag = none ∧ s.atom? = some a := by
  cases src with
  | atom b => exact Or.inl (congrArg atom h)
  | written s => exact Or.inr ⟨s, rfl, h⟩
  | _ => exact absurd h id

theorem settle_of_shows {src : Source} {a : Atom} (h : src.Shows a) :
    src.settle = pure (atom a) := by
  rcases h.cases with rfl | ⟨s, rfl, htag, hatom⟩
  · rfl
  · have hlocal : s.localTag? = none := by rw [Yaml.Scalar.localTag?, htag]; rfl
    simp [settle, hlocal, hatom]

mutual

/-- **Settling keeps what is presented.** -/
theorem Presents.settle : ∀ {t : Tree} {src : Source}, src.Presents t →
    ∃ settled, src.settle = pure settled ∧ settled.Presents t
  | .null, _, h => ⟨_, settle_of_shows h, rfl⟩
  | .bool _, _, h => ⟨_, settle_of_shows h, rfl⟩
  | .int _, _, h => ⟨_, settle_of_shows h, rfl⟩
  | .float _, _, h => ⟨_, settle_of_shows h, rfl⟩
  | .str _, _, h => ⟨_, settle_of_shows h, rfl⟩
  | .list ts, _, ⟨_, xs, hsrc, hxs⟩ => by
      obtain ⟨ys, hys, hp⟩ := PresentsItems.settle ts 0 hxs
      exact ⟨list .settled ys, by simp [hsrc, Source.settle, hys], .settled, ys, rfl, hp⟩
  | .map fs, _, ⟨_, es, hsrc, hes⟩ => by
      obtain ⟨ds, hds, hp⟩ := PresentsEntries.settle fs hes
      exact ⟨map .settled ds, by simp [hsrc, Source.settle, hds], .settled, ds, rfl, hp⟩

theorem PresentsItems.settle : ∀ (ts : List Tree) (i : Nat) {xs : List Source},
    PresentsItems xs ts → ∃ ys, settleItems i xs = pure ys ∧ PresentsItems ys ts
  | [], _, _, h => ⟨[], by rw [show _ = [] from h]; rfl, rfl⟩
  | t :: ts, i, _, ⟨x, rest, hxs, hx, hrest⟩ => by
      obtain ⟨y, hy, hpy⟩ := Presents.settle hx
      obtain ⟨ys, hys, hpys⟩ := PresentsItems.settle ts (i + 1) hrest
      exact ⟨y :: ys, by simp [hxs, settleItems, hy, hys], y, ys, rfl, hpy, hpys⟩

theorem PresentsEntries.settle : ∀ (fs : List (String × Tree))
    {es : List (PathStep × Source × Source)}, PresentsEntries es fs →
    ∃ ds, settleEntries es = pure ds ∧ PresentsEntries ds fs
  | [], _, h => ⟨[], by rw [show _ = [] from h]; rfl, rfl⟩
  | f :: fs, _, ⟨e, rest, hes, hkey, hvalue, hrest⟩ => by
      obtain ⟨v, hv, hpv⟩ := Presents.settle hvalue
      obtain ⟨ds, hds, hpds⟩ := PresentsEntries.settle fs hrest
      have hk := settle_of_shows hkey
      exact ⟨(e.1, atom (.str f.1), v) :: ds, by simp [hes, settleEntries, hk, hv, hds],
        _, ds, rfl, rfl, hpv, hpds⟩

end

/-! ## What is looked at -/

/-- A source that presents something is no reference. -/
theorem Presents.followed {src : Source} {t : Tree} (h : src.Presents t) :
    src.followed = pure src := by
  cases src with
  | reference body => cases t <;> simp [Presents, Shows] at h
  | _ => rfl

/-- A source that presents something has no local tag. -/
theorem Presents.untagged {src : Source} {t : Tree} (h : src.Presents t) :
    src.untagged = src := by
  cases src with
  | tagged name body => cases t <;> simp [Presents, Shows] at h
  | _ => rfl

/-- A source that presents something is a scalar, which is null for null only, or a list or a
map. -/
theorem Presents.cases {src : Source} {t : Tree} (h : src.Presents t) :
    (∃ a, src.Shows a ∧ (t ≠ .null → a ≠ .null)) ∨ (∃ dialect xs, src = list dialect xs) ∨
      ∃ dialect es, src = map dialect es := by
  cases t with
  | null => exact Or.inl ⟨.null, h, fun hne => absurd rfl hne⟩
  | bool b => exact Or.inl ⟨.bool b, h, fun _ => Atom.noConfusion⟩
  | int n => exact Or.inl ⟨.int n, h, fun _ => Atom.noConfusion⟩
  | float x => exact Or.inl ⟨.float x, h, fun _ => Atom.noConfusion⟩
  | str s => exact Or.inl ⟨.str s, h, fun _ => Atom.noConfusion⟩
  | list ts =>
      obtain ⟨dialect, xs, hsrc, -⟩ := h
      exact Or.inr (Or.inl ⟨dialect, xs, hsrc⟩)
  | map fs =>
      obtain ⟨dialect, es, hsrc, -⟩ := h
      exact Or.inr (Or.inr ⟨dialect, es, hsrc⟩)

theorem presentsEntries_append : ∀ {fs gs : List (String × Tree)}
    {es : List (PathStep × Source × Source)}, PresentsEntries es (fs ++ gs) →
    ∃ ds rest, es = ds ++ rest ∧ PresentsEntries ds fs ∧ PresentsEntries rest gs
  | [], _, es, h => ⟨[], es, rfl, rfl, h⟩
  | f :: fs, _, _, ⟨e, es, hes, hkey, hvalue, hrest⟩ => by
      obtain ⟨ds, rest, hsplit, hds, hgs⟩ := presentsEntries_append hrest
      exact ⟨e :: ds, rest, by rw [hes, hsplit, List.cons_append],
        ⟨e, ds, rfl, hkey, hvalue, hds⟩, hgs⟩

end Source

/-! ## Written scalars -/

namespace Yaml

/-- Plain text with the form of a text is that text. -/
theorem eq_of_plainAtom?_str {s a : String} (h : plainAtom? s = some (.str a)) : s = a := by
  unfold plainAtom? at h
  split at h
  · cases h
  · split at h
    · cases h
    · split at h
      · split at h <;> cases h
      · split at h
        · exact Atom.str.inj (Option.some.inj h)
        · split at h
          · cases h
          · exact Atom.str.inj (Option.some.inj h)

/-- Plain text with the form of a truth value is a spelling of it. -/
theorem bool?_of_plainAtom? {s : String} {b : Bool} (h : plainAtom? s = some (.bool b)) :
    bool? s = some b := by
  unfold plainAtom? at h
  split at h
  · cases h
  · split at h
    · rename_i c hc
      rw [hc]
      exact congrArg some (Atom.bool.inj (Option.some.inj h))
    · split at h
      · split at h <;> cases h
      · split at h
        · cases h
        · split at h <;> cases h

/-- Plain text with the form of null has no other form. -/
theorem plainAtom?_of_isNull {s : String} (h : (s.isEmpty || isNull s) = true) :
    plainAtom? s = some .null := by
  rw [plainAtom?, if_pos h]

namespace Scalar

variable {s : Scalar}

theorem atom?_of_untagged (h : s.tag = none) :
    s.atom? = if s.isPlain then plainAtom? s.text else some (.str s.text) := by
  rw [atom?, h]

theorem text_eq (htag : s.tag = none) {a : String} (h : s.atom? = some (.str a)) :
    s.text = a := by
  rw [atom?_of_untagged htag] at h
  split at h
  · exact eq_of_plainAtom?_str h
  · exact Atom.str.inj (Option.some.inj h)

theorem truth?_eq (htag : s.tag = none) {b : Bool} (h : s.atom? = some (.bool b)) :
    s.truth? = some b := by
  rw [atom?_of_untagged htag] at h
  split at h
  · rename_i hplain
    rw [truth?, hplain, Bool.true_or, if_pos rfl]
    exact bool?_of_plainAtom? h
  · cases h

theorem isAbsent?_eq (htag : s.tag = none) {a : Atom} (h : s.atom? = some a) (ha : a ≠ .null) :
    s.isAbsent? = some false := by
  rw [atom?_of_untagged htag] at h
  unfold isAbsent?
  split at h
  · rename_i hplain
    have hnull : ¬ (s.text.isEmpty || isNull s.text) = true := fun hn =>
      ha (Option.some.inj (h.symm.trans (plainAtom?_of_isNull hn)))
    simpa [hplain, htag] using hnull
  · rename_i hplain
    simp [hplain]

end Scalar

end Yaml

/-! ## Decoders that restore values -/

namespace Decode

variable {α : Type}

/-- The decoder gives back every value from whatever presents its tree. -/
def Restores (decode : Decoder α) (toTree : α → Tree) : Prop :=
  ∀ (a : α) {src : Source}, src.Presents (toTree a) → decode src = pure a

theorem string_of_shows {s : String} {src : Source} (h : src.Shows (.str s)) :
    string src = pure s := by
  rcases h.cases with rfl | ⟨w, rfl, htag, hatom⟩
  · rfl
  · have htext : w.text = s := Yaml.Scalar.text_eq htag hatom
    rw [← htext]
    rfl

theorem restores_string : Restores string .str := fun _ _ h => string_of_shows h

theorem restores_bool : Restores bool .bool := by
  intro b src h
  rcases Source.Shows.cases h with rfl | ⟨w, rfl, htag, hatom⟩
  · rfl
  · have htruth : w.truth? = some b := Yaml.Scalar.truth?_eq htag hatom
    simp [bool, Source.followed, htruth]

/-- A value whose tree is not null is there. -/
theorem optional_of_presents {decode : Decoder α} {toTree : α → Tree}
    (hd : Restores decode toTree) (a : α) (hnull : toTree a ≠ .null) {src : Source}
    (h : src.Presents (toTree a)) : optional decode src = pure (some a) := by
  have hdecode : decode src = pure a := hd a h
  rcases h.cases with ⟨b, hshows, hb⟩ | ⟨dialect, xs, rfl⟩ | ⟨dialect, es, rfl⟩
  · rcases hshows.cases with rfl | ⟨w, rfl, htag, hatom⟩
    · have hb : b ≠ .null := hb hnull
      cases b with
      | null => exact absurd rfl hb
      | _ => simp [optional, Source.followed, hdecode]
    · have habsent : w.isAbsent? = some false := Yaml.Scalar.isAbsent?_eq htag hatom (hb hnull)
      simp [optional, Source.followed, habsent, hdecode]
  · simp [optional, Source.followed, hdecode]
  · simp [optional, Source.followed, hdecode]

/-! ### Lists -/

theorem items_of_presents {decode : Decoder α} {toTree : α → Tree}
    (hd : Restores decode toTree) (as : List α) (i : Nat) {xs : List Source}
    (h : Source.PresentsItems xs (as.map toTree)) : items decode i xs = pure as := by
  induction as generalizing i xs with
  | nil =>
      rw [show xs = [] from h]
      rfl
  | cons a as ih =>
      obtain ⟨x, rest, rfl, hx, hrest⟩ := h
      rw [items, hd a hx, Decoded.under_pure, pure_bind, ih (i + 1) hrest, pure_bind]

theorem restores_list {decode : Decoder α} {toTree : α → Tree} (hd : Restores decode toTree) :
    Restores (list decode) fun as => .list (as.map toTree) := by
  intro as src h
  have hfollowed := h.followed
  obtain ⟨dialect, xs, rfl, hxs⟩ := h
  rw [list, hfollowed, pure_bind]
  exact items_of_presents hd as 0 hxs

theorem restores_strings : Restores (list string) Tree.strings := restores_list restores_string

theorem restores_names : Restores names fun s => Tree.strings s.keys := by
  intro s src h
  rw [names, restores_strings s.keys h, map_pure, NameSet.ofNames_keys]

/-! ### Maps -/

theorem entries_of_presents (fs : List (String × String))
    {es : List (PathStep × Source × Source)}
    (h : Source.PresentsEntries es (fs.map fun f => (f.1, .str f.2))) :
    entries string es = pure fs := by
  induction fs generalizing es with
  | nil =>
      rw [show es = [] from h]
      rfl
  | cons f fs ih =>
      obtain ⟨e, rest, rfl, hkey, hvalue, hrest⟩ := h
      rw [entries, string_of_shows hkey, pure_bind, restores_string f.2 hvalue,
        Decoded.under_pure, pure_bind, ih hrest, pure_bind]

theorem restores_texts : Restores texts fun m => Tree.texts m.entries := by
  intro m src h
  have hfollowed := h.followed
  obtain ⟨dialect, es, rfl, hes⟩ := h
  have hentries : entries string es = pure m.entries := entries_of_presents m.entries hes
  rw [texts, hfollowed, pure_bind]
  show SortedMap.ofList <$> entries string es = pure m
  rw [hentries, map_pure, SortedMap.ofList_entries]

end Decode

end CiPipeline

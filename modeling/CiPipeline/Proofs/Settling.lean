import CiPipeline.Proofs.Restoring

set_option autoImplicit false

/-! # Decoding does not see whether types were settled before

A tree can be decoded as it is, or its types are settled first and what was kept is decoded
later. Both succeed on the same trees and with the same values; only the words for an error
may differ. Neither follows a reference, so that decoding a tree either gives a value or
fails, however many references may be followed.

The induction is on the tree and goes through everything that a decoder is built from, and
through the entries of a record it may pass over those whose keys the record does not have.
-/

namespace CiPipeline

open Decode

namespace Decoded

variable {α β : Type}

/-! ## The same outcome -/

/-- Both give the same value or both fail. -/
inductive Same : Decoded α → Decoded α → Prop
  | value (a : α) : Same (pure a) (pure a)
  | error (e e' : DecodeError) : Same (fail e) (fail e')

theorem fail_bind (e : DecodeError) (f : α → Decoded β) : (fail e >>= f) = fail e := rfl

theorem pure_ne_fail (a : α) (e : DecodeError) : (pure a : Decoded α) ≠ fail e := by
  intro h
  have hrun : Except.ok (a, 0) = Except.error e := congrFun h 0
  cases hrun

theorem pure_inj {a b : α} (h : (pure a : Decoded α) = pure b) : a = b :=
  congrArg Prod.fst (Except.ok.inj (congrFun h 0))

/-- A mapped value is the image of some value. -/
theorem exists_of_map_eq_pure {f : α → β} {x : Decoded α} {b : β}
    (h : f <$> x = pure b) : ∃ a, f a = b := by
  rw [← bind_pure_comp] at h
  have hrun : (x 0).bind (fun r => (pure (f r.1) : Decoded β) r.2) = .ok (b, 0) := congrFun h 0
  cases hx : x 0 with
  | error e =>
      rw [hx] at hrun
      cases hrun
  | ok r =>
      rw [hx] at hrun
      exact ⟨r.1, congrArg Prod.fst (Except.ok.inj hrun)⟩

namespace Same

variable {x y : Decoded α}

theorem bind {f g : α → Decoded β} (h : Same x y) (hf : ∀ a, Same (f a) (g a)) :
    Same (x >>= f) (y >>= g) := by
  cases h with
  | value a =>
      rw [pure_bind, pure_bind]
      exact hf a
  | error e e' =>
      rw [fail_bind, fail_bind]
      exact error e e'

theorem map (h : Same x y) (f : α → β) : Same (f <$> x) (f <$> y) := by
  rw [← bind_pure_comp, ← bind_pure_comp]
  exact h.bind fun a => value (f a)

theorem mapError (h : Same x y) (f g : DecodeError → DecodeError) :
    Same (x.mapError f) (y.mapError g) := by
  cases h with
  | value a => exact value a
  | error e e' => exact error (f e) (g e')

theorem under (h : Same x y) (step step' : PathStep) : Same (x.under step) (y.under step') :=
  h.mapError _ _

/-- What is the same as something is also the same as itself. -/
theorem left (h : Same x y) : Same x x := by
  cases h with
  | value a => exact value a
  | error e e' => exact error e e

theorem symm (h : Same x y) : Same y x := by
  cases h with
  | value a => exact value a
  | error e e' => exact error e' e

theorem eq_pure_iff (h : Same x y) (a : α) : x = pure a ↔ y = pure a := by
  cases h with
  | value b => exact Iff.rfl
  | error e e' =>
      exact ⟨fun he => absurd he.symm (pure_ne_fail a e),
        fun he => absurd he.symm (pure_ne_fail a e')⟩

/-- A value or an error. -/
theorem cases_left (h : Same x y) : (∃ a, x = pure a) ∨ ∃ e, x = fail e := by
  cases h with
  | value a => exact Or.inl ⟨a, rfl⟩
  | error e e' => exact Or.inr ⟨e, rfl⟩

/-- Two steps give a value if the first gives one from which the second gives it. -/
theorem bind_eq_pure_iff (h : Same x y) (f : α → Decoded β) (b : β) :
    (x >>= f) = pure b ↔ ∃ a, x = pure a ∧ f a = pure b := by
  cases h with
  | value a =>
      rw [pure_bind]
      refine ⟨fun hf => ⟨a, rfl, hf⟩, ?_⟩
      rintro ⟨a', ha, hf⟩
      rw [pure_inj ha]
      exact hf
  | error e e' =>
      rw [fail_bind]
      refine ⟨fun he => absurd he.symm (pure_ne_fail b e), ?_⟩
      rintro ⟨a, ha, -⟩
      exact absurd ha.symm (pure_ne_fail a e)

theorem map_eq_pure_iff (h : Same x y) (f : α → β) (b : β) :
    f <$> x = pure b ↔ ∃ a, x = pure a ∧ f a = b := by
  rw [← bind_pure_comp, h.bind_eq_pure_iff]
  exact exists_congr fun a => and_congr_right fun _ => ⟨pure_inj, congrArg pure⟩

theorem mapError_eq_pure_iff (h : Same x y) (f : DecodeError → DecodeError) (a : α) :
    x.mapError f = pure a ↔ x = pure a := by
  cases h with
  | value b => exact Iff.rfl
  | error e e' => exact (error (f e) e).eq_pure_iff a

end Same

end Decoded

open Decoded (Same)

/-! ## Trees with settled types -/

namespace Source

mutual

/-- What settling keeps of a tree. -/
def settledTree : Tree → Source
  | .null => atom .null
  | .bool b => atom (.bool b)
  | .int n => atom (.int n)
  | .float x => atom (.float x)
  | .str s => atom (.str s)
  | .list items => list .settled (settledTrees items)
  | .map entries => map .settled (settledEntries entries)

def settledTrees : List Tree → List Source
  | [] => []
  | t :: ts => settledTree t :: settledTrees ts

def settledEntries : List (String × Tree) → List (PathStep × Source × Source)
  | [] => []
  | e :: es => (.key e.1, atom (.str e.1), settledTree e.2) :: settledEntries es

end

mutual

theorem settle_ofTree : ∀ t : Tree, (ofTree t).settle = pure (settledTree t)
  | .null => rfl
  | .bool _ => rfl
  | .int _ => rfl
  | .float _ => rfl
  | .str _ => rfl
  | .list ts => by rw [ofTree, settle, settleItems_ofTrees ts 0, map_pure, settledTree]
  | .map es => by rw [ofTree, settle, settleEntries_ofEntries es, map_pure, settledTree]

theorem settleItems_ofTrees :
    ∀ (ts : List Tree) (i : Nat), settleItems i (ofTrees ts) = pure (settledTrees ts)
  | [], _ => rfl
  | t :: ts, i => by
      rw [ofTrees, settleItems, settle_ofTree t, Decoded.under_pure, pure_bind,
        settleItems_ofTrees ts (i + 1), pure_bind, settledTrees]

theorem settleEntries_ofEntries : ∀ es : List (String × Tree),
    settleEntries (ofEntries es) = pure (settledEntries es)
  | [] => rfl
  | e :: es => by
      have hkey : (atom (.str e.1)).settle = pure (atom (.str e.1)) := rfl
      rw [ofEntries, settleEntries, hkey, pure_bind, settle_ofTree e.2, Decoded.under_pure,
        pure_bind, settleEntries_ofEntries es, pure_bind, settledEntries]

end

theorem length_ofTrees (ts : List Tree) : (ofTrees ts).length = ts.length := by
  induction ts with
  | nil => rfl
  | cons t ts ih => rw [ofTrees, List.length_cons, ih, List.length_cons]

theorem length_settledTrees (ts : List Tree) : (settledTrees ts).length = ts.length := by
  induction ts with
  | nil => rfl
  | cons t ts ih => rw [settledTrees, List.length_cons, ih, List.length_cons]

end Source

open Source

/-! ## Decoders -/

namespace Decode

variable {α ρ : Type}

/-- The decoder gives the same of a tree and of what settling keeps of the tree. -/
def Alike (decode : Decoder α) : Prop :=
  ∀ t : Tree, Same (decode (ofTree t)) (decode (settledTree t))

theorem alike_string : Alike string := by
  intro t
  cases t with
  | str s => exact .value s
  | _ => exact .error _ _

theorem alike_bool : Alike bool := by
  intro t
  cases t with
  | bool b => exact .value b
  | _ => exact .error _ _

theorem Alike.optional {decode : Decoder α} (h : Alike decode) : Alike (optional decode) := by
  intro t
  cases t with
  | null => exact .value none
  | bool b => exact (h (.bool b)).map some
  | int n => exact (h (.int n)).map some
  | float x => exact (h (.float x)).map some
  | str s => exact (h (.str s)).map some
  | list ts => exact (h (.list ts)).map some
  | map es => exact (h (.map es)).map some

/-! ### Lists and maps -/

theorem Alike.items {decode : Decoder α} (h : Alike decode) (ts : List Tree) (i : Nat) :
    Same (items decode i (ofTrees ts)) (items decode i (settledTrees ts)) := by
  induction ts generalizing i with
  | nil => exact .value []
  | cons t ts ih =>
      refine ((h t).under _ _).bind fun a => ?_
      exact (ih (i + 1)).bind fun as => .value (a :: as)

theorem Alike.list {decode : Decoder α} (h : Alike decode) : Alike (list decode) := by
  intro t
  cases t with
  | list ts => exact h.items ts 0
  | _ => exact .error _ _

theorem alike_names : Alike names := fun t => (alike_string.list t).map NameSet.ofNames

theorem alike_entries (es : List (String × Tree)) :
    Same (entries string (Source.ofEntries es)) (entries string (settledEntries es)) := by
  induction es with
  | nil => exact .value []
  | cons e es ih =>
      refine (Same.value e.1).bind fun key => ?_
      refine ((alike_string e.2).under _ _).bind fun value => ?_
      exact ih.bind fun rest => .value ((key, value) :: rest)

theorem alike_texts : Alike texts := by
  intro t
  cases t with
  | map es => exact (alike_entries es).map SortedMap.ofList
  | _ => exact .error _ _

/-! ### Records -/

theorem Alike.allow {decode : Decoder α} (h : Alike decode) (key : String) (set : α → ρ → ρ) :
    Alike (Field.allow key decode set).read := fun t => (h t).map set

theorem Alike.require {decode : Decoder α} (h : Alike decode) (key : String) (set : α → ρ → ρ) :
    Alike (Field.require key decode set).read := fun t => (h t).map set

namespace Shape

variable {shape : Shape ρ}

/-- **Entries.** What is kept may lack entries whose keys no field has. -/
theorem same_readEntries (h : ∀ f ∈ shape.fields, Alike f.read) (isKept : String × Tree → Bool)
    (hkept : ∀ e, ∀ f ∈ shape.fields, f.key = e.1 → isKept e = true) (es : List (String × Tree))
    (seen : List String) (r : ρ) :
    Same (shape.readEntries seen r (Source.ofEntries es))
      (shape.readEntries seen r (settledEntries (es.filter isKept))) := by
  induction es generalizing seen r with
  | nil => exact .value (seen, r)
  | cons e es ih =>
      have hkey : (atom (.str e.1)).Shows (.str e.1) := rfl
      cases hfind : shape.fields.find? fun f => f.key == e.1 with
      | none =>
          rw [Source.ofEntries, readEntries_of_unknown hkey hfind]
          -- an unknown key is passed over here, and there if its entry is kept
          by_cases hkeep : isKept e = true
          · rw [List.filter_cons_of_pos hkeep, settledEntries, readEntries_of_unknown hkey hfind]
            exact ih seen r
          · rw [List.filter_cons_of_neg hkeep]
            exact ih seen r
      | some f =>
          have hf : f ∈ shape.fields := List.mem_of_find?_eq_some hfind
          have hname : f.key = e.1 := by simpa using List.find?_some hfind
          have hkeep : isKept e = true := hkept e f hf hname
          rw [Source.ofEntries, List.filter_cons_of_pos hkeep, settledEntries,
            readEntries_of_known hkey hfind, readEntries_of_known hkey hfind]
          split
          · exact .error _ _
          · exact ((h f hf e.2).under _ _).bind fun set => ih (f.key :: seen) (set r)

/-- The record of a map. -/
theorem same_ofEntries (h : ∀ f ∈ shape.fields, Alike f.read) (isKept : String × Tree → Bool)
    (hkept : ∀ e, ∀ f ∈ shape.fields, f.key = e.1 → isKept e = true) (es : List (String × Tree)) :
    Same (shape.ofEntries (Source.ofEntries es))
      (shape.ofEntries (settledEntries (es.filter isKept))) := by
  refine (same_readEntries h isKept hkept es [] shape.blank).bind fun read => ?_
  obtain ⟨seen, r⟩ := read
  -- both have seen the same keys, so that either the same key is missing or none
  cases hmissing : shape.fields.find? fun f => f.required && !seen.contains f.key with
  | none =>
      simp only [hmissing]
      exact .value r
  | some f =>
      simp only [hmissing]
      exact .error _ _

/-- The record of a list. -/
theorem same_readItems {fs : List (Field ρ)} (h : ∀ f ∈ fs, Alike f.read) (ts : List Tree)
    (i : Nat) (r : ρ) :
    Same (shape.readItems i r fs (ofTrees ts)) (shape.readItems i r fs (settledTrees ts)) := by
  induction fs generalizing ts i r with
  | nil => exact .value r
  | cons f fs ih =>
      have hrest : ∀ g ∈ fs, Alike g.read := fun g hg => h g (List.mem_cons_of_mem f hg)
      cases ts with
      | nil =>
          rw [ofTrees, settledTrees, readItems]
          split
          · exact .error _ _
          · exact ih hrest [] (i + 1) r
      | cons t ts =>
          refine ((h f List.mem_cons_self t).under _ _).bind fun set => ?_
          exact ih hrest ts (i + 1) (set r)

/-- Too many items are too many for both. -/
theorem same_surplus (ts : List Tree) :
    Same (shape.surplus .json (ofTrees ts)) (shape.surplus .settled (settledTrees ts)) := by
  rw [surplus, surplus, length_ofTrees, length_settledTrees]
  split
  · exact .value ()
  · exact .error _ _

theorem alike_decode (h : ∀ f ∈ shape.fields, Alike f.read) : Alike shape.decode := by
  intro t
  cases t with
  | list ts =>
      show Same (shape.ofItems .json (ofTrees ts)) (shape.ofItems .settled (settledTrees ts))
      -- both dialects have lists for records
      rw [ofItems, ofItems, if_neg (by decide), if_neg (by decide)]
      refine (same_readItems h ts 0 shape.blank).bind fun r => ?_
      exact (same_surplus ts).bind fun _ => .value r
  | map es =>
      have hkept := same_ofEntries h (fun _ => true) (fun _ _ _ _ => rfl) es
      rwa [List.filter_eq_self.2 fun _ _ => rfl] at hkept
  | _ => exact .error _ _

end Shape

end Decode

/-! ## Jobs and options -/

theorem ArtifactDependency.alike : Alike decode :=
  Shape.alike_decode (List.forall_mem_singleton.2 (alike_string.require _ _))

theorem Step.alike : Alike decode := by
  refine Shape.alike_decode ?_
  refine List.forall_mem_cons.2 ⟨alike_string.optional.allow _ _, ?_⟩
  refine List.forall_mem_cons.2 ⟨alike_string.list.require _ _, ?_⟩
  refine List.forall_mem_cons.2 ⟨alike_texts.allow _ _, ?_⟩
  refine List.forall_mem_cons.2 ⟨alike_string.list.allow _ _, ?_⟩
  refine List.forall_mem_cons.2 ⟨ArtifactDependency.alike.list.allow _ _, ?_⟩
  exact List.forall_mem_singleton.2 (alike_string.list.allow _ _)

theorem Job.alike : Alike decode := by
  refine Shape.alike_decode ?_
  refine List.forall_mem_cons.2 ⟨alike_string.require _ _, ?_⟩
  refine List.forall_mem_cons.2 ⟨Step.alike.list.allow _ _, ?_⟩
  refine List.forall_mem_cons.2 ⟨alike_string.optional.allow _ _, ?_⟩
  exact List.forall_mem_singleton.2 (alike_string.optional.allow _ _)

theorem GitHub.Options.alike_fields : ∀ f ∈ shape.fields, Alike f.read := by
  refine List.forall_mem_cons.2 ⟨alike_string.allow _ _, ?_⟩
  refine List.forall_mem_cons.2 ⟨alike_string.allow _ _, ?_⟩
  refine List.forall_mem_cons.2 ⟨alike_string.allow _ _, ?_⟩
  exact List.forall_mem_singleton.2 (alike_string.list.allow _ _)

theorem GitLab.TriggerRules.alike_fields : ∀ f ∈ shape.fields, Alike f.read := by
  refine List.forall_mem_cons.2 ⟨alike_string.list.allow _ _, ?_⟩
  exact List.forall_mem_singleton.2 (alike_string.list.allow _ _)

theorem GitLab.Options.alike_fields : ∀ f ∈ shape.fields, Alike f.read := by
  refine List.forall_mem_cons.2 ⟨alike_string.allow _ _, ?_⟩
  refine List.forall_mem_cons.2 ⟨alike_string.allow _ _, ?_⟩
  refine List.forall_mem_cons.2 ⟨alike_string.list.allow _ _, ?_⟩
  refine List.forall_mem_cons.2 ⟨alike_string.list.allow _ _, ?_⟩
  refine List.forall_mem_cons.2 ⟨alike_string.list.allow _ _, ?_⟩
  refine List.forall_mem_cons.2 ⟨alike_string.allow _ _, ?_⟩
  refine List.forall_mem_cons.2 ⟨alike_names.allow _ _, ?_⟩
  refine List.forall_mem_cons.2 ⟨(Shape.alike_decode TriggerRules.alike_fields).allow _ _, ?_⟩
  exact List.forall_mem_singleton.2 (alike_bool.allow _ _)

end CiPipeline

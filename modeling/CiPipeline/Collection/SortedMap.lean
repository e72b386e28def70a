set_option autoImplicit false

/-! # Maps sorted by name

A map from names to values with its entries in the byte order of the names (the byte order
of UTF-8 is the order of the code points, which is the order of `String`). A map is
determined by what it holds: the order of the insertions leaves no trace.
-/

namespace CiPipeline

/-- Entries with strictly increasing names. -/
structure SortedMap (α : Type) where
  entries : List (String × α)
  sorted : entries.Pairwise (fun a b => a.1 < b.1)
  deriving DecidableEq

namespace SortedMap

variable {α : Type}

/-! ## Insertion into a list of entries -/

/-- The entries with `key` bound to `value`, at its place in the order. -/
def insertEntry (key : String) (value : α) : List (String × α) → List (String × α)
  | [] => [(key, value)]
  | e :: rest =>
      if key < e.1 then (key, value) :: e :: rest
      else if key = e.1 then (key, value) :: rest
      else e :: insertEntry key value rest

theorem fst_mem_insertEntry {key : String} {value : α} {es : List (String × α)}
    {e : String × α} (h : e ∈ insertEntry key value es) : e = (key, value) ∨ e ∈ es := by
  induction es with
  | nil => exact Or.inl (by simpa [insertEntry] using h)
  | cons d ds ih =>
      unfold insertEntry at h
      split at h
      · simpa using h
      · split at h
        · rcases List.mem_cons.1 h with h | h
          · exact Or.inl h
          · exact Or.inr (List.mem_cons_of_mem _ h)
        · rcases List.mem_cons.1 h with h | h
          · exact Or.inr (h ▸ List.mem_cons_self)
          · exact (ih h).imp id (List.mem_cons_of_mem _)

theorem lt_of_not_lt_of_ne {a b : String} (h : ¬ a < b) (hne : a ≠ b) : b < a := by
  have hle : b ≤ a := String.not_lt.1 h
  exact String.not_le.1 fun hge => hne (String.le_antisymm hge hle)

theorem pairwise_insertEntry (key : String) (value : α) {es : List (String × α)}
    (h : es.Pairwise (fun a b => a.1 < b.1)) :
    (insertEntry key value es).Pairwise (fun a b => a.1 < b.1) := by
  induction es with
  | nil => simp [insertEntry]
  | cons d ds ih =>
      have hd : ∀ e ∈ ds, d.1 < e.1 := fun e he => List.rel_of_pairwise_cons h he
      have ht := List.Pairwise.of_cons h
      unfold insertEntry
      split
      · rename_i hlt
        refine List.Pairwise.cons (fun e he => ?_) h
        rcases List.mem_cons.1 he with rfl | he
        · exact hlt
        · exact String.lt_trans hlt (hd e he)
      · rename_i hnlt
        split
        · rename_i heq
          exact List.Pairwise.cons (fun e he => by simpa [heq] using hd e he) ht
        · rename_i hne
          refine List.Pairwise.cons (fun e he => ?_) (ih ht)
          rcases fst_mem_insertEntry he with rfl | he
          · exact lt_of_not_lt_of_ne hnlt hne
          · exact hd e he

/-! ## Operations -/

/-- The map without entries. -/
def empty : SortedMap α := ⟨[], List.Pairwise.nil⟩

/-- Binds `key` to `value`; an earlier value of `key` is lost. -/
def insert (m : SortedMap α) (key : String) (value : α) : SortedMap α :=
  ⟨insertEntry key value m.entries, pairwise_insertEntry key value m.sorted⟩

/-- Binds every entry of the list in turn, so that of two entries with one name the later
one counts. -/
def insertAll (m : SortedMap α) (es : List (String × α)) : SortedMap α :=
  es.foldl (fun m e => m.insert e.1 e.2) m

/-- The map of a list of entries. -/
def ofList (es : List (String × α)) : SortedMap α := empty.insertAll es

/-- The value bound to `key`. -/
def get? (m : SortedMap α) (key : String) : Option α := m.entries.lookup key

/-- The names in order. -/
def keys (m : SortedMap α) : List String := m.entries.map Prod.fst

/-- The map binds `key`. -/
def contains (m : SortedMap α) (key : String) : Bool := m.keys.contains key

/-- The map binds nothing. -/
def isEmpty (m : SortedMap α) : Bool := m.entries.isEmpty

instance : Inhabited (SortedMap α) := ⟨empty⟩

/-! ## Maps from their entries -/

@[ext] theorem ext {m m' : SortedMap α} (h : m.entries = m'.entries) : m = m' := by
  cases m
  cases m'
  cases h
  rfl

/-- A name after all others is bound at the end. -/
theorem insertEntry_last {key : String} (value : α) {es : List (String × α)}
    (h : ∀ e ∈ es, e.1 < key) : insertEntry key value es = es ++ [(key, value)] := by
  induction es with
  | nil => rfl
  | cons d ds ih =>
      have hd : d.1 < key := h d List.mem_cons_self
      have hne : key ≠ d.1 := fun he => String.lt_irrefl key (he ▸ hd)
      have htail : ∀ e ∈ ds, e.1 < key := fun e he => h e (List.mem_cons_of_mem d he)
      rw [insertEntry, if_neg (String.lt_asymm hd), if_neg hne, ih htail, List.cons_append]

theorem entries_insertAll {m : SortedMap α} {es : List (String × α)}
    (h : (m.entries ++ es).Pairwise (fun a b => a.1 < b.1)) :
    (m.insertAll es).entries = m.entries ++ es := by
  induction es generalizing m with
  | nil => exact (List.append_nil _).symm
  | cons e es ih =>
      have hlast : ∀ d ∈ m.entries, d.1 < e.1 := fun d hd =>
        (List.pairwise_append.1 h).2.2 d hd e List.mem_cons_self
      have hinsert : (m.insert e.1 e.2).entries = m.entries ++ [e] := insertEntry_last e.2 hlast
      have hrest : (m.insert e.1 e.2).entries ++ es = m.entries ++ e :: es := by
        rw [hinsert, List.append_assoc, List.singleton_append]
      show ((m.insert e.1 e.2).insertAll es).entries = m.entries ++ e :: es
      rw [ih (hrest ▸ h), hrest]

/-- **A map is got back from its entries.** -/
theorem ofList_entries (m : SortedMap α) : ofList m.entries = m :=
  ext (entries_insertAll m.sorted)

end SortedMap

/-- A set of names in byte order. -/
abbrev NameSet := SortedMap Unit

namespace NameSet

/-- The set of the names of a list. -/
def ofNames (names : List String) : NameSet :=
  SortedMap.ofList (names.map fun name => (name, ()))

/-- The set with one more name. -/
def add (s : NameSet) (name : String) : NameSet := s.insert name ()

/-- A set is got back from its names. -/
theorem ofNames_keys (s : NameSet) : ofNames s.keys = s := by
  have hentries : (s.keys.map fun name => (name, ())) = s.entries := by
    rw [SortedMap.keys, List.map_map]
    exact List.map_id _
  rw [ofNames, hentries, SortedMap.ofList_entries]

end NameSet

end CiPipeline

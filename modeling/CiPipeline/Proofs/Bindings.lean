import CiPipeline.Collection.OrderedMap
import CiPipeline.Proofs.Lists

set_option autoImplicit false

/-! # Maps of lists of entries

What a map made of a list of entries holds: every name of the list, in the order in which the
names come first, each with the value that the last of its entries has. Of a list in which no
name comes twice the map has exactly the entries.
-/

namespace CiPipeline.OrderedMap

variable {α : Type}

/-! ## One entry -/

theorem lookup_cons_eq_ite (e : String × α) (es : List (String × α)) (k : String) :
    (e :: es).lookup k = if k = e.1 then some e.2 else es.lookup k := by
  rw [List.lookup_cons]
  by_cases h : k = e.1
  · rw [if_pos h, beq_iff_eq.2 h]
  · rw [if_neg h, beq_false_of_ne h]

theorem lookup_eq_none_of_not_mem {es : List (String × α)} {k : String}
    (h : k ∉ es.map Prod.fst) : es.lookup k = none := by
  rw [List.lookup_eq_none_iff]
  intro e he
  have hne : k ≠ e.1 := fun heq => h (heq ▸ List.mem_map_of_mem he)
  simpa using hne

theorem lookup_putEntry (key k : String) (value : α) (es : List (String × α)) :
    (putEntry key value es).lookup k = if k = key then some value else es.lookup k := by
  induction es with
  | nil => exact lookup_cons_eq_ite (key, value) [] k
  | cons e es ih =>
      unfold putEntry
      by_cases he : e.1 = key
      · -- the new entry stands where the old one did, so the rest is looked at for the same names
        rw [if_pos he, lookup_cons_eq_ite, lookup_cons_eq_ite, he]
        split <;> rfl
      · rw [if_neg he, lookup_cons_eq_ite, lookup_cons_eq_ite, ih]
        by_cases hk : k = e.1
        · have hne : k ≠ key := fun h => he (hk.symm.trans h)
          rw [if_pos hk, if_pos hk, if_neg hne]
        · rw [if_neg hk, if_neg hk]

theorem get?_insert (m : OrderedMap α) (key k : String) (value : α) :
    (m.insert key value).get? k = if k = key then some value else m.get? k :=
  lookup_putEntry key k value m.entries

theorem mem_keys_insert (m : OrderedMap α) (key : String) (value : α) {k : String} :
    k ∈ (m.insert key value).keys ↔ k ∈ m.keys ∨ key = k := by
  rw [keys_insert]
  split
  · rename_i hkey
    exact ⟨Or.inl, fun h => h.elim id fun heq => heq ▸ hkey⟩
  · rw [List.mem_append, List.mem_singleton, eq_comm]

theorem size_insert (m : OrderedMap α) (key : String) (value : α) :
    (m.insert key value).size = if key ∈ m.keys then m.size else m.size + 1 := by
  have hsize : ∀ m : OrderedMap α, m.size = m.keys.length := fun _ => (List.length_map _).symm
  rw [hsize, hsize, keys_insert]
  split
  · rfl
  · exact List.length_append

theorem putEntry_of_not_mem {key : String} (value : α) {es : List (String × α)}
    (h : key ∉ es.map Prod.fst) : putEntry key value es = es ++ [(key, value)] := by
  induction es with
  | nil => rfl
  | cons e es ih =>
      rw [List.map_cons, List.mem_cons, not_or] at h
      rw [putEntry, if_neg fun he => h.1 he.symm, ih h.2, List.cons_append]

/-- The entries of a map are what it binds its names to. -/
theorem mem_entries_iff (m : OrderedMap α) (k : String) (v : α) :
    (k, v) ∈ m.entries ↔ m.get? k = some v := by
  obtain ⟨es, hes⟩ := m
  unfold get?
  dsimp only
  induction es with
  | nil => simp
  | cons e es ih =>
      rw [List.map_cons, List.nodup_cons] at hes
      rw [List.mem_cons, lookup_cons_eq_ite, ih hes.2]
      by_cases h : k = e.1
      · -- no later entry has the name of the first one
        have hlater : es.lookup k ≠ some v := fun hl =>
          hes.1 (List.mem_map.2 ⟨(k, v), (ih hes.2).2 hl, h⟩)
        rw [if_pos h, or_iff_left hlater, Option.some.injEq, Prod.ext_iff]
        exact ⟨fun he => he.2.symm, fun he => ⟨h, he.symm⟩⟩
      · have hfirst : (k, v) ≠ e := fun he => h (congrArg Prod.fst he)
        rw [if_neg h, or_iff_right hfirst]

theorem mem_keys_iff (m : OrderedMap α) (k : String) : k ∈ m.keys ↔ ∃ v, m.get? k = some v := by
  simp only [← mem_entries_iff]
  exact List.mem_map.trans
    ⟨fun ⟨e, he, hk⟩ => ⟨e.2, hk ▸ he⟩, fun ⟨v, hv⟩ => ⟨(k, v), hv, rfl⟩⟩

/-! ## Lists of entries -/

theorem insertAll_cons (m : OrderedMap α) (e : String × α) (es : List (String × α)) :
    m.insertAll (e :: es) = (m.insert e.1 e.2).insertAll es := rfl

/-- New names come after the old ones, in the order of their first appearance. -/
theorem keys_insertAll (m : OrderedMap α) (es : List (String × α)) :
    (m.insertAll es).keys =
      m.keys ++ ((es.map Prod.fst).filter fun k => !m.keys.contains k).eraseDups := by
  induction es generalizing m with
  | nil => simp [insertAll]
  | cons e es ih =>
      rw [insertAll_cons, ih, keys_insert]
      by_cases h : e.1 ∈ m.keys
      · simp [h]
      · have hnew : (!m.keys.contains e.1) = true := by simp [h]
        have hothers : ((es.map Prod.fst).filter fun k => !m.keys.contains k).filter
              (fun k => !k == e.1) =
            (es.map Prod.fst).filter fun k => !(m.keys ++ [e.1]).contains k := by
          rw [List.filter_filter]
          refine List.filter_congr fun k _ => ?_
          have hsingle : ([e.1] : List String).contains k = (k == e.1) := Bool.or_false _
          rw [List.contains_append, Bool.not_or, Bool.and_comm, hsingle]
        rw [if_neg h, List.map_cons, List.filter_cons, if_pos hnew, List.eraseDups_cons, hothers,
          List.append_assoc, List.singleton_append]

/-- If each insertion binds one name, the last entry of a name counts, and what was there before
counts only without any. -/
theorem lookup_foldl_insert {μ : Type} (insert : μ → String → α → μ) (get : μ → Option α)
    {k : String}
    (h : ∀ m key value, get (insert m key value) = if k = key then some value else get m)
    (es : List (String × α)) (m : μ) :
    get (es.foldl (fun m e => insert m e.1 e.2) m) = (es.reverse.lookup k).or (get m) := by
  induction es generalizing m with
  | nil => rfl
  | cons e es ih =>
      have hsingle : ([e] : List (String × α)).lookup k = if k = e.1 then some e.2 else none :=
        lookup_cons_eq_ite e [] k
      rw [List.foldl_cons, ih, h, List.reverse_cons, List.lookup_append, hsingle, Option.or_assoc]
      by_cases hk : k = e.1
      · rw [if_pos hk, if_pos hk]
        rfl
      · rw [if_neg hk, if_neg hk]
        rfl

theorem get?_insertAll (m : OrderedMap α) (es : List (String × α)) (k : String) :
    (m.insertAll es).get? k = (es.reverse.lookup k).or (m.get? k) :=
  lookup_foldl_insert insert (fun m => m.get? k) (fun m key value => get?_insert m key k value) es m

theorem entries_insertAll {m : OrderedMap α} {es : List (String × α)}
    (h : (m.keys ++ es.map Prod.fst).Nodup) : (m.insertAll es).entries = m.entries ++ es := by
  induction es generalizing m with
  | nil => exact (List.append_nil _).symm
  | cons e es ih =>
      rw [List.map_cons, List.append_cons] at h
      have he : e.1 ∉ m.keys := fun hmem =>
        (List.nodup_append.1 (List.nodup_append.1 h).1).2.2 e.1 hmem e.1
          (List.mem_singleton_self _) rfl
      have hput : (m.insert e.1 e.2).entries = m.entries ++ [e] := putEntry_of_not_mem e.2 he
      rw [insertAll_cons, ih, hput, List.append_assoc, List.singleton_append]
      rwa [keys_insert, if_neg he]

/-! ## Whole maps -/

/-- **The names of the map**: those of the list, in the order of their first appearance. -/
theorem keys_ofList (es : List (String × α)) :
    (ofList es).keys = (es.map Prod.fst).eraseDups := by
  have hempty : ((es.map Prod.fst).filter fun k => !(empty : OrderedMap α).keys.contains k) =
      es.map Prod.fst := List.filter_eq_self.2 fun _ _ => rfl
  rw [ofList, keys_insertAll, hempty]
  rfl

/-- **The values of the map**: for each name that of its last entry. -/
theorem get?_ofList (es : List (String × α)) (k : String) :
    (ofList es).get? k = es.reverse.lookup k := by
  rw [ofList, get?_insertAll]
  exact Option.or_none

/-- If no name comes twice the map has the entries of the list. -/
theorem entries_ofList {es : List (String × α)} (h : (es.map Prod.fst).Nodup) :
    (ofList es).entries = es :=
  entries_insertAll h

/-! ## Maps of named things -/

variable {β : Type} (name : β → String) (value : β → α)

theorem lookup_map (k : String) (l : List β) :
    (l.map fun b => (name b, value b)).lookup k = (l.find? fun b => name b == k).map value := by
  induction l with
  | nil => rfl
  | cons b l ih =>
      rw [List.map_cons, lookup_cons_eq_ite, List.find?_cons, ih]
      by_cases h : name b = k
      · rw [if_pos h.symm, beq_iff_eq.2 h]
        rfl
      · rw [if_neg fun hk => h hk.symm, beq_false_of_ne h]

/-- Of several things with one name the last one is kept. -/
theorem get?_ofList_map (k : String) (l : List β) :
    (ofList (l.map fun b => (name b, value b))).get? k =
      (l.reverse.find? fun b => name b == k).map value := by
  rw [get?_ofList, ← List.map_reverse, lookup_map]

theorem keys_ofList_map (l : List β) :
    (ofList (l.map fun b => (name b, value b))).keys = (l.map name).eraseDups := by
  rw [keys_ofList, List.map_map]
  rfl

theorem entries_ofList_map {l : List β} (h : (l.map name).Nodup) :
    (ofList (l.map fun b => (name b, value b))).entries = l.map fun b => (name b, value b) := by
  refine entries_ofList ?_
  rw [List.map_map]
  exact h

end CiPipeline.OrderedMap

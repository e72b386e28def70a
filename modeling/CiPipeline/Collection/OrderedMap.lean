set_option autoImplicit false

/-! # Maps in insertion order

A map from names to values with its entries in the order in which the names came first.
Binding a name again replaces the value and leaves the entry where it stands.
-/

namespace CiPipeline

/-- Entries with distinct names. -/
structure OrderedMap (α : Type) where
  entries : List (String × α)
  nodup : (entries.map Prod.fst).Nodup
  deriving DecidableEq

namespace OrderedMap

variable {α β : Type}

/-! ## Binding in a list of entries -/

/-- The entries with `key` bound to `value`. -/
def putEntry (key : String) (value : α) : List (String × α) → List (String × α)
  | [] => [(key, value)]
  | e :: rest => if e.1 = key then (key, value) :: rest else e :: putEntry key value rest

theorem map_fst_putEntry (key : String) (value : α) (es : List (String × α)) :
    (putEntry key value es).map Prod.fst =
      if key ∈ es.map Prod.fst then es.map Prod.fst else es.map Prod.fst ++ [key] := by
  induction es with
  | nil => simp [putEntry]
  | cons e rest ih =>
      unfold putEntry
      by_cases h : e.1 = key
      · simp [h]
      · have h' : ¬ key = e.1 := fun hk => h hk.symm
        simp only [h, if_false, List.map_cons, ih, List.mem_cons, h', false_or]
        split <;> simp

theorem nodup_putEntry (key : String) (value : α) {es : List (String × α)}
    (h : (es.map Prod.fst).Nodup) : ((putEntry key value es).map Prod.fst).Nodup := by
  rw [map_fst_putEntry]
  split
  · exact h
  · rename_i hk
    refine List.nodup_append.2 ⟨h, by simp, ?_⟩
    intro a ha b hb hab
    simp only [List.mem_singleton] at hb
    exact hk (hb ▸ hab ▸ ha)

/-! ## Operations -/

/-- The map without entries. -/
def empty : OrderedMap α := ⟨[], List.nodup_nil⟩

/-- Binds `key` to `value`: at the place of an earlier value of `key`, else at the end. -/
def insert (m : OrderedMap α) (key : String) (value : α) : OrderedMap α :=
  ⟨putEntry key value m.entries, nodup_putEntry key value m.nodup⟩

/-- Binds every entry of the list in turn. -/
def insertAll (m : OrderedMap α) (es : List (String × α)) : OrderedMap α :=
  es.foldl (fun m e => m.insert e.1 e.2) m

/-- The map of a list of entries. -/
def ofList (es : List (String × α)) : OrderedMap α := empty.insertAll es

/-- The names in order. -/
def keys (m : OrderedMap α) : List String := m.entries.map Prod.fst

/-- The map binds `key`. -/
def contains (m : OrderedMap α) (key : String) : Bool := m.keys.contains key

/-- The value bound to `key`. -/
def get? (m : OrderedMap α) (key : String) : Option α := m.entries.lookup key

/-- The number of entries. -/
def size (m : OrderedMap α) : Nat := m.entries.length

/-- The map binds nothing. -/
def isEmpty (m : OrderedMap α) : Bool := m.entries.isEmpty

instance : Inhabited (OrderedMap α) := ⟨empty⟩

theorem keys_insert (m : OrderedMap α) (key : String) (value : α) :
    (m.insert key value).keys = if key ∈ m.keys then m.keys else m.keys ++ [key] :=
  map_fst_putEntry key value m.entries

end OrderedMap

end CiPipeline

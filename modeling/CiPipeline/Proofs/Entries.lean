import CiPipeline.Storage.Disk

set_option autoImplicit false

/-! # Entries of a disk

A disk is looked at as a map from places to entries: at each place there is a file with its
contents, a directory, or nothing. Putting a leaf changes this map at one place only
(`kindAt?_put`), so a run that writes files and makes directories can be followed on the map
alone.
-/

namespace CiPipeline.Disk

/-! ## Looking up names -/

section Lookup

variable {α : Type} {name key : String} {old new : α}

theorem lookup_map_of_eq {es : List (String × α)} (h : es.lookup name = some old) :
    (es.map fun e => if e.1 = name then (name, new) else e).lookup name = some new := by
  induction es with
  | nil => cases h
  | cons e es ih =>
      by_cases he : e.1 = name
      · rw [List.map_cons, if_pos he, List.lookup_cons_self]
      · have hne : (name == e.1) = false := beq_false_of_ne (Ne.symm he)
        rw [List.lookup_cons, hne] at h
        rw [List.map_cons, if_neg he, List.lookup_cons, hne]
        exact ih h

theorem lookup_map_of_ne (es : List (String × α)) (h : key ≠ name) :
    (es.map fun e => if e.1 = name then (name, new) else e).lookup key = es.lookup key := by
  induction es with
  | nil => rfl
  | cons e es ih =>
      rw [List.map_cons, List.lookup_cons, List.lookup_cons, ih]
      by_cases he : e.1 = name
      · rw [if_pos he, beq_false_of_ne h, he, beq_false_of_ne h]
      · rw [if_neg he]

end Lookup

/-! ## Nodes -/

namespace Node

theorem at?_append (n : Node) (p q : Place) : n.at? (p ++ q) = (n.at? p).bind (·.at? q) := by
  induction p generalizing n with
  | nil => rfl
  | cons name p ih =>
      cases n with
      | file c => rfl
      | directory es =>
          rw [List.cons_append, at?, at?]
          cases es.lookup name with
          | none => rfl
          | some n => exact ih n

/-- Nothing is below the node. -/
def IsLeaf (n : Node) : Prop := ∀ p, p ≠ [] → n.at? p = none

theorem isLeaf_file (c : Contents) : (file c).IsLeaf := by
  intro p hp
  cases p with
  | nil => exact absurd rfl hp
  | cons name p => rfl

theorem isLeaf_directory_nil : (directory []).IsLeaf := by
  intro p hp
  cases p with
  | nil => exact absurd rfl hp
  | cons name p => rfl

/-- What a node is, apart from what is below it. -/
inductive Kind where
  | file (c : Contents)
  | directory
  deriving DecidableEq

def kind : Node → Kind
  | file c => .file c
  | directory _ => .directory

theorem kind_eq_directory {n : Node} (h : n.kind = .directory) : ∃ es, n = directory es := by
  cases n with
  | file c => cases h
  | directory es => exact ⟨es, rfl⟩

/-- The entries of a directory once a node is put under one of their names, or a new one. -/
theorem exists_put_cons (new : Node) (name : String) (rest : Place)
    (es : List (String × Node)) (h : rest = [] ∨ ∃ n, es.lookup name = some n) :
    ∃ es', put new (name :: rest) (directory es) = directory es' ∧
      (es'.lookup name = match es.lookup name with
        | some n => some (put new rest n)
        | none => some new) ∧
      ∀ key, key ≠ name → es'.lookup key = es.lookup key := by
  rw [put]
  cases hn : es.lookup name with
  | some n =>
      exact ⟨_, rfl, lookup_map_of_eq hn, fun key hkey => lookup_map_of_ne es hkey⟩
  | none =>
      have hrest : rest = [] := by
        rcases h with h | ⟨n, h⟩
        · exact h
        · rw [hn] at h
          cases h
      refine ⟨es ++ [(name, new)], if_pos hrest, ?_, fun key hkey => ?_⟩
      · rw [List.lookup_append, hn]
        exact List.lookup_cons_self
      · rw [List.lookup_append, List.lookup_cons, beq_false_of_ne hkey]
        exact Option.or_none

/-- A leaf put into a directory changes nothing but the place it is put at. -/
theorem kind_at?_put {n new : Node} {here : Place} {name : String}
    (hhere : (n.at? here).map kind = some .directory) (hnew : new.IsLeaf)
    (hold : ∀ p, p ≠ [] → n.at? (here ++ name :: p) = none) (q : Place) :
    ((put new (here ++ [name]) n).at? q).map kind =
      if q = here ++ [name] then some new.kind else (n.at? q).map kind := by
  -- down the directories on the way; the last one gets the new entry
  induction here generalizing n q with
  | nil =>
      obtain ⟨m, hm, hkind⟩ := Option.map_eq_some_iff.1 hhere
      cases hm
      obtain ⟨es, rfl⟩ := kind_eq_directory hkind
      obtain ⟨es', hput, hself, hother⟩ := exists_put_cons new name [] es (Or.inl rfl)
      have hself : es'.lookup name = some new := by
        rw [hself]
        cases es.lookup name <;> rfl
      rw [List.nil_append, hput]
      cases q with
      | nil => rfl
      | cons key q =>
          by_cases hkey : key = name
          · subst hkey
            cases q with
            | nil => rw [if_pos rfl, at?, hself]; rfl
            | cons k q =>
                -- below the leaf there is nothing now, and there was nothing before
                have hbelow := hold (k :: q) (List.cons_ne_nil k q)
                rw [if_neg (by simp), at?, hself, Option.bind_some,
                  hnew _ (List.cons_ne_nil k q)]
                exact (congrArg (Option.map kind) hbelow).symm
          · rw [if_neg (by simp [hkey]), at?, hother key hkey, at?]
  | cons first here ih =>
      obtain ⟨m, hm, hkind⟩ := Option.map_eq_some_iff.1 hhere
      cases n with
      | file c => cases hm
      | directory es =>
          rw [at?] at hm
          obtain ⟨n, hn, hm⟩ := Option.bind_eq_some_iff.1 hm
          obtain ⟨es', hput, hself, hother⟩ :=
            exists_put_cons new first (here ++ [name]) es (Or.inr ⟨n, hn⟩)
          rw [hn] at hself
          have hold : ∀ p, p ≠ [] → n.at? (here ++ name :: p) = none := by
            intro p hp
            have := hold p hp
            rwa [List.cons_append, at?, hn] at this
          have ih := ih (n := n) (by rw [hm]; exact congrArg some hkind) hold
          rw [List.cons_append, hput]
          cases q with
          | nil => rfl
          | cons key q =>
              by_cases hkey : key = first
              · subst hkey
                rw [at?, hself, Option.bind_some, ih, at?, hn]
                simp
              · rw [if_neg (by simp [hkey]), at?, hother key hkey, at?]

end Node

/-! ## Disks -/

/-- What is at a place: a file, a directory or nothing. -/
def kindAt? (d : Disk) (p : Place) : Option Node.Kind := (d.at? p).map Node.kind

theorem kindAt?_nil (d : Disk) : d.kindAt? [] = some .directory := rfl

/-- What has something below it is a directory. -/
theorem kindAt?_of_append {d : Disk} {p q : Place} (hq : q ≠ [])
    (h : d.kindAt? (p ++ q) ≠ none) : d.kindAt? p = some .directory := by
  rw [kindAt?, at?, Node.at?_append] at h
  rw [kindAt?, at?]
  cases hn : d.top.at? p with
  | none => rw [hn] at h; exact absurd rfl h
  | some n =>
      cases n with
      | directory es => rfl
      | file c =>
          rw [hn, Option.bind_some, Node.isLeaf_file c q hq] at h
          exact absurd rfl h

/-- **Putting a leaf**: a file, or an empty directory, that goes into a directory where there
is none yet changes the disk at its own place only. -/
theorem kindAt?_put {d : Disk} {here : Place} {name : String} {n : Node}
    (hhere : d.kindAt? here = some .directory) (hn : n.IsLeaf)
    (hold : d.kindAt? (here ++ [name]) ≠ some .directory) (q : Place) :
    (d.put (here ++ [name]) n).kindAt? q =
      if q = here ++ [name] then some n.kind else d.kindAt? q := by
  have hbelow : ∀ p, p ≠ [] → d.top.at? (here ++ name :: p) = none := by
    intro p hp
    cases hm : d.top.at? (here ++ name :: p) with
    | none => rfl
    | some m =>
        refine absurd (kindAt?_of_append hp ?_) hold
        rw [kindAt?, at?, List.append_assoc, List.singleton_append, hm]
        exact Option.some_ne_none _
  have htop : (d.put (here ++ [name]) n).top = Node.put n (here ++ [name]) d.top := by
    rw [put]
    cases h : Node.put n (here ++ [name]) d.top with
    | directory es => rfl
    | file c =>
        have := Node.kind_at?_put hhere hn hbelow []
        rw [h, if_neg (by simp)] at this
        cases this
  rw [kindAt?, at?, htop]
  exact Node.kind_at?_put hhere hn hbelow q

/-! ## Directories that stay -/

/-- Every directory of `d` is still there in `d'`. -/
def Keeps (d d' : Disk) : Prop :=
  ∀ p, d.kindAt? p = some .directory → d'.kindAt? p = some .directory

/-- `d'` is `d` with more directories where there was nothing. -/
def Grows (d d' : Disk) : Prop :=
  ∀ p, d'.kindAt? p = d.kindAt? p ∨ d.kindAt? p = none ∧ d'.kindAt? p = some .directory

theorem Grows.refl (d : Disk) : d.Grows d := fun _ => Or.inl rfl

theorem Grows.eq_of_ne_none {d d' : Disk} (h : d.Grows d') {p : Place} (hp : d.kindAt? p ≠ none) :
    d'.kindAt? p = d.kindAt? p := by
  rcases h p with h | ⟨hnone, -⟩
  · exact h
  · exact absurd hnone hp

theorem Grows.keeps {d d' : Disk} (h : d.Grows d') : d.Keeps d' := by
  intro p hp
  rw [h.eq_of_ne_none (by rw [hp]; exact Option.some_ne_none _), hp]

/-- `d'` is `d` with more directories where there was nothing, at places of one kind. -/
def GrowsAt (d d' : Disk) (made : Place → Prop) : Prop :=
  ∀ p, d'.kindAt? p = d.kindAt? p ∨
    made p ∧ d.kindAt? p = none ∧ d'.kindAt? p = some .directory

namespace GrowsAt

variable {d d₁ d₂ : Disk} {made other : Place → Prop}

theorem refl (d : Disk) (made : Place → Prop) : d.GrowsAt d made := fun _ => Or.inl rfl

theorem trans (h₁ : d.GrowsAt d₁ made) (h₂ : d₁.GrowsAt d₂ made) : d.GrowsAt d₂ made := by
  intro p
  rcases h₁ p with h₁ | ⟨hmade, hnone, h₁⟩
  · rw [← h₁]
    exact h₂ p
  · -- a directory that has been made stays
    refine Or.inr ⟨hmade, hnone, ?_⟩
    rcases h₂ p with h₂ | ⟨-, hnone, -⟩
    · rw [h₂, h₁]
    · rw [h₁] at hnone
      cases hnone

theorem mono (hmade : ∀ p, made p → other p) (h : d.GrowsAt d₁ made) : d.GrowsAt d₁ other :=
  fun p => (h p).imp_right fun hp => ⟨hmade p hp.1, hp.2⟩

theorem grows (h : d.GrowsAt d₁ made) : d.Grows d₁ := fun p => (h p).imp_right And.right

end GrowsAt

end CiPipeline.Disk

import CiPipeline.Proofs.Following
import CiPipeline.Proofs.Parents

set_option autoImplicit false

/-! # Reading and writing on a disk

What is read depends on the entry that a path leads to, a successful write changes this entry
alone, a write that fails changes nothing, and making directories only adds directories.
-/

namespace CiPipeline.Disk

variable {d d' : Disk} {p : Path} {text : String} {c : Contents} {place : Place}

/-! ## Reading -/

theorem read_eq_ok_iff :
    d.read p = .ok text ↔
      ∃ place, d.LeadsTo p place false ∧ d.kindAt? place = some (.file (.text text)) := by
  constructor
  · intro h
    rw [read] at h
    split at h
    · cases h
    · rename_i spot hspot
      split at h
      · cases h
      · cases h
      · cases h
      · rename_i c hfound
        obtain ⟨hleads, hat⟩ := leadsTo_of_find hspot hfound
        split at h
        · cases h
        · rename_i hslash
          split at h
          · cases h
            rw [Bool.not_eq_true] at hslash
            rw [hslash] at hleads
            refine ⟨spot.place, hleads, ?_⟩
            rw [kindAt?, ← hat]
            rfl
          · cases h
  · rintro ⟨place, hleads, hentry⟩
    obtain ⟨n, hn, hkind⟩ := Option.map_eq_some_iff.1 hentry
    cases n with
    | directory es => cases hkind
    | file c =>
        cases hkind
        rw [read, find_of_leadsTo hleads, hn]
        rfl

/-- Texts can still be read when directories are added. -/
theorem Grows.read (hg : d.Grows d') (h : d.read p = .ok text) : d'.read p = .ok text := by
  obtain ⟨place, hleads, hentry⟩ := read_eq_ok_iff.1 h
  refine read_eq_ok_iff.2 ⟨place, hleads.mono hg.keeps, ?_⟩
  rw [hg.eq_of_ne_none (by rw [hentry]; exact Option.some_ne_none _), hentry]

/-! ## Writing -/

/-- A leaf that is put where a path leads, and where no directory is, changes nothing else. -/
theorem kindAt?_put_of_leadsTo {n : Node} {slash : Bool} (h : d.LeadsTo p place slash)
    (hplace : d.kindAt? place ≠ some .directory) (hn : n.IsLeaf) (q : Place) :
    (d.put place n).kindAt? q = if q = place then some n.kind else d.kindAt? q := by
  obtain ⟨above, name, rfl, habove⟩ := h.leads.parent (kindAt?_nil d) hplace
  exact kindAt?_put habove hn hplace q

/-- **A successful write** puts the contents where the path leads, where no directory is, and
changes nothing else. -/
theorem write_eq_ok (h : d.write p c = (.ok (), d')) :
    ∃ place, d.LeadsTo p place false ∧ d.kindAt? place ≠ some .directory ∧
      ∀ q, d'.kindAt? q = if q = place then some (.file c) else d.kindAt? q := by
  rw [write] at h
  split at h
  · cases h
  · rename_i spot hspot
    split at h
    · cases h
    · rename_i hslash
      split at h
      · cases h
      · cases h
      · rename_i n hno hfound
        cases h
        obtain ⟨hleads, hat⟩ := leadsTo_of_find hspot hfound
        rw [Bool.not_eq_true] at hslash
        rw [hslash] at hleads
        have hfile : d.kindAt? spot.place ≠ some .directory := by
          intro hdir
          obtain ⟨m, hm, hkind⟩ := Option.map_eq_some_iff.1 hdir
          obtain ⟨es, rfl⟩ := Node.kind_eq_directory hkind
          exact hno es (hat.trans hm)
        exact ⟨spot.place, hleads, hfile,
          kindAt?_put_of_leadsTo hleads hfile (Node.isLeaf_file c)⟩

/-- A write that fails leaves the disk as it is. -/
theorem write_eq_error {e : Storage.Error} (h : d.write p c = (.error e, d')) : d' = d := by
  rw [write] at h
  split at h
  · cases h
    rfl
  · split at h
    · cases h
      rfl
    · split at h
      · cases h
        rfl
      · cases h
        rfl
      · cases h

theorem keeps_of_write (h : d.write p c = (.ok (), d')) : d.Keeps d' := by
  obtain ⟨place, -, hfile, hentry⟩ := write_eq_ok h
  intro q hq
  rw [hentry, if_neg, hq]
  rintro rfl
  exact hfile hq

theorem read_of_write (h : d.write p (.text text) = (.ok (), d')) : d'.read p = .ok text := by
  obtain ⟨place, hleads, -, hentry⟩ := write_eq_ok h
  refine read_eq_ok_iff.2 ⟨place, hleads.mono (keeps_of_write h), ?_⟩
  rw [hentry, if_pos rfl]

/-- **Other files below the root** are read as before, unless their names are those of the
file that is written. -/
theorem read_of_write_of_isPlain {root p q : Path} {ns ms : List String} {text other : String}
    (hp : p.IsPlain ns) (hq : q.IsPlain ms)
    (h : d.write (root.join p) (.text text) = (.ok (), d'))
    (hr : d.read (root.join q) = .ok other) :
    d'.read (root.join q) = .ok (if p.components = q.components then text else other) := by
  obtain ⟨a, ha, -, hentry⟩ := write_eq_ok h
  obtain ⟨b, hb, hother⟩ := read_eq_ok_iff.1 hr
  refine read_eq_ok_iff.2 ⟨b, hb.mono (keeps_of_write h), ?_⟩
  -- both paths lead to the same places before and after, so only the entry there can change
  have hiff := place_eq_iff hp hq ha hb
  rw [hentry b]
  by_cases hab : b = a
  · rw [if_pos hab, if_pos (hiff.1 hab.symm)]
  · rw [if_neg hab, if_neg fun hns => hab (hiff.2 hns).symm, hother]

/-! ## Making directories -/

/-- Whatever the computation does, it only adds directories, at places of one kind. -/
def OnlyMakes {α : Type} (made : Place → Prop) (x : StateM Disk α) : Prop :=
  ∀ d : Disk, d.GrowsAt (x.run d).2 made

section OnlyMakes

variable {α β : Type} {made other : Place → Prop}

theorem OnlyMakes.pure (a : α) : OnlyMakes made (Pure.pure a : StateM Disk α) :=
  fun d => .refl d made

theorem OnlyMakes.bind {x : StateM Disk α} {f : α → StateM Disk β} (hx : OnlyMakes made x)
    (hf : ∀ a, OnlyMakes made (f a)) : OnlyMakes made (x >>= f) :=
  fun d => (hx d).trans (hf _ _)

theorem OnlyMakes.mono {x : StateM Disk α} (hmade : ∀ q, made q → other q)
    (hx : OnlyMakes made x) : OnlyMakes other x :=
  fun d => (hx d).mono hmade

end OnlyMakes

/-- A directory is made at the destination of its path, if at all. -/
theorem onlyMakes_makeDirectory (p : Path) :
    OnlyMakes (· = destination p) (FileStore.makeDirectory p : StateM Disk _) := by
  intro d
  show d.GrowsAt (d.makeDirectory p).2 _
  rw [makeDirectory]
  split
  · exact .refl d _
  · rename_i spot hspot
    split
    · exact .refl d _
    · exact .refl d _
    · rename_i hfound
      obtain ⟨hleads, hat⟩ := leadsTo_of_find hspot hfound
      have hnone : d.kindAt? spot.place = none := by
        rw [kindAt?, ← hat]
        rfl
      have hno : d.kindAt? spot.place ≠ some .directory := by
        rw [hnone]
        exact (Option.some_ne_none _).symm
      intro q
      rw [kindAt?_put_of_leadsTo hleads hno Node.isLeaf_directory_nil]
      by_cases hq : q = spot.place
      · rw [hq]
        exact Or.inr ⟨hleads.place_eq, hnone, if_pos rfl⟩
      · exact Or.inl (if_neg hq)

theorem onlyMakes_isDirectory (made : Place → Prop) (p : Path) :
    OnlyMakes made (FileStore.isDirectory p : StateM Disk _) := by
  refine OnlyMakes.bind (fun d => .refl d made) fun r => ?_
  split <;> exact .pure _

theorem onlyMakes_ensureDirectory (p : Path) :
    OnlyMakes (· = destination p) (FileStore.ensureDirectory p : StateM Disk _) := by
  refine OnlyMakes.bind (onlyMakes_makeDirectory p) fun r => ?_
  split
  · exact .pure _
  · refine OnlyMakes.bind (onlyMakes_isDirectory _ p) fun b => ?_
    split <;> exact .pure _

theorem onlyMakes_ensureFirst (ps : List Path) :
    OnlyMakes (fun q => ∃ p ∈ ps, q = destination p)
      (FileStore.ensureFirst ps : StateM Disk _) := by
  induction ps with
  | nil => exact .pure _
  | cons p ps ih =>
      have hfirst : OnlyMakes (fun q => ∃ r ∈ p :: ps, q = destination r)
          (FileStore.ensureDirectory p : StateM Disk _) :=
        (onlyMakes_ensureDirectory p).mono fun q hq => ⟨p, List.mem_cons_self, hq⟩
      have hrest : OnlyMakes (fun q => ∃ r ∈ p :: ps, q = destination r)
          (FileStore.ensureFirst ps : StateM Disk _) :=
        ih.mono fun q ⟨r, hr, hq⟩ => ⟨r, List.mem_cons_of_mem p hr, hq⟩
      rw [FileStore.ensureFirst]
      split
      · exact .pure _
      · refine OnlyMakes.bind hfirst fun r => ?_
        split
        · refine OnlyMakes.bind hrest fun r => ?_
          split
          · exact hfirst
          · exact .pure _
        · exact .pure _

/-- **Making the directories above a path** only adds directories, on the way to its last
piece. -/
theorem onlyMakes_ensureDirectories {above : Path} (h : p.parent? = some above) :
    OnlyMakes (Before p) (FileStore.ensureDirectories above : StateM Disk _) := by
  refine (onlyMakes_ensureFirst above.ancestors).mono fun q ⟨a, ha, hq⟩ => ?_
  exact hq ▸ Path.before_of_mem_ancestors h ha

end CiPipeline.Disk

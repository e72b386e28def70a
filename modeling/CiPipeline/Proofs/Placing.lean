import CiPipeline.Proofs.Directories

set_option autoImplicit false

/-! # Making directories and putting files

If no file is in the way to a place, making the directories on the way succeeds and fills the
place up with directories (`Below.ensureFirst_climb`). Once a file is put there, all that has
changed is this file and directories above it where there was nothing (`Settled`). A read of a
place that is neither above nor below sees none of this (`Settled.read_eq`).
-/

namespace CiPipeline.Disk

variable {d d' d₁ : Disk} {p : Path} {x : String} {base post init place other : Place}

/-! ## Making directories -/

/-- All that has changed is that the place is a directory, and all that is above it. -/
def Filled (d d' : Disk) (place : Place) : Prop :=
  ∀ q, d'.kindAt? q = if q <+: place then some .directory else d.kindAt? q

theorem filled_self (h : d.kindAt? place = some .directory) : d.Filled d place := by
  intro q
  split
  · rename_i hq
    exact kindAt?_of_isPrefix h hq
  · rfl

theorem Filled.keeps (h : d.Filled d' place) : d.Keeps d' := by
  intro q hq
  rw [h q]
  split
  · rfl
  · exact hq

theorem Filled.trans {d₂ : Disk} {p q : Place} (h₁ : d.Filled d₁ p) (h₂ : d₁.Filled d₂ q)
    (hpq : p <+: q) : d.Filled d₂ q := by
  intro r
  rw [h₂ r]
  split
  · rfl
  · rename_i hr
    rw [h₁ r, if_neg fun hrp => hr (hrp.trans hpq)]

/-- An empty directory is put into a directory. -/
theorem filled_put (hdir : d.kindAt? place = some .directory)
    (hnone : d.kindAt? (place ++ [x]) = none) :
    d.Filled (d.put (place ++ [x]) (.directory [])) (place ++ [x]) := by
  intro q
  rw [kindAt?_put hdir Node.isLeaf_directory_nil (by rw [hnone]; exact nofun)]
  by_cases hq : q = place ++ [x]
  · rw [if_pos hq, if_pos (hq ▸ List.prefix_rfl)]
    rfl
  · rw [if_neg hq]
    split
    · rename_i hprefix
      have habove : q <+: place := (List.prefix_concat_iff.1 hprefix).resolve_left hq
      exact kindAt?_of_isPrefix hdir habove
    · rfl

theorem isDirectory_run (p : Path) (d : Disk) :
    (FileStore.isDirectory p : StateM Disk _).run d =
      (decide (d.read p = .error .isADirectory), d) := by
  have hread : (FileStore.read p : StateM Disk _).run d = (d.read p, d) := rfl
  rw [FileStore.isDirectory, StateT.run_bind, hread]
  cases d.read p with
  | ok text => rfl
  | error e => cases e <;> rfl

theorem ensureDirectory_run (p : Path) (d : Disk) :
    (FileStore.ensureDirectory p : StateM Disk _).run d =
      match d.makeDirectory p with
      | (.ok (), d₁) => (.ok (), d₁)
      | (.error e, d₁) =>
          if d₁.read p = .error .isADirectory then (.ok (), d₁) else (.error e, d₁) := by
  have hmake : (FileStore.makeDirectory p : StateM Disk _).run d = d.makeDirectory p := rfl
  rw [FileStore.ensureDirectory, StateT.run_bind, hmake]
  rcases d.makeDirectory p with ⟨r, d₁⟩
  cases r with
  | ok a => rfl
  | error e =>
      show ((FileStore.isDirectory p >>= fun b => if b = true then _ else _ :
        StateM Disk (Except Storage.Error Unit))).run d₁ = _
      rw [StateT.run_bind, isDirectory_run]
      by_cases hdir : d₁.read p = .error .isADirectory
      · rw [decide_eq_true hdir]
        exact (if_pos hdir).symm
      · rw [decide_eq_false hdir]
        exact (if_neg hdir).symm

theorem ensureFirst_of_ok (hp : p.text ≠ "") (above : List Path)
    (h : (FileStore.ensureDirectory p : StateM Disk _).run d = (.ok (), d')) :
    (FileStore.ensureFirst (p :: above) : StateM Disk _).run d = (.ok (), d') := by
  rw [FileStore.ensureFirst, if_neg hp, StateT.run_bind, h]
  rfl

/-- A second attempt is made once the directories above are there. -/
theorem ensureFirst_of_notFound {above : List Path} (hp : p.text ≠ "")
    (h : (FileStore.ensureDirectory p : StateM Disk _).run d = (.error .notFound, d))
    (habove : (FileStore.ensureFirst above : StateM Disk _).run d = (.ok (), d₁))
    (hagain : (FileStore.ensureDirectory p : StateM Disk _).run d₁ = (.ok (), d')) :
    (FileStore.ensureFirst (p :: above) : StateM Disk _).run d = (.ok (), d') := by
  rw [FileStore.ensureFirst, if_neg hp, StateT.run_bind, h]
  show ((FileStore.ensureFirst above >>= fun r => _ :
    StateM Disk (Except Storage.Error Unit))).run d = _
  rw [StateT.run_bind, habove]
  exact hagain

/-- What can be entered is a directory already. -/
theorem ensureDirectory_of_enter (hfits : Fits p) (hp : p.text ≠ "")
    (h : d.enter [] (names p) = .ok place) :
    (FileStore.ensureDirectory p : StateM Disk _).run d = (.ok (), d) := by
  obtain ⟨⟨slash, hleads⟩, hplace⟩ := leads_of_enter h (kindAt?_nil d)
  have hfind := find_of_leadsTo ⟨hfits.nul, hp, hfits.short, hleads⟩
  obtain ⟨n, hn, hkind⟩ := Option.map_eq_some_iff.1 hplace
  obtain ⟨es, rfl⟩ := Node.kind_eq_directory hkind
  rw [hn] at hfind
  have hmake : d.makeDirectory p = (.error .alreadyExists, d) := by
    rw [makeDirectory, hfind]
  have hread : d.read p = .error .isADirectory := by
    rw [read, hfind]
  rw [ensureDirectory_run, hmake]
  exact if_pos hread

theorem ensureDirectory_of_missing {before : List String} (hfits : Fits p)
    (hp : names p = before ++ [x]) (hx : IsFit x) (h : d.enter [] before = .error .notFound) :
    (FileStore.ensureDirectory p : StateM Disk _).run d = (.error .notFound, d) := by
  have hmake : d.makeDirectory p = (.error .notFound, d) := by
    rw [makeDirectory, find_concat hfits hp hx, h]
    rfl
  have hread : d.read p = .error .notFound := by
    rw [read_concat hfits hp hx, h]
    rfl
  rw [ensureDirectory_run, hmake]
  refine if_neg ?_
  rw [hread]
  decide

namespace Below

/-- With all directories on the way, one more is made unless a file is there. -/
theorem ensureDirectory (h : d.Below p base (init ++ [x])) (hp : p.text ≠ "")
    (hdir : d.kindAt? (base ++ init) = some .directory)
    (hfree : ¬ d.Blocked (base ++ init ++ [x])) :
    ∃ d', (FileStore.ensureDirectory p : StateM Disk _).run d = (.ok (), d') ∧
      d.Filled d' (base ++ init ++ [x]) := by
  obtain ⟨before, hnames, henter, -⟩ := h.exists_names
  rw [enter_below h.base_directory h.isFit_init, if_pos hdir] at henter
  cases hkind : d.kindAt? (base ++ init ++ [x]) with
  | some k =>
      cases k with
      | file c => exact absurd (blocked_of_file hkind) hfree
      | directory =>
          have hself : d.enter [] (names p) = .ok (base ++ (init ++ [x])) := by
            rw [h.enter_eq, enter_below h.base_directory h.isFit, ← List.append_assoc,
              if_pos hkind]
          exact ⟨d, ensureDirectory_of_enter h.fits hp hself, filled_self hkind⟩
  | none =>
      have hat : d.at? (base ++ init ++ [x]) = none := Option.map_eq_none_iff.1 hkind
      have hmake : d.makeDirectory p =
          (.ok (), d.put (base ++ init ++ [x]) (.directory [])) := by
        rw [makeDirectory, find_concat h.fits hnames h.isFit_last, henter]
        simp only [Except.map, hat]
      refine ⟨d.put (base ++ init ++ [x]) (.directory []), ?_, filled_put hdir hkind⟩
      rw [ensureDirectory_run, hmake]

/-- Once the directories before it are made, the last one is. -/
theorem ensureDirectory_of_filled (h : d.Below p base (init ++ [x])) (hp : p.text ≠ "")
    (hmissing : d.kindAt? (base ++ init) ≠ some .directory)
    (hfilled : d.Filled d₁ (base ++ init)) :
    ∃ d', (FileStore.ensureDirectory p : StateM Disk _).run d₁ = (.ok (), d') ∧
      d.Filled d' (base ++ init ++ [x]) := by
  have hdir : d₁.kindAt? (base ++ init) = some .directory := by
    rw [hfilled, if_pos List.prefix_rfl]
  have hnone : d₁.kindAt? (base ++ init ++ [x]) = none := by
    rw [hfilled, if_neg (not_concat_isPrefix (base ++ init) x)]
    exact kindAt?_concat_eq_none hmissing
  have hfree : ¬ d₁.Blocked (base ++ init ++ [x]) := by
    rw [blocked_concat hnone]
    exact not_blocked_of_directory hdir
  obtain ⟨d', hrun, hfilled'⟩ := (h.mono hfilled.keeps).ensureDirectory hp hdir hfree
  exact ⟨d', hrun, hfilled.trans hfilled' (List.prefix_append _ _)⟩

/-- **Making the directories on the way** succeeds if no file is in the way, and fills the place
up with directories and nothing else. -/
theorem ensureFirst_climb (h : d.Below p base post) (hfree : ¬ d.Blocked (base ++ post)) {n : Nat}
    (hn : p.text.length ≤ n) :
    ∃ d', (FileStore.ensureFirst (Path.ancestors.climb n p) : StateM Disk _).run d =
        (.ok (), d') ∧
      d.Filled d' (base ++ post) := by
  -- up from the place: each name is made once what is before it is there
  induction post using List.reverseRecOn generalizing p n with
  | nil =>
      obtain ⟨above, habove⟩ := Path.exists_climb n p
      rw [habove, List.append_nil]
      refine ⟨d, ?_, filled_self h.base_directory⟩
      by_cases hp : p.text = ""
      · rw [FileStore.ensureFirst, if_pos hp]
        rfl
      · exact ensureFirst_of_ok hp above (ensureDirectory_of_enter h.fits hp h.enter_eq)
  | append_singleton init x ih =>
      obtain ⟨before, hnames, henter, -⟩ := h.exists_names
      have hp : p.text ≠ "" := text_ne_empty hnames h.isFit_last.1
      rw [← List.append_assoc] at hfree ⊢
      by_cases hdir : d.kindAt? (base ++ init) = some .directory
      · obtain ⟨above, habove⟩ := Path.exists_climb n p
        obtain ⟨d', hrun, hfilled⟩ := h.ensureDirectory hp hdir hfree
        rw [habove]
        exact ⟨d', ensureFirst_of_ok hp above hrun, hfilled⟩
      · have hinit : ¬ d.Blocked (base ++ init) :=
          fun hblocked => hfree (hblocked.of_isPrefix (List.prefix_append _ _))
        rw [enter_below h.base_directory h.isFit_init, if_neg hdir, if_neg hinit] at henter
        obtain ⟨q, hq, hbelow, hlen⟩ := h.parent
        obtain ⟨m, rfl⟩ : ∃ m, n = m + 1 := ⟨n - 1, by omega⟩
        obtain ⟨d₁, hrun, hfilled⟩ := ih hbelow hinit (n := m) (by omega)
        obtain ⟨d', hagain, hfilled'⟩ := h.ensureDirectory_of_filled hp hdir hfilled
        rw [Path.climb_of_parent hq]
        exact ⟨d', ensureFirst_of_notFound hp
          (ensureDirectory_of_missing h.fits hnames h.isFit_last henter) hrun hagain, hfilled'⟩

end Below

/-! ## Changes elsewhere -/

/-- All that has changed is what is at a place, where there was no directory, and that there are
directories above it where there was nothing. -/
def Settled (d d' : Disk) (place : Place) : Prop :=
  ∀ q, d'.kindAt? q = d.kindAt? q ∨ q = place ∧ d.kindAt? q ≠ some .directory ∨
    q <+: place ∧ d.kindAt? q = none ∧ d'.kindAt? q = some .directory

theorem Settled.refl (d : Disk) (place : Place) : d.Settled d place := fun _ => Or.inl rfl

theorem Settled.keeps (h : d.Settled d' place) : d.Keeps d' := by
  intro q hq
  rcases h q with hsame | ⟨-, hno⟩ | ⟨-, -, hdir⟩
  · rw [hsame, hq]
  · exact absurd hq hno
  · exact hdir

theorem Settled.kindAt?_eq (h : d.Settled d' place) (hbelow : ¬ place <+: other)
    (habove : ¬ other <+: place) : d'.kindAt? other = d.kindAt? other := by
  rcases h other with hsame | ⟨rfl, -⟩ | ⟨hle, -⟩
  · exact hsame
  · exact absurd List.prefix_rfl hbelow
  · exact absurd hle habove

/-- Only the file at the place can come in the way, and it is in the way of what is below. -/
theorem Settled.blocked_iff (h : d.Settled d' place) (hbelow : ¬ place <+: other) :
    d'.Blocked other ↔ d.Blocked other := by
  refine exists_congr fun q => and_congr_right fun hq => ?_
  rcases h q with hsame | ⟨rfl, -⟩ | ⟨-, hnone, hdir⟩
  · rw [hsame]
  · exact absurd hq hbelow
  · simp [hnone, hdir]

/-- **Other places are read as before.** -/
theorem Settled.read_eq (h : d.Settled d' place) (hp : d.Below p base post) (hpost : post ≠ [])
    (hbelow : ¬ place <+: base ++ post) (habove : ¬ base ++ post <+: place) :
    d'.read p = d.read p := by
  rw [(hp.mono h.keeps).read_eq hpost, hp.read_eq hpost]
  simp only [h.kindAt?_eq hbelow habove, h.blocked_iff hbelow]

/-! ## Putting a file -/

/-- What can be read, or is missing, can be written: no file is in the way, and there is no
directory. -/
theorem Below.free_of_read (h : d.Below p base (init ++ [x]))
    (hread : (∃ text, d.read p = .ok text) ∨ d.read p = .error .notFound) :
    ¬ d.Blocked (base ++ init) ∧ d.kindAt? (base ++ init ++ [x]) ≠ some .directory := by
  rw [h.read_eq (by simp), ← List.append_assoc] at hread
  cases hkind : d.kindAt? (base ++ init ++ [x]) with
  | none =>
      refine ⟨fun hblocked => ?_, nofun⟩
      rw [if_pos ⟨hkind, (blocked_concat hkind).2 hblocked⟩] at hread
      simp at hread
  | some k =>
      have hdir : d.kindAt? (base ++ init) = some .directory :=
        kindAt?_of_append (List.cons_ne_nil x []) (by rw [hkind]; exact nofun)
      refine ⟨not_blocked_of_directory hdir, fun hk => ?_⟩
      rw [hkind, hk, if_neg (by simp)] at hread
      simp [reading] at hread

/-- A file is put where all directories on the way are there. -/
theorem Below.write_eq (h : d.Below p base (init ++ [x]))
    (hdir : d.kindAt? (base ++ init) = some .directory)
    (hplace : d.kindAt? (base ++ init ++ [x]) ≠ some .directory) (c : Contents) :
    d.write p c = (.ok (), d.put (base ++ init ++ [x]) (.file c)) := by
  obtain ⟨before, hnames, henter, -⟩ := h.exists_names
  rw [enter_below h.base_directory h.isFit_init, if_pos hdir] at henter
  rw [write, find_concat h.fits hnames h.isFit_last, henter]
  rw [kindAt?] at hplace
  cases hat : d.at? (base ++ init ++ [x]) with
  | none => simp only [Except.map, hat, Bool.false_eq_true, if_false]
  | some n =>
      cases n with
      | file c => simp only [Except.map, hat, Bool.false_eq_true, if_false]
      | directory es =>
          rw [hat] at hplace
          exact absurd rfl hplace

/-- Directories are made on the way, and then the file is put. -/
theorem settled_of_filled (h : d.Filled d₁ (base ++ init))
    (hfree : ¬ d.Blocked (base ++ init))
    (hplace : d.kindAt? (base ++ init ++ [x]) ≠ some .directory) {c : Contents}
    (hput : ∀ q, d'.kindAt? q =
      if q = base ++ init ++ [x] then some (.file c) else d₁.kindAt? q) :
    d.Settled d' (base ++ init ++ [x]) := by
  intro q
  rw [hput q]
  by_cases hq : q = base ++ init ++ [x]
  · exact Or.inr (Or.inl ⟨hq, hq ▸ hplace⟩)
  · rw [if_neg hq, h q]
    by_cases hle : q <+: base ++ init
    · rw [if_pos hle]
      by_cases hnone : d.kindAt? q = none
      · exact Or.inr (Or.inr ⟨hle.trans (List.prefix_append _ _), hnone, rfl⟩)
      · -- what is there above the place is a directory, since no file is in the way
        by_cases hdir : d.kindAt? q = some .directory
        · exact Or.inl hdir.symm
        · exact absurd ⟨q, hle, hnone, hdir⟩ hfree
    · exact Or.inl (if_neg hle)

end CiPipeline.Disk

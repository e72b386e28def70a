import Mathlib.Data.List.Infix
import CiPipeline.Proofs.Parents
import CiPipeline.Proofs.Storing

set_option autoImplicit false

/-! # Names below a directory

Names that are followed from a directory lead through further directories to a place. If one
of these is missing there is nothing at the place, because nothing has been put there yet or
because a file is in the way (`Blocked`). So what a read gives is decided by what is at the
place, and by whether it is blocked (`Below.read_eq`).
-/

namespace CiPipeline.Disk

variable {d d' : Disk} {p : Path} {x : String} {here base place : Place}

/-! ## Files in the way -/

/-- There is a file at the place or above it. -/
def Blocked (d : Disk) (place : Place) : Prop :=
  ∃ q, q <+: place ∧ d.kindAt? q ≠ none ∧ d.kindAt? q ≠ some .directory

instance (d : Disk) (place : Place) : Decidable (d.Blocked place) :=
  decidable_of_iff
    (∃ q ∈ place.inits, d.kindAt? q ≠ none ∧ d.kindAt? q ≠ some .directory)
    (by simp only [List.mem_inits, Blocked])

theorem not_concat_isPrefix (place : Place) (x : String) : ¬ place ++ [x] <+: place := by
  intro hle
  have hlen := hle.length_le
  rw [List.length_append, List.length_singleton] at hlen
  omega

theorem kindAt?_of_isPrefix {q : Place} (h : d.kindAt? place = some .directory)
    (hq : q <+: place) : d.kindAt? q = some .directory := by
  obtain ⟨more, rfl⟩ := hq
  by_cases hmore : more = []
  · rwa [hmore, List.append_nil] at h
  · refine kindAt?_of_append hmore ?_
    rw [h]
    exact Option.some_ne_none _

/-- There is nothing below what is not a directory. -/
theorem kindAt?_concat_eq_none (h : d.kindAt? place ≠ some .directory) :
    d.kindAt? (place ++ [x]) = none := by
  by_contra hsome
  exact h (kindAt?_of_append (List.cons_ne_nil _ _) hsome)

theorem not_blocked_of_directory (h : d.kindAt? place = some .directory) :
    ¬ d.Blocked place := by
  rintro ⟨q, hq, -, hfile⟩
  exact hfile (kindAt?_of_isPrefix h hq)

theorem blocked_of_file {c : Contents} (h : d.kindAt? place = some (.file c)) :
    d.Blocked place := by
  refine ⟨place, List.prefix_rfl, ?_⟩
  rw [h]
  exact ⟨nofun, nofun⟩

/-- What is below a file, or below something that is blocked, is blocked. -/
theorem Blocked.of_isPrefix {q : Place} (h : d.Blocked q) (hq : q <+: place) :
    d.Blocked place := by
  obtain ⟨r, hr, hentry⟩ := h
  exact ⟨r, hr.trans hq, hentry⟩

theorem blocked_concat (hnone : d.kindAt? (place ++ [x]) = none) :
    d.Blocked (place ++ [x]) ↔ d.Blocked place := by
  constructor
  · rintro ⟨q, hq, hsome, hfile⟩
    rcases List.prefix_concat_iff.1 hq with rfl | hq
    · exact absurd hnone hsome
    · exact ⟨q, hq, hsome, hfile⟩
  · exact fun h => h.of_isPrefix (List.prefix_append _ _)

/-! ## Following names -/

/-- The piece can be the name of something. -/
def IsFit (x : String) : Prop := IsName x ∧ ¬ 255 < x.utf8ByteSize

theorem enter_singleton (hx : IsFit x) :
    d.enter here [x] = match d.kindAt? (here ++ [x]) with
      | some .directory => .ok (here ++ [x])
      | some (.file _) => .error .notADirectory
      | none => .error .notFound := by
  obtain ⟨hname, hshort⟩ := hx
  rw [enter, if_neg (not_or.2 ⟨hname.1, hname.2.1⟩), if_neg hname.2.2, look, if_neg hshort,
    kindAt?]
  cases d.at? (here ++ [x]) with
  | none => rfl
  | some n => cases n <;> rfl

/-- **Names are followed** to their place if it is a directory; else there is a file in the way
or nothing. -/
theorem enter_below {post : Place} (hbase : d.kindAt? base = some .directory)
    (hpost : ∀ s ∈ post, IsFit s) :
    d.enter base post =
      if d.kindAt? (base ++ post) = some .directory then .ok (base ++ post)
      else if d.Blocked (base ++ post) then .error .notADirectory else .error .notFound := by
  induction post using List.reverseRecOn with
  | nil =>
      rw [List.append_nil, if_pos hbase]
      rfl
  | append_singleton init x ih =>
      have hinit : ∀ s ∈ init, IsFit s := fun s hs => hpost s (List.mem_append_left _ hs)
      have hx : IsFit x := hpost x (List.mem_append_right _ List.mem_cons_self)
      rw [enter_append, ih hinit, ← List.append_assoc]
      by_cases hdir : d.kindAt? (base ++ init) = some .directory
      · rw [if_pos hdir]
        show d.enter (base ++ init) [x] = _
        rw [enter_singleton hx]
        cases hkind : d.kindAt? (base ++ init ++ [x]) with
        | none =>
            have hfree : ¬ d.Blocked (base ++ init ++ [x]) := by
              rw [blocked_concat hkind]
              exact not_blocked_of_directory hdir
            simp only [reduceCtorEq, if_false, if_neg hfree]
        | some k =>
            cases k with
            | directory => rw [if_pos rfl]
            | file c =>
                simp only [Option.some.injEq, reduceCtorEq, if_false, if_pos (blocked_of_file hkind)]
      · have hnone : d.kindAt? (base ++ init ++ [x]) = none := kindAt?_concat_eq_none hdir
        rw [if_neg hdir, hnone]
        simp only [reduceCtorEq, if_false, blocked_concat hnone]
        split <;> rfl

/-! ## Reading -/

/-- The text can be the path of something. -/
structure Fits (p : Path) : Prop where
  nul : ¬ p.text.toList.contains '\x00' = true
  short : ¬ 4096 ≤ p.text.utf8ByteSize

theorem text_ne_empty {init : List String} (hp : names p = init ++ [x]) (hx : IsName x) :
    p.text ≠ "" := by
  intro hempty
  rw [names, hempty] at hp
  have hlast := (List.append_inj' (show [] ++ [""] = init ++ [x] from hp) rfl).2
  exact hx.1 (List.singleton_inj.1 hlast).symm

theorem find_concat {init : List String} (hfits : Fits p) (hp : names p = init ++ [x])
    (hx : IsFit x) :
    d.find p = (d.enter [] init).map fun b => ⟨b ++ [x], .ok (d.at? (b ++ [x])), false⟩ := by
  obtain ⟨hname, hshort⟩ := hx
  have hwalk : ∀ b, d.walk b [x] = .ok ⟨b ++ [x], .ok (d.at? (b ++ [x])), false⟩ :=
    fun b => walk_of_leads (.last hname rfl hshort)
  rw [find, if_neg hfits.nul, if_neg (text_ne_empty hp hname), if_neg hfits.short, hp,
    walk_append init ⟨x, List.mem_cons_self, hname.1⟩]
  simp only [hwalk]
  cases d.enter [] init <;> rfl

/-- What reading gives where there is something or nothing. -/
def reading : Option Node.Kind → Except Storage.Error String
  | none => .error .notFound
  | some .directory => .error .isADirectory
  | some (.file (.text s)) => .ok s
  | some (.file (.binary _)) => .error .notText

theorem read_concat {init : List String} (hfits : Fits p) (hp : names p = init ++ [x])
    (hx : IsFit x) :
    d.read p = (d.enter [] init).bind fun b => reading (d.kindAt? (b ++ [x])) := by
  rw [read, find_concat hfits hp hx]
  cases d.enter [] init with
  | error e => rfl
  | ok b =>
      simp only [Except.map, Except.bind, kindAt?]
      cases d.at? (b ++ [x]) with
      | none => rfl
      | some n =>
          cases n with
          | directory es => rfl
          | file c => cases c <;> rfl

/-! ## Paths below a directory -/

variable {post init : Place}

/-- The path leads by way of a directory that is there to what some names make below it,
whether or not that is there. -/
structure Below (d : Disk) (p : Path) (base post : Place) : Prop where
  fits : Fits p
  trimmed : p.Trimmed
  exists_lead : ∃ lead, parts (names p) = lead ++ post ∧ d.enter [] lead = .ok base
  isFit : ∀ s ∈ post, IsFit s

namespace Below

theorem mono (hk : d.Keeps d') (h : d.Below p base post) : d'.Below p base post := by
  obtain ⟨lead, hlead, henter⟩ := h.exists_lead
  exact ⟨h.fits, h.trimmed, ⟨lead, hlead, enter_mono hk henter⟩, h.isFit⟩

theorem base_directory (h : d.Below p base post) : d.kindAt? base = some .directory := by
  obtain ⟨lead, -, henter⟩ := h.exists_lead
  exact (leads_of_enter henter (kindAt?_nil d)).2

theorem enter_eq (h : d.Below p base post) : d.enter [] (names p) = d.enter base post := by
  obtain ⟨lead, hlead, henter⟩ := h.exists_lead
  rw [← enter_parts, hlead, enter_append, henter]
  rfl

/-- The last name is a piece of its own, and the pieces before it lead to the others. -/
theorem exists_names (h : d.Below p base (init ++ [x])) :
    ∃ before, names p = before ++ [x] ∧ d.enter [] before = d.enter base init ∧
      ∃ lead, parts before = lead ++ init ∧ d.enter [] lead = .ok base := by
  obtain ⟨lead, hlead, henter⟩ := h.exists_lead
  obtain ⟨before, y, hnames, hy⟩ := h.trimmed.exists_names (by simp [hlead])
  rw [hnames, parts_append, parts_cons, if_pos hy, ← List.append_assoc] at hlead
  obtain ⟨hbefore, hlast⟩ := List.append_inj' hlead rfl
  rw [List.singleton_inj.1 hlast] at hnames
  refine ⟨before, hnames, ?_, lead, hbefore, henter⟩
  rw [← enter_parts, hbefore, enter_append, henter]
  rfl

theorem isFit_init (h : d.Below p base (init ++ [x])) : ∀ s ∈ init, IsFit s :=
  fun s hs => h.isFit s (List.mem_append_left _ hs)

theorem isFit_last (h : d.Below p base (init ++ [x])) : IsFit x :=
  h.isFit x (List.mem_append_right _ List.mem_cons_self)

/-- The parent of a path is below the directory as well, without the last name. -/
theorem parent (h : d.Below p base (init ++ [x])) :
    ∃ q, p.parent? = some q ∧ d.Below q base init ∧ q.text.length < p.text.length := by
  obtain ⟨before, hnames, -, lead, hbefore, henter⟩ := h.exists_names
  obtain ⟨hname, -⟩ := h.isFit_last
  obtain ⟨q, more, hq, htext, hmore, hparts, htrimmed⟩ :=
    Path.exists_parent hnames ⟨hname.1, hname.2.1⟩
  have hlonger : q.text.length < p.text.length := by
    rw [htext, String.length_append]
    have hlen : more.length ≠ 0 := by simp [hmore]
    omega
  refine ⟨q, hq, ⟨⟨?_, ?_⟩, htrimmed, ⟨lead, hparts.trans hbefore, henter⟩, h.isFit_init⟩, hlonger⟩
  · intro hnul
    refine h.fits.nul ?_
    rw [htext, String.toList_append, List.contains_append, hnul, Bool.true_or]
  · intro hlong
    refine h.fits.short ?_
    rw [htext, String.utf8ByteSize_append]
    omega

/-- **What a read gives** is decided by what is at the place, and by a file in the way if there
is nothing. -/
theorem read_eq (h : d.Below p base post) (hpost : post ≠ []) :
    d.read p =
      if d.kindAt? (base ++ post) = none ∧ d.Blocked (base ++ post) then .error .notADirectory
      else reading (d.kindAt? (base ++ post)) := by
  obtain ⟨init, x, rfl⟩ := (List.eq_nil_or_concat' post).resolve_left hpost
  obtain ⟨before, hnames, henter, -⟩ := h.exists_names
  rw [read_concat h.fits hnames h.isFit_last, henter, enter_below h.base_directory h.isFit_init,
    ← List.append_assoc]
  by_cases hdir : d.kindAt? (base ++ init) = some .directory
  · rw [if_pos hdir, if_neg]
    · rfl
    · rintro ⟨hnone, hblocked⟩
      exact not_blocked_of_directory hdir ((blocked_concat hnone).1 hblocked)
  · have hnone : d.kindAt? (base ++ init ++ [x]) = none := kindAt?_concat_eq_none hdir
    simp only [if_neg hdir, blocked_concat hnone, hnone, true_and]
    split <;> rfl

end Below

end CiPipeline.Disk

import CiPipeline.Proofs.Destinations
import CiPipeline.Proofs.Entries

set_option autoImplicit false

/-! # Following paths

Whether a path leads to its destination depends on the directories of a disk and on nothing else,
so that it leads there still while directories are only added. Two paths made of names that are
seen from the same root lead to the same place iff their names are the same.
-/

namespace CiPipeline.Disk

variable {d d' : Disk} {here place : Place} {piece : String} {ns : List String} {slash : Bool}

/-! ## Walks -/

/-- The piece is the name of something in a directory. -/
def IsName (piece : String) : Prop := piece ≠ "" ∧ piece ≠ "." ∧ piece ≠ ".."

/-- The steps of a walk that gets to a place, whatever is there. A name is the last one if
there is nothing but slashes behind it; all others are names of directories. -/
inductive Leads (d : Disk) : Place → List String → Place → Bool → Prop where
  | done (here : Place) : Leads d here [] here false
  | silent {here place : Place} {piece : String} {ns : List String} {slash : Bool}
      (h : piece = "" ∨ piece = ".") (rest : Leads d here ns place slash) :
      Leads d here (piece :: ns) place slash
  | up {here place : Place} {ns : List String} {slash : Bool}
      (rest : Leads d here.dropLast ns place slash) : Leads d here (".." :: ns) place slash
  | last {here : Place} {piece : String} {ns : List String} (hname : IsName piece)
      (hend : ns.all (· == "") = true) (hshort : ¬ 255 < piece.utf8ByteSize) :
      Leads d here (piece :: ns) (here ++ [piece]) (!ns.isEmpty)
  | into {here place : Place} {piece : String} {ns : List String} {slash : Bool}
      (hname : IsName piece) (hmore : ¬ ns.all (· == "") = true)
      (hshort : ¬ 255 < piece.utf8ByteSize)
      (hdir : d.kindAt? (here ++ [piece]) = some .directory)
      (rest : Leads d (here ++ [piece]) ns place slash) :
      Leads d here (piece :: ns) place slash

/-- A name leads on if it is short enough and the name of a directory. -/
theorem look_directory_iff :
    (∃ es, d.look here piece = .ok (some (.directory es))) ↔
      ¬ 255 < piece.utf8ByteSize ∧ d.kindAt? (here ++ [piece]) = some .directory := by
  rw [look]
  split
  · rename_i hlong
    constructor
    · rintro ⟨es, h⟩
      cases h
    · exact fun h => absurd hlong h.1
  · rename_i hshort
    constructor
    · rintro ⟨es, h⟩
      rw [kindAt?, Except.ok.inj h]
      exact ⟨hshort, rfl⟩
    · rintro ⟨-, h⟩
      obtain ⟨n, hn, hkind⟩ := Option.map_eq_some_iff.1 h
      obtain ⟨es, rfl⟩ := Node.kind_eq_directory hkind
      exact ⟨es, by rw [hn]⟩

theorem look_eq_ok {n : Option Node} (h : d.look here piece = .ok n) :
    ¬ 255 < piece.utf8ByteSize ∧ n = d.at? (here ++ [piece]) := by
  rw [look] at h
  split at h
  · cases h
  · rename_i hshort
    exact ⟨hshort, (Except.ok.inj h).symm⟩

theorem leads_of_walk {spot : Spot} {n : Option Node} (h : d.walk here ns = .ok spot)
    (hn : spot.found = .ok n) :
    d.Leads here ns spot.place spot.slash ∧ n = d.at? spot.place := by
  -- one case for each way the walk goes on, each of them a constructor
  induction ns generalizing here with
  | nil =>
      cases h
      exact ⟨.done here, (Except.ok.inj hn).symm⟩
  | cons piece ns ih =>
      rw [walk] at h
      split at h
      · rename_i hsilent
        exact ⟨.silent hsilent (ih h).1, (ih h).2⟩
      · rename_i hsilent
        rw [not_or] at hsilent
        split at h
        · rename_i hup
          subst hup
          exact ⟨.up (ih h).1, (ih h).2⟩
        · rename_i hup
          have hname : IsName piece := ⟨hsilent.1, hsilent.2, hup⟩
          split at h
          · rename_i hend
            have hspot := Except.ok.inj h
            subst hspot
            exact ⟨.last hname hend (look_eq_ok hn).1, (look_eq_ok hn).2⟩
          · rename_i hmore
            split at h
            · rename_i es hes
              obtain ⟨hshort, hdir⟩ := look_directory_iff.1 ⟨es, hes⟩
              exact ⟨.into hname hmore hshort hdir (ih h).1, (ih h).2⟩
            · cases h
            · cases h
            · cases h

theorem walk_of_leads (h : d.Leads here ns place slash) :
    d.walk here ns = .ok ⟨place, .ok (d.at? place), slash⟩ := by
  induction h with
  | done here => rfl
  | silent h rest ih =>
      rw [walk, if_pos h]
      exact ih
  | up rest ih =>
      rw [walk, if_neg (by decide), if_pos rfl]
      exact ih
  | last hname hend hshort =>
      rw [walk, if_neg (not_or.2 ⟨hname.1, hname.2.1⟩), if_neg hname.2.2, if_pos hend, look,
        if_neg hshort]
  | into hname hmore hshort hdir rest ih =>
      obtain ⟨es, hes⟩ := look_directory_iff.2 ⟨hshort, hdir⟩
      rw [walk, if_neg (not_or.2 ⟨hname.1, hname.2.1⟩), if_neg hname.2.2, if_neg hmore, hes]
      exact ih

/-- **A walk leads to the same place while directories stay.** -/
theorem Leads.mono (hk : d.Keeps d') (h : d.Leads here ns place slash) :
    d'.Leads here ns place slash := by
  induction h with
  | done here => exact .done here
  | silent h rest ih => exact .silent h ih
  | up rest ih => exact .up ih
  | last hname hend hshort => exact .last hname hend hshort
  | into hname hmore hshort hdir rest ih => exact .into hname hmore hshort (hk _ hdir) ih

/-- What is above a directory is a directory. -/
theorem kindAt?_dropLast (h : d.kindAt? here = some .directory) :
    d.kindAt? here.dropLast = some .directory := by
  rcases List.eq_nil_or_concat here with rfl | ⟨above, name, rfl⟩
  · exact h
  · rw [List.concat_eq_append] at h ⊢
    rw [List.dropLast_concat]
    refine kindAt?_of_append (q := [name]) (List.cons_ne_nil _ _) ?_
    rw [h]
    exact Option.some_ne_none _

/-- A walk from a directory ends in a directory, or at a name in one. -/
theorem Leads.parent (h : d.Leads here ns place slash)
    (hhere : d.kindAt? here = some .directory) (hplace : d.kindAt? place ≠ some .directory) :
    ∃ above name, place = above ++ [name] ∧ d.kindAt? above = some .directory := by
  induction h with
  | done here => exact absurd hhere hplace
  | silent h rest ih => exact ih hhere hplace
  | up rest ih => exact ih (kindAt?_dropLast hhere) hplace
  | last hname hend hshort => exact ⟨_, _, rfl, hhere⟩
  | into hname hmore hshort hdir rest ih => exact ih hdir hplace

/-- **A walk leads where its pieces say**, whatever is on the disk. -/
theorem Leads.place_eq (h : d.Leads here ns place slash) : place = ns.foldl onward here := by
  induction h with
  | done here => rfl
  | silent h rest ih =>
      rw [List.foldl_cons, onward_of_silent h]
      exact ih
  | up rest ih =>
      rw [List.foldl_cons, onward_up]
      exact ih
  | last hname hend hshort =>
      rw [List.foldl_cons, onward_name (not_or.2 ⟨hname.1, hname.2.1⟩) hname.2.2,
        foldl_onward_of_all_empty hend]
  | into hname hmore hshort hdir rest ih =>
      rw [List.foldl_cons, onward_name (not_or.2 ⟨hname.1, hname.2.1⟩) hname.2.2]
      exact ih

/-! ## Directories on the way -/

/-- Follows pieces of a path to the directory that they lead to. -/
def enter (d : Disk) (here : Place) : List String → Except Storage.Error Place
  | [] => .ok here
  | piece :: rest =>
      if piece = "" ∨ piece = "." then enter d here rest
      else if piece = ".." then enter d here.dropLast rest
      else
        match d.look here piece with
        | .ok (some (.directory _)) => enter d (here ++ [piece]) rest
        | .ok (some (.file _)) => .error .notADirectory
        | .ok none => .error .notFound
        | .error e => .error e

/-- **Before a name**, pieces are followed to a directory, whatever comes behind them. -/
theorem walk_append (lead : List String) (hns : ∃ s ∈ ns, s ≠ "") :
    d.walk here (lead ++ ns) = (d.enter here lead).bind fun b => d.walk b ns := by
  induction lead generalizing here with
  | nil => rfl
  | cons piece lead ih =>
      -- a name behind the piece makes it a directory to go through
      have hmore : ¬ (lead ++ ns).all (· == "") = true := by
        intro hall
        obtain ⟨s, hs, hne⟩ := hns
        exact hne (eq_of_beq (List.all_eq_true.1 hall s (List.mem_append_right lead hs)))
      rw [List.cons_append, walk, enter, if_neg hmore]
      split
      · exact ih
      · split
        · exact ih
        · rcases d.look here piece with e | (_ | (c | es))
          · rfl
          · rfl
          · rfl
          · exact ih

theorem enter_append (lead ns : List String) :
    d.enter here (lead ++ ns) = (d.enter here lead).bind fun b => d.enter b ns := by
  induction lead generalizing here with
  | nil => rfl
  | cons piece lead ih =>
      rw [List.cons_append, enter, enter]
      split
      · exact ih
      · split
        · exact ih
        · rcases d.look here piece with e | (_ | (c | es))
          · rfl
          · rfl
          · rfl
          · exact ih

/-- Only the pieces that say something count. -/
theorem enter_parts (ns : List String) : d.enter here (parts ns) = d.enter here ns := by
  induction ns generalizing here with
  | nil => rfl
  | cons piece ns ih =>
      rw [parts_cons, enter]
      split
      · rename_i hpiece
        rw [if_neg (not_or.2 hpiece), enter, if_neg (not_or.2 hpiece)]
        simp only [ih]
      · rename_i hpiece
        rw [if_pos (Decidable.or_iff_not_not_and_not.2 hpiece)]
        exact ih

theorem enter_name {place : Place} (hname : IsName piece)
    (h : d.enter here (piece :: ns) = .ok place) :
    ¬ 255 < piece.utf8ByteSize ∧ d.kindAt? (here ++ [piece]) = some .directory ∧
      d.enter (here ++ [piece]) ns = .ok place := by
  rw [enter, if_neg (not_or.2 ⟨hname.1, hname.2.1⟩), if_neg hname.2.2] at h
  split at h
  · rename_i es hlook
    obtain ⟨hshort, hdir⟩ := look_directory_iff.1 ⟨es, hlook⟩
    exact ⟨hshort, hdir, h⟩
  · cases h
  · cases h
  · cases h

/-- What is entered can be looked up as well, and is a directory. -/
theorem leads_of_enter (h : d.enter here ns = .ok place)
    (hhere : d.kindAt? here = some .directory) :
    (∃ slash, d.Leads here ns place slash) ∧ d.kindAt? place = some .directory := by
  induction ns generalizing here with
  | nil =>
      cases h
      exact ⟨⟨false, .done _⟩, hhere⟩
  | cons piece ns ih =>
      by_cases hsilent : piece = "" ∨ piece = "."
      · rw [enter, if_pos hsilent] at h
        obtain ⟨⟨slash, hleads⟩, hplace⟩ := ih h hhere
        exact ⟨⟨slash, .silent hsilent hleads⟩, hplace⟩
      · by_cases hup : piece = ".."
        · subst hup
          rw [enter, if_neg hsilent, if_pos rfl] at h
          obtain ⟨⟨slash, hleads⟩, hplace⟩ := ih h (kindAt?_dropLast hhere)
          exact ⟨⟨slash, .up hleads⟩, hplace⟩
        · rw [not_or] at hsilent
          have hname : IsName piece := ⟨hsilent.1, hsilent.2, hup⟩
          obtain ⟨hshort, hdir, hrest⟩ := enter_name hname h
          obtain ⟨⟨slash, hleads⟩, hplace⟩ := ih hrest hdir
          refine ⟨?_, hplace⟩
          by_cases hend : ns.all (· == "") = true
          · -- only slashes are left, so that this is where the pieces end
            rw [← enter_parts, parts_of_all_empty hend] at hrest
            cases hrest
            exact ⟨_, .last hname hend hshort⟩
          · exact ⟨_, .into hname hend hshort hdir hleads⟩

/-- **Directories are entered as before** while they stay. -/
theorem enter_mono (hk : d.Keeps d') (h : d.enter here ns = .ok place) :
    d'.enter here ns = .ok place := by
  induction ns generalizing here with
  | nil => exact h
  | cons piece ns ih =>
      by_cases hsilent : piece = "" ∨ piece = "."
      · rw [enter, if_pos hsilent] at h ⊢
        exact ih h
      · by_cases hup : piece = ".."
        · rw [enter, if_neg hsilent, if_pos hup] at h ⊢
          exact ih h
        · rw [not_or] at hsilent
          obtain ⟨hshort, hdir, hrest⟩ := enter_name ⟨hsilent.1, hsilent.2, hup⟩ h
          obtain ⟨es, hlook⟩ := look_directory_iff.2 ⟨hshort, hk _ hdir⟩
          rw [enter, if_neg (not_or.2 hsilent), if_neg hup, hlook]
          exact ih hrest

/-! ## Paths -/

variable {p : Path}

/-- The path leads to a place, whatever is there. -/
structure LeadsTo (d : Disk) (p : Path) (place : Place) (slash : Bool) : Prop where
  nul : ¬ p.text.toList.contains '\x00' = true
  nonempty : p.text ≠ ""
  short : ¬ 4096 ≤ p.text.utf8ByteSize
  leads : d.Leads [] (names p) place slash

theorem find_of_leadsTo (h : d.LeadsTo p place slash) :
    d.find p = .ok ⟨place, .ok (d.at? place), slash⟩ := by
  rw [find, if_neg h.nul, if_neg h.nonempty, if_neg h.short]
  exact walk_of_leads h.leads

theorem leadsTo_of_find {spot : Spot} {n : Option Node} (h : d.find p = .ok spot)
    (hn : spot.found = .ok n) : d.LeadsTo p spot.place spot.slash ∧ n = d.at? spot.place := by
  rw [find] at h
  split at h
  · cases h
  · rename_i hnul
    split at h
    · cases h
    · rename_i hnonempty
      split at h
      · cases h
      · rename_i hshort
        obtain ⟨hleads, hfound⟩ := leads_of_walk h hn
        exact ⟨⟨hnul, hnonempty, hshort, hleads⟩, hfound⟩

theorem LeadsTo.mono (hk : d.Keeps d') (h : d.LeadsTo p place slash) :
    d'.LeadsTo p place slash :=
  ⟨h.nul, h.nonempty, h.short, h.leads.mono hk⟩

/-- **A path leads to its destination**, or nowhere. -/
theorem LeadsTo.place_eq (h : d.LeadsTo p place slash) : place = destination p := h.leads.place_eq

/-- **Names lead to places of their own**: below one root, two paths made of names lead to the
same place iff they have the same names. -/
theorem place_eq_iff {root p q : Path} {ns ms : List String} {a b : Place} {s t : Bool}
    (hp : p.IsPlain ns) (hq : q.IsPlain ms) (ha : d.LeadsTo (root.join p) a s)
    (hb : d.LeadsTo (root.join q) b t) : a = b ↔ p.components = q.components := by
  have hdestination : ∀ {r : Path} {ks : List String}, r.IsPlain ks →
      destination (root.join r) = destination root ++ ks := by
    intro r ks hr
    rw [destination_join (Path.isContained_iff_not_escapes.1 hr.isContained), hr.names.1]
  rw [ha.place_eq, hb.place_eq, hdestination hp, hdestination hq, List.append_cancel_left_eq,
    hp.components_eq, hq.components_eq, List.map_inj_right fun _ _ => Path.Component.name.inj]

end CiPipeline.Disk

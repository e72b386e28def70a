import CiPipeline.Proofs.Destinations

set_option autoImplicit false

/-! # Parents of paths

The parent of a path is the text before its last name, without the slashes and dots in between.
So it says the same as the pieces before that name (`exists_parent`), and it ends in a name of
its own unless it says nothing.
-/

namespace CiPipeline.Path

open Disk (names parts)

/-! ## Texts and their pieces -/

theorem not_slash_mem_of_mem_pieces {cs s : List Char} (h : s ∈ pieces cs) : '/' ∉ s := by
  induction cs generalizing s with
  | nil =>
      rw [pieces, List.mem_singleton] at h
      rw [h]
      exact List.not_mem_nil
  | cons c cs ih =>
      by_cases hc : c = '/'
      · subst hc
        rcases List.mem_cons.1 h with rfl | h
        · exact List.not_mem_nil
        · exact ih h
      · obtain ⟨p, ps, hp⟩ := List.exists_cons_of_ne_nil (pieces_ne_nil cs)
        rw [pieces_cons hc hp] at h
        rw [hp] at ih
        rcases List.mem_cons.1 h with rfl | h
        · rw [List.mem_cons, not_or]
          exact ⟨Ne.symm hc, ih List.mem_cons_self⟩
        · exact ih (List.mem_cons_of_mem p h)

/-- Pieces with slashes between them are the pieces of the text that they make. -/
theorem pieces_intercalate {ps : List (List Char)} (hps : ps ≠ []) (h : ∀ s ∈ ps, '/' ∉ s) :
    pieces (['/'].intercalate ps) = ps := by
  induction ps with
  | nil => exact absurd rfl hps
  | cons p ps ih =>
      by_cases hnil : ps = []
      · rw [hnil, List.intercalate_singleton]
        exact pieces_of_not_mem (h p List.mem_cons_self)
      · rw [List.intercalate_cons_of_ne_nil hnil, List.append_assoc, List.singleton_append,
          pieces_append_slash, pieces_of_not_mem (h p List.mem_cons_self),
          ih hnil fun s hs => h s (List.mem_cons_of_mem p hs), List.singleton_append]

theorem intercalate_pieces (cs : List Char) : ['/'].intercalate (pieces cs) = cs := by
  induction cs with
  | nil => rfl
  | cons c cs ih =>
      by_cases hc : c = '/'
      · subst hc
        rw [pieces, List.intercalate_cons_of_ne_nil (pieces_ne_nil cs), ih]
        rfl
      · obtain ⟨p, ps, hp⟩ := List.exists_cons_of_ne_nil (pieces_ne_nil cs)
        rw [pieces_cons hc hp]
        rw [hp] at ih
        rw [← ih]
        cases ps with
        | nil => rfl
        | cons q ps => rfl

theorem intercalate_append {ps qs : List (List Char)} (hps : ps ≠ []) (hqs : qs ≠ []) :
    ['/'].intercalate (ps ++ qs) = ['/'].intercalate ps ++ '/' :: ['/'].intercalate qs := by
  induction ps with
  | nil => exact absurd rfl hps
  | cons p ps ih =>
      by_cases hnil : ps = []
      · rw [hnil, List.singleton_append, List.intercalate_cons_of_ne_nil hqs,
          List.intercalate_singleton, List.append_assoc]
        rfl
      · rw [List.cons_append, List.intercalate_cons_of_ne_nil (by simp [hnil]), ih hnil,
          List.intercalate_cons_of_ne_nil hnil, List.append_assoc, List.append_assoc,
          List.append_assoc]

/-! ## Silent pieces -/

/-- The piece says nothing about where to go. -/
def IsSilent (s : List Char) : Prop := s = [] ∨ s = ['.']

theorem parts_of_silent {ps : List (List Char)} (h : ∀ s ∈ ps, IsSilent s) :
    parts (ps.map String.ofList) = [] := by
  refine List.filter_eq_nil_iff.2 fun n hn => ?_
  obtain ⟨s, hs, rfl⟩ := List.mem_map.1 hn
  rcases h s hs with rfl | rfl <;> decide

theorem dropSilent_cons {c : List Char} (hc : ¬ IsSilent c) (ps : List (List Char)) :
    dropSilent (c :: ps) = c :: ps := by
  rw [IsSilent, not_or] at hc
  cases ps with
  | nil => rw [dropSilent, if_neg hc.1]
  | cons q ps => rw [dropSilent, if_neg (not_or.2 hc)]

/-- What is left out is silent, and what is left begins with a piece that is not, unless that is
all there is. -/
theorem dropSilent_eq (ps : List (List Char)) :
    ∃ silent, ps = silent ++ dropSilent ps ∧ (∀ s ∈ silent, IsSilent s) ∧
      ∀ c rest, dropSilent ps = c :: rest → c ≠ [] ∧ (c = ['.'] → rest = []) := by
  induction ps with
  | nil => exact ⟨[], rfl, fun s hs => absurd hs List.not_mem_nil, nofun⟩
  | cons p ps ih =>
      by_cases hp : IsSilent p
      · cases ps with
        | nil =>
            rw [dropSilent]
            split
            · exact ⟨[p], rfl, fun s hs => List.mem_singleton.1 hs ▸ hp, nofun⟩
            · rename_i hne
              refine ⟨[], rfl, fun s hs => absurd hs List.not_mem_nil, fun c rest h => ?_⟩
              cases h
              exact ⟨hne, fun _ => rfl⟩
        | cons q ps =>
            have hdrop : dropSilent (p :: q :: ps) = dropSilent (q :: ps) := if_pos hp
            rw [hdrop]
            obtain ⟨silent, heq, hsilent, hhead⟩ := ih
            refine ⟨p :: silent, congrArg (p :: ·) heq, fun s hs => ?_, hhead⟩
            rcases List.mem_cons.1 hs with rfl | hs
            · exact hp
            · exact hsilent s hs
      · rw [dropSilent_cons hp]
        refine ⟨[], rfl, fun s hs => absurd hs List.not_mem_nil, fun c rest h => ?_⟩
        cases h
        rw [IsSilent, not_or] at hp
        exact ⟨hp.1, fun hdot => absurd hdot hp.2⟩

/-- Pieces without the silent ones at their end. -/
def trim (ps : List (List Char)) : List (List Char) := (dropSilent ps.reverse).reverse

theorem trim_eq (ps : List (List Char)) :
    ∃ silent, ps = trim ps ++ silent ∧ (∀ s ∈ silent, IsSilent s) ∧
      (trim ps = [] ∨ ∃ front last, trim ps = front ++ [last] ∧ last ≠ [] ∧
        (last = ['.'] → front = [])) := by
  obtain ⟨silent, heq, hsilent, hhead⟩ := dropSilent_eq ps.reverse
  refine ⟨silent.reverse, ?_, fun s hs => hsilent s (List.mem_reverse.1 hs), ?_⟩
  · rw [trim, ← List.reverse_append, ← heq, List.reverse_reverse]
  · cases hdrop : dropSilent ps.reverse with
    | nil => exact Or.inl (congrArg List.reverse hdrop)
    | cons c rest =>
        obtain ⟨hne, hdot⟩ := hhead c rest hdrop
        refine Or.inr ⟨rest.reverse, c, ?_, hne, fun h => ?_⟩
        · rw [trim, hdrop, List.reverse_cons]
        · rw [hdot h]
          rfl

/-! ## The parent -/

variable {p : Path}

/-- The path ends in a name or in `..`, unless it says nothing at all. -/
def Trimmed (p : Path) : Prop :=
  parts (names p) = [] ∨ ∀ x ∈ (names p).getLast?, x ≠ "" ∧ x ≠ "."

instance (p : Path) : Decidable p.Trimmed := inferInstanceAs (Decidable (_ ∨ _))

theorem trimmed_of_names {init : List String} {x : String} (h : names p = init ++ [x])
    (hx : x ≠ "" ∧ x ≠ ".") : p.Trimmed := by
  refine Or.inr fun y hy => ?_
  rw [h, List.getLast?_concat, Option.mem_some] at hy
  exact hy ▸ hx

theorem Trimmed.exists_names (h : p.Trimmed) (hne : parts (names p) ≠ []) :
    ∃ init x, names p = init ++ [x] ∧ x ≠ "" ∧ x ≠ "." := by
  rcases List.eq_nil_or_concat (names p) with hnil | ⟨init, x, hnames⟩
  · rw [hnil] at hne
    exact absurd rfl hne
  · rw [List.concat_eq_append] at hnames
    refine ⟨init, x, hnames, h.resolve_left hne x ?_⟩
    rw [hnames, List.getLast?_concat]
    rfl

/-- A text made of pieces, the last of which is not empty. -/
theorem trimmed_intercalate {front : List (List Char)} {last : List Char}
    (h : ∀ s ∈ front ++ [last], '/' ∉ s) (hne : last ≠ []) (hdot : last = ['.'] → front = []) :
    names ⟨String.ofList (['/'].intercalate (front ++ [last]))⟩ =
        (front ++ [last]).map String.ofList ∧
      Trimmed ⟨String.ofList (['/'].intercalate (front ++ [last]))⟩ := by
  have hnames : names ⟨String.ofList (['/'].intercalate (front ++ [last]))⟩ =
      (front ++ [last]).map String.ofList := by
    rw [names, String.toList_ofList, pieces_intercalate (by simp) h]
  refine ⟨hnames, ?_⟩
  by_cases hlast : last = ['.']
  · rw [hdot hlast, hlast]
    exact Or.inl rfl
  · refine trimmed_of_names (hnames.trans List.map_append) ⟨?_, ?_⟩
    · rw [ne_eq, ← String.toList_inj, String.toList_ofList]
      exact hne
    · rw [ne_eq, ← String.toList_inj, String.toList_ofList]
      exact hlast

/-- Pieces make a text if the last of them is not empty. -/
theorem isEmpty_intercalate_concat {front : List (List Char)} {last : List Char}
    (h : ∀ s ∈ front ++ [last], '/' ∉ s) (hne : last ≠ []) :
    (['/'].intercalate (front ++ [last])).isEmpty = false := by
  have hback := pieces_intercalate (by simp) h
  rw [List.isEmpty_eq_false_iff]
  intro hempty
  rw [hempty] at hback
  have hlast := (List.append_inj' (show [] ++ [[]] = front ++ [last] from hback) rfl).2
  exact hne (List.singleton_inj.1 hlast).symm

section Pieces

variable {cs front silent : List (List Char)} {c last : List Char}

theorem parent?_of_trim (h : trim (pieces p.text.toList) = cs ++ [c]) :
    p.parent? = some ⟨String.ofList (
      if p.isAbsolute && (['/'].intercalate (trim cs)).isEmpty then ['/']
      else ['/'].intercalate (trim cs))⟩ := by
  have hdrop : dropSilent (pieces p.text.toList).reverse = c :: cs.reverse := by
    rw [← List.reverse_inj, List.reverse_cons, List.reverse_reverse]
    exact h
  rw [parent?, hdrop]
  rfl

theorem parent?_eq (hpieces : pieces p.text.toList = cs ++ [c]) (hc : ¬ IsSilent c) :
    p.parent? = some ⟨String.ofList (
      if p.isAbsolute && (['/'].intercalate (trim cs)).isEmpty then ['/']
      else ['/'].intercalate (trim cs))⟩ := by
  refine parent?_of_trim (c := c) ?_
  rw [hpieces, trim, List.reverse_concat, dropSilent_cons hc, List.reverse_cons,
    List.reverse_reverse]

/-- A path with one name has no parent but the slash at the front, if there is one. -/
theorem exists_parent_of_trim_eq_nil (hpieces : pieces p.text.toList = cs ++ [c])
    (hc : ¬ IsSilent c) (hnil : trim cs = []) :
    ∃ q more, p.parent? = some q ∧ p.text = q.text ++ more ∧ more ≠ "" ∧
      parts (names q) = [] ∧ q.Trimmed := by
  have hparent := parent?_eq hpieces hc
  rw [hnil] at hparent
  by_cases habs : p.isAbsolute = true
  · obtain ⟨tail, htail⟩ : ∃ tail, p.text.toList = '/' :: tail :=
      List.head?_eq_some_iff.1 (eq_of_beq habs)
    rw [habs] at hparent
    refine ⟨⟨"/"⟩, String.ofList tail, hparent, ?_, ?_, rfl, Or.inl rfl⟩
    · rw [← String.toList_inj, String.toList_append, htail]
      show '/' :: tail = '/' :: (String.ofList tail).toList
      rw [String.toList_ofList]
    · rw [ne_eq, ← String.toList_inj, String.toList_ofList]
      intro hempty
      rw [htail, hempty] at hpieces
      have hlast := (List.append_inj' (show [[]] ++ [[]] = cs ++ [c] from hpieces) rfl).2
      exact hc (Or.inl (List.singleton_inj.1 hlast).symm)
  · rw [Bool.not_eq_true] at habs
    rw [habs] at hparent
    refine ⟨⟨""⟩, p.text, hparent, String.empty_append.symm, ?_, rfl, Or.inl rfl⟩
    intro hempty
    rw [hempty] at hpieces
    have hlast := (List.append_inj' (show [] ++ [[]] = cs ++ [c] from hpieces) rfl).2
    exact hc (Or.inl (List.singleton_inj.1 hlast).symm)

theorem exists_parent_of_trim_eq_concat
    (hpieces : pieces p.text.toList = front ++ [last] ++ silent ++ [c]) (hc : ¬ IsSilent c)
    (htrim : trim (front ++ [last] ++ silent) = front ++ [last]) (hne : last ≠ [])
    (hdot : last = ['.'] → front = []) :
    ∃ q more, p.parent? = some q ∧ p.text = q.text ++ more ∧ more ≠ "" ∧
      parts (names q) = parts ((front ++ [last]).map String.ofList) ∧ q.Trimmed := by
  have hslash : ∀ s ∈ front ++ [last], '/' ∉ s := by
    intro s hs
    have hmem : s ∈ pieces p.text.toList := by
      rw [hpieces]
      exact List.mem_append_left _ (List.mem_append_left _ hs)
    exact not_slash_mem_of_mem_pieces hmem
  have hparent := parent?_eq hpieces hc
  rw [htrim, isEmpty_intercalate_concat hslash hne, Bool.and_false,
    if_neg Bool.false_ne_true] at hparent
  obtain ⟨hnames, htrimmed⟩ := trimmed_intercalate hslash hne hdot
  refine ⟨_, String.ofList ('/' :: ['/'].intercalate (silent ++ [c])), hparent, ?_, ?_,
    congrArg parts hnames, htrimmed⟩
  · rw [← String.toList_inj, String.toList_append, String.toList_ofList, String.toList_ofList,
      ← intercalate_append (by simp) (by simp), ← List.append_assoc, ← hpieces,
      intercalate_pieces]
  · rw [ne_eq, ← String.toList_inj, String.toList_ofList]
    exact List.cons_ne_nil _ _

end Pieces

/-- **The parent** says what the pieces before the last name say. Its text comes first in that
of the path, and is shorter. -/
theorem exists_parent {init : List String} {x : String} (h : names p = init ++ [x])
    (hx : x ≠ "" ∧ x ≠ ".") :
    ∃ q more, p.parent? = some q ∧ p.text = q.text ++ more ∧ more ≠ "" ∧
      parts (names q) = parts init ∧ q.Trimmed := by
  obtain ⟨cs, ds, hpieces, rfl, hd⟩ := List.map_eq_append_iff.1 h
  obtain ⟨c, rfl, rfl⟩ := List.map_eq_singleton_iff.1 hd
  have hc : ¬ IsSilent c := by
    rintro (rfl | rfl)
    · exact hx.1 rfl
    · exact hx.2 rfl
  obtain ⟨silent, hsplit, hsilent, htrim⟩ := trim_eq cs
  have hparts : parts (cs.map String.ofList) = parts ((trim cs).map String.ofList) := by
    rw [congrArg (List.map String.ofList) hsplit, List.map_append, Disk.parts_append,
      parts_of_silent hsilent, List.append_nil]
  rw [hparts]
  rcases htrim with hnil | ⟨front, last, hconcat, hne, hdot⟩
  · rw [hnil]
    exact exists_parent_of_trim_eq_nil hpieces hc hnil
  · rw [hconcat] at hsplit ⊢
    rw [hsplit] at hpieces hconcat
    exact exists_parent_of_trim_eq_concat hpieces hc hconcat hne hdot

/-! ## What parents say -/

/-- A text made of pieces says what the pieces say, also without the silent ones at the end. -/
theorem parts_names_intercalate_trim {cs : List (List Char)} (h : ∀ s ∈ cs, '/' ∉ s)
    (absolute : Bool) :
    parts (names ⟨String.ofList (
      if absolute && (['/'].intercalate (trim cs)).isEmpty then ['/']
      else ['/'].intercalate (trim cs))⟩) = parts (cs.map String.ofList) := by
  obtain ⟨silent, hsplit, hsilent, htrim⟩ := trim_eq cs
  have hparts : parts (cs.map String.ofList) = parts ((trim cs).map String.ofList) := by
    rw [congrArg (List.map String.ofList) hsplit, List.map_append, Disk.parts_append,
      parts_of_silent hsilent, List.append_nil]
  rw [hparts]
  rcases htrim with hnil | ⟨front, last, hconcat, hne, hdot⟩
  · rw [hnil]
    cases absolute <;> rfl
  · have hslash : ∀ s ∈ front ++ [last], '/' ∉ s := by
      intro s hs
      refine h s ?_
      rw [hsplit, hconcat]
      exact List.mem_append_left _ hs
    rw [hconcat, isEmpty_intercalate_concat hslash hne, Bool.and_false,
      if_neg Bool.false_ne_true]
    exact congrArg parts (trimmed_intercalate hslash hne hdot).1

/-- **A parent** says what its path says, but for the last piece that says something. -/
theorem parts_names_parent {q : Path} (h : p.parent? = some q) :
    parts (names q) = (parts (names p)).dropLast := by
  obtain ⟨silent, hsplit, hsilent, htrim⟩ := trim_eq (pieces p.text.toList)
  have hnames : parts (names p) =
      parts ((trim (pieces p.text.toList)).map String.ofList) := by
    rw [names, congrArg (List.map String.ofList) hsplit, List.map_append, Disk.parts_append,
      parts_of_silent hsilent, List.append_nil]
  rcases htrim with hnil | ⟨front, last, hconcat, hne, hdot⟩
  · -- a path without pieces has no parent
    have hdrop : dropSilent (pieces p.text.toList).reverse = [] := List.reverse_eq_nil_iff.1 hnil
    rw [parent?, hdrop] at h
    cases h
  · rw [parent?_of_trim hconcat, Option.some.injEq] at h
    have hslash : ∀ s ∈ front, '/' ∉ s := by
      intro s hs
      have hmem : s ∈ pieces p.text.toList := by
        rw [hsplit, hconcat]
        exact List.mem_append_left _ (List.mem_append_left _ hs)
      exact not_slash_mem_of_mem_pieces hmem
    rw [← h, parts_names_intercalate_trim hslash, hnames, hconcat, List.map_append,
      Disk.parts_append]
    by_cases hlast : last = ['.']
    · rw [hdot hlast, hlast]
      rfl
    · have hsingle : parts ([last].map String.ofList) = [String.ofList last] := by
        rw [List.map_singleton, Disk.parts_cons, if_pos]
        · rfl
        · rw [ne_eq, ne_eq, ← String.toList_inj, ← String.toList_inj, String.toList_ofList]
          exact ⟨hne, hlast⟩
      rw [hsingle, List.dropLast_concat]

/-! ## Climbing up -/

theorem exists_climb (n : Nat) (p : Path) : ∃ above, ancestors.climb n p = p :: above := by
  cases n with
  | zero => exact ⟨[], rfl⟩
  | succ n =>
      rw [ancestors.climb]
      cases p.parent? with
      | none => exact ⟨[], rfl⟩
      | some q => exact ⟨ancestors.climb n q, rfl⟩

theorem climb_of_parent {q : Path} (h : p.parent? = some q) (n : Nat) :
    ancestors.climb (n + 1) p = p :: ancestors.climb n q := by
  rw [ancestors.climb, h]

/-- Climbing only takes pieces off the end. -/
theorem parts_names_of_mem_climb {n : Nat} {a : Path} (h : a ∈ ancestors.climb n p) :
    parts (names a) <+: parts (names p) := by
  induction n generalizing p with
  | zero =>
      rw [ancestors.climb, List.mem_singleton] at h
      exact h ▸ List.prefix_rfl
  | succ n ih =>
      cases hq : p.parent? with
      | none =>
          rw [ancestors.climb, hq, List.mem_singleton] at h
          exact h ▸ List.prefix_rfl
      | some q =>
          rw [climb_of_parent hq] at h
          rcases List.mem_cons.1 h with rfl | h
          · exact List.prefix_rfl
          · have hparent : parts (names q) <+: parts (names p) := by
              rw [parts_names_parent hq]
              exact List.dropLast_prefix _
            exact (ih h).trans hparent

/-- The parent of a path, and all paths above that, lead to places on the way to its last piece. -/
theorem before_of_mem_ancestors {a above : Path} (h : p.parent? = some above)
    (ha : a ∈ above.ancestors) : Disk.Before p (Disk.destination a) := by
  refine ⟨parts (names a), ?_, Disk.foldl_onward_parts _ _⟩
  rw [← parts_names_parent h]
  exact parts_names_of_mem_climb ha

end CiPipeline.Path

import CiPipeline.Proofs.Paths

set_option autoImplicit false

/-! # Destinations

A name goes down, `..` goes up, and every other piece of a path stays where it is. So the text
of a path says where it leads, and a disk only says whether it leads there at all. A path that
does not escape, seen from a root, has its destination below that of the root
(`destination_join`).
-/

namespace CiPipeline

namespace Disk

/-! ## Where pieces lead -/

/-- Where a piece of a path leads from a place. -/
def onward (here : Place) (piece : String) : Place :=
  if piece = "" ∨ piece = "." then here
  else if piece = ".." then here.dropLast
  else here ++ [piece]

/-- Where a path leads, if it leads anywhere. -/
def destination (p : Path) : Place := (names p).foldl onward []

/-- Some of the first pieces of the path lead to the place: it is the destination of the path, or
of a directory before it. -/
def Through (p : Path) (place : Place) : Prop :=
  ∃ lead, lead <+: names p ∧ lead.foldl onward [] = place

/-- The place is on the way to the last piece of the path that says something. -/
def Before (p : Path) (place : Place) : Prop :=
  ∃ lead, lead <+: (parts (names p)).dropLast ∧ lead.foldl onward [] = place

variable {here : Place} {piece : String} {ns : List String}

theorem onward_of_silent (h : piece = "" ∨ piece = ".") (here : Place) :
    onward here piece = here := if_pos h

theorem onward_up (here : Place) : onward here ".." = here.dropLast := by
  rw [onward, if_neg (by decide), if_pos rfl]

theorem onward_name (h : ¬ (piece = "" ∨ piece = ".")) (hup : piece ≠ "..") (here : Place) :
    onward here piece = here ++ [piece] := by
  rw [onward, if_neg h, if_neg hup]

/-- Only the pieces that say something count. -/
theorem foldl_onward_parts (here : Place) (ns : List String) :
    (parts ns).foldl onward here = ns.foldl onward here := by
  induction ns generalizing here with
  | nil => rfl
  | cons piece ns ih =>
      rw [parts_cons, List.foldl_cons]
      split
      · rw [List.foldl_cons, ih]
      · rename_i hsilent
        rw [onward_of_silent (Decidable.or_iff_not_not_and_not.2 hsilent), ih]

theorem foldl_onward_of_all_empty (h : ns.all (· == "") = true) (here : Place) :
    ns.foldl onward here = here := by
  rw [← foldl_onward_parts, parts_of_all_empty h]
  rfl

/-- Pieces without `..` among them lead down all the way. -/
theorem foldl_onward_of_not_up (hup : ".." ∉ ns) (here : Place) :
    ns.foldl onward here = here ++ parts ns := by
  induction ns generalizing here with
  | nil => exact (List.append_nil here).symm
  | cons piece ns ih =>
      rw [List.mem_cons, not_or] at hup
      rw [List.foldl_cons, ih hup.2, parts_cons]
      split
      · rename_i hpiece
        have hname : onward here piece = here ++ [piece] :=
          onward_name (not_or.2 hpiece) (Ne.symm hup.1) here
        rw [hname, List.append_assoc]
        rfl
      · rename_i hsilent
        rw [onward_of_silent (Decidable.or_iff_not_not_and_not.2 hsilent)]

/-! ## Places on the way -/

/-- The first pieces that say something lead to a place on the way. -/
theorem through_of_isPrefix_parts {p : Path} {lead : List String} (h : lead <+: parts (names p)) :
    Through p (lead.foldl onward []) := by
  obtain ⟨rest, hrest⟩ := h
  obtain ⟨before, after, hnames, hbefore, -⟩ := List.filter_eq_append_iff.1 hrest.symm
  have hlead : parts before = lead := hbefore
  refine ⟨before, ⟨after, hnames.symm⟩, ?_⟩
  rw [← foldl_onward_parts, hlead]

/-- A path without `..` goes through its destination and what is above it, and through nothing
else. -/
theorem isPrefix_destination_of_through {p : Path} {place : Place} (h : Through p place)
    (hup : ".." ∉ names p) : place <+: destination p := by
  obtain ⟨lead, hlead, rfl⟩ := h
  have hleadup : ".." ∉ lead := fun hmem => hup (hlead.subset hmem)
  rw [destination, foldl_onward_of_not_up hup, foldl_onward_of_not_up hleadup]
  exact hlead.filter _

end Disk

/-! ## Paths that escape -/

namespace Path

variable {p : Path}

/-- The path leaves the directory it is seen from: it starts at the top of the file system, or
goes up somewhere. -/
def Escapes (p : Path) : Prop := p.isAbsolute = true ∨ Component.parent ∈ p.components

instance (p : Path) : Decidable p.Escapes := inferInstanceAs (Decidable (_ ∨ _))

/-- The components of a path are those of its pieces that say something, behind one for the
front of the path. -/
theorem exists_front (p : Path) :
    ∃ front : List Component,
      p.components = front ++ ((pieces p.text.toList).filter fun s => s ≠ [] ∧ s ≠ ['.']).map
        (fun s => if s = ['.', '.'] then .parent else .name (String.ofList s)) ∧
      (Component.root ∈ front ↔ p.isAbsolute = true) ∧ Component.parent ∉ front := by
  rw [components, isAbsolute]
  cases p.text.toList with
  | nil => exact ⟨[], rfl, by decide, List.not_mem_nil⟩
  | cons c cs =>
      obtain ⟨q, qs, hq⟩ := List.exists_cons_of_ne_nil (pieces_ne_nil cs)
      by_cases hc : c = '/'
      · -- nothing stands before the slash at the front
        subst hc
        have hpieces : pieces ('/' :: cs) = [] :: q :: qs := congrArg ([] :: ·) hq
        rw [hpieces]
        exact ⟨[.root], rfl, by simp, by simp⟩
      · have hhead : ¬ (c :: cs).head? == some '/' := by simpa using hc
        rw [pieces_cons hc hq]
        by_cases hdot : c :: q = ['.']
        · refine ⟨[.current], ?_, by simpa using hc, by simp⟩
          simp only [hdot, if_true]
          rfl
        · refine ⟨[], ?_, by simpa using hc, by simp⟩
          simp only [hdot, if_false]
          rfl

theorem root_mem_components : Component.root ∈ p.components ↔ p.isAbsolute = true := by
  obtain ⟨front, hp, hroot, -⟩ := exists_front p
  have hnamed : ∀ ps : List (List Char), Component.root ∉ ps.map
      (fun s => if s = ['.', '.'] then .parent else .name (String.ofList s)) := by
    intro ps hmem
    obtain ⟨s, -, hs⟩ := List.mem_map.1 hmem
    split at hs <;> cases hs
  rw [hp, List.mem_append, ← hroot]
  exact or_iff_left (hnamed _)

theorem parent_mem_components : Component.parent ∈ p.components ↔ ".." ∈ Disk.names p := by
  obtain ⟨front, hp, -, hparent⟩ := exists_front p
  have hdots : ∀ s : List Char, String.ofList s = ".." ↔ s = ['.', '.'] := by
    intro s
    rw [← String.toList_inj, String.toList_ofList]
    rfl
  rw [hp, List.mem_append, or_iff_right hparent, Disk.names]
  simp only [List.mem_map, List.mem_filter, hdots]
  constructor
  · rintro ⟨s, ⟨hs, -⟩, heq⟩
    split at heq
    · rename_i hup
      exact ⟨s, hs, hup⟩
    · cases heq
  · rintro ⟨s, hs, rfl⟩
    exact ⟨_, ⟨hs, by decide⟩, rfl⟩

/-- **A path is contained** unless it escapes. -/
theorem isContained_iff_not_escapes : p.isContained = true ↔ ¬ p.Escapes := by
  have hall : p.isContained = true ↔
      Component.root ∉ p.components ∧ Component.parent ∉ p.components := by
    rw [isContained, List.all_eq_true]
    constructor
    · intro h
      exact ⟨fun hmem => Bool.false_ne_true (h _ hmem), fun hmem => Bool.false_ne_true (h _ hmem)⟩
    · rintro ⟨hroot, hparent⟩ c hc
      cases c with
      | root => exact absurd hc hroot
      | parent => exact absurd hc hparent
      | current => rfl
      | name s => rfl
  rw [hall, root_mem_components, Escapes, not_or]

theorem not_escapes_iff : ¬ p.Escapes ↔ p.isAbsolute = false ∧ ".." ∉ Disk.names p := by
  rw [Escapes, not_or, parent_mem_components, Bool.not_eq_true]

end Path

namespace Disk

variable {root p : Path}

/-! ## Paths below a root -/

theorem parts_names_join (h : ¬ p.Escapes) :
    parts (names (root.join p)) = parts (names root) ++ parts (names p) := by
  obtain ⟨lead, hlead, hjoin⟩ := Path.exists_names_join root
  rw [hjoin p (Path.not_escapes_iff.1 h).1, parts_append, hlead]

/-- **A path that does not escape** leads on from where the root leads. -/
theorem destination_join (h : ¬ p.Escapes) :
    destination (root.join p) = destination root ++ parts (names p) := by
  have hup : ".." ∉ parts (names p) :=
    fun hmem => (Path.not_escapes_iff.1 h).2 (List.mem_filter.1 hmem).1
  have hparts : parts (parts (names p)) = parts (names p) := by
    rw [parts, parts, List.filter_filter]
    simp only [Bool.and_self]
  calc destination (root.join p)
      = (parts (names (root.join p))).foldl onward [] := (foldl_onward_parts _ _).symm
    _ = (parts (names p)).foldl onward ((parts (names root)).foldl onward []) := by
        rw [parts_names_join h, List.foldl_append]
    _ = destination root ++ parts (names p) := by
        rw [foldl_onward_of_not_up hup, foldl_onward_parts, hparts]
        rfl

/-- What is on the way to the last piece of a path below a root: a place that the root goes
through, or one above the destination but not above that of the root. -/
theorem through_or_above (h : ¬ p.Escapes) {place : Place} (hbefore : Before (root.join p) place) :
    Through root place ∨
      destination root <+: place ∧ place <+: destination (root.join p) ∧
        place ≠ destination (root.join p) := by
  obtain ⟨lead, hlead, rfl⟩ := hbefore
  rw [parts_names_join h] at hlead
  by_cases hnone : parts (names p) = []
  · -- the path says nothing, so that this is about the root alone
    rw [hnone, List.append_nil] at hlead
    exact Or.inl (through_of_isPrefix_parts (hlead.trans (List.dropLast_prefix _)))
  · rw [List.dropLast_append_of_ne_nil hnone] at hlead
    rcases List.prefix_or_prefix_of_prefix hlead (List.prefix_append _ _) with hroot | hroot
    · exact Or.inl (through_of_isPrefix_parts hroot)
    · obtain ⟨below, rfl⟩ := hroot
      have hbelow : below <+: (parts (names p)).dropLast :=
        (List.prefix_append_right_inj _).1 hlead
      have hpath : below <+: parts (names p) := hbelow.trans (List.dropLast_prefix _)
      have hup : ".." ∉ below := fun hmem =>
        (Path.not_escapes_iff.1 h).2 (List.mem_filter.1 (hpath.subset hmem)).1
      have hparts : parts below = below :=
        List.filter_eq_self.2 fun s hs => (List.mem_filter.1 (hpath.subset hs)).2
      have hplace : (parts (names root) ++ below).foldl onward [] = destination root ++ below := by
        rw [List.foldl_append, foldl_onward_of_not_up hup, foldl_onward_parts, hparts]
        rfl
      rw [hplace, destination_join h]
      refine Or.inr ⟨List.prefix_append _ _, (List.prefix_append_right_inj _).2 hpath, ?_⟩
      rw [ne_eq, List.append_cancel_left_eq]
      rintro rfl
      -- the last piece is missing
      have hlen := hbelow.length_le
      have hpos : 0 < (parts (names p)).length := List.length_pos_iff.2 hnone
      rw [List.length_dropLast] at hlen
      omega

end Disk

end CiPipeline

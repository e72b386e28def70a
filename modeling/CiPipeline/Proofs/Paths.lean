import CiPipeline.Proofs.Slug
import CiPipeline.Storage.Disk
import CiPipeline.Workflow.Basic

set_option autoImplicit false

/-! # Paths made of names

A path that is nothing but names leads, below any root, to the place that these names make
below the place of the root. The paths of generated files are of this kind, and their names
say which workflow a file belongs to.
-/

namespace CiPipeline

/-- The pieces of a path that say something. -/
def Disk.parts (ns : List String) : List String := ns.filter fun s => s ≠ "" ∧ s ≠ "."

theorem Disk.parts_cons (s : String) (ns : List String) :
    Disk.parts (s :: ns) = if s ≠ "" ∧ s ≠ "." then s :: Disk.parts ns else Disk.parts ns := by
  rw [parts, List.filter_cons]
  simp only [decide_eq_true_eq]
  rfl

theorem Disk.parts_of_all_empty {ns : List String} (h : ns.all (· == "") = true) :
    Disk.parts ns = [] := by
  refine List.filter_eq_nil_iff.2 fun s hs => ?_
  rw [eq_of_beq (List.all_eq_true.1 h s hs)]
  decide

theorem Disk.parts_append (as bs : List String) :
    Disk.parts (as ++ bs) = Disk.parts as ++ Disk.parts bs :=
  List.filter_append as bs

namespace Path

/-! ## Pieces -/

theorem pieces_ne_nil (cs : List Char) : pieces cs ≠ [] := by
  unfold pieces
  split
  · exact List.cons_ne_nil _ _
  · exact List.cons_ne_nil _ _
  · split <;> exact List.cons_ne_nil _ _

theorem pieces_cons {c : Char} (hc : c ≠ '/') {cs p : List Char} {ps : List (List Char)}
    (h : pieces cs = p :: ps) : pieces (c :: cs) = (c :: p) :: ps := by
  rw [pieces]
  · rw [h]
  · exact hc

/-- **A slash separates the pieces before it from those behind it.** -/
theorem pieces_append_slash (as bs : List Char) :
    pieces (as ++ '/' :: bs) = pieces as ++ pieces bs := by
  induction as with
  | nil => rfl
  | cons a as ih =>
      by_cases ha : a = '/'
      · subst ha
        show [] :: pieces (as ++ '/' :: bs) = ([] :: pieces as) ++ pieces bs
        rw [ih, List.cons_append]
      · obtain ⟨p, ps, hp⟩ := List.exists_cons_of_ne_nil (pieces_ne_nil as)
        rw [hp, List.cons_append] at ih
        rw [List.cons_append, pieces_cons ha hp, pieces_cons ha ih, List.cons_append]

theorem pieces_of_not_mem {cs : List Char} (h : '/' ∉ cs) : pieces cs = [cs] := by
  induction cs with
  | nil => rfl
  | cons c cs ih =>
      rw [List.mem_cons, not_or] at h
      exact pieces_cons (Ne.symm h.1) (ih h.2)

/-! ## Plain paths -/

/-- The path consists of these names, of which there is at least one. -/
structure IsPlain (p : Path) (ns : List String) : Prop where
  nonempty : ns ≠ []
  components_eq : p.components = ns.map .name

variable {p : Path} {ns : List String}

/-- The component is a name. -/
def Component.isName : Component → Bool
  | .name _ => true
  | _ => false

theorem exists_map_name {cs : List Component} (h : ∀ c ∈ cs, c.isName = true) :
    ∃ ns : List String, cs = ns.map .name := by
  induction cs with
  | nil => exact ⟨[], rfl⟩
  | cons c cs ih =>
      obtain ⟨ns, rfl⟩ := ih fun c hc => h c (List.mem_cons_of_mem _ hc)
      cases c with
      | name n => exact ⟨n :: ns, rfl⟩
      | _ => exact absurd (h _ List.mem_cons_self) Bool.false_ne_true

theorem exists_isPlain_iff :
    (∃ ns, p.IsPlain ns) ↔ p.components ≠ [] ∧ ∀ c ∈ p.components, c.isName = true := by
  constructor
  · rintro ⟨ns, hne, hcs⟩
    rw [hcs]
    refine ⟨fun hnil => hne (List.map_eq_nil_iff.1 hnil), fun c hc => ?_⟩
    obtain ⟨n, -, rfl⟩ := List.mem_map.1 hc
    rfl
  · rintro ⟨hne, hnames⟩
    obtain ⟨ns, hns⟩ := exists_map_name hnames
    refine ⟨ns, fun hnil => hne ?_, hns⟩
    rw [hns, hnil]
    rfl

/-- Whether a path consists of names is seen from its components. -/
instance (p : Path) : Decidable (∃ ns, p.IsPlain ns) := decidable_of_iff _ exists_isPlain_iff.symm

theorem IsPlain.isContained (h : p.IsPlain ns) : p.isContained = true := by
  rw [Path.isContained, h.components_eq, List.all_eq_true]
  intro c hc
  obtain ⟨n, -, rfl⟩ := List.mem_map.1 hc
  rfl

theorem IsPlain.not_isAbsolute (h : p.IsPlain ns) : p.isAbsolute = false := by
  rw [isAbsolute, beq_eq_false_iff_ne]
  intro habs
  obtain ⟨cs, hcs⟩ : ∃ cs, p.text.toList = '/' :: cs := by
    cases hp : p.text.toList with
    | nil => rw [hp] at habs; cases habs
    | cons c cs => rw [hp] at habs; cases habs; exact ⟨cs, rfl⟩
  have hc := h.components_eq
  obtain ⟨q, qs, hq⟩ := List.exists_cons_of_ne_nil (pieces_ne_nil cs)
  obtain ⟨n, ns, rfl⟩ := List.exists_cons_of_ne_nil h.nonempty
  rw [components, hcs, pieces, hq] at hc
  cases hc

/-- Pieces that are read as names give these names, and no `..` is among them. -/
theorem names_of_named {ps : List (List Char)} {ns : List String}
    (h : (ps.filter fun s => s ≠ [] ∧ s ≠ ['.']).map
      (fun s => if s = ['.', '.'] then Component.parent else Component.name (String.ofList s))
        = ns.map .name) :
    Disk.parts (ps.map String.ofList) = ns ∧ ".." ∉ ps.map String.ofList := by
  induction ps generalizing ns with
  | nil =>
      rw [List.map_eq_nil_iff.1 h.symm]
      exact ⟨rfl, List.not_mem_nil⟩
  | cons s ps ih =>
      have hempty : String.ofList s = "" ↔ s = [] := by
        rw [← String.toList_inj, String.toList_ofList]; rfl
      have hdot : String.ofList s = "." ↔ s = ['.'] := by
        rw [← String.toList_inj, String.toList_ofList]; rfl
      have hdots : ".." = String.ofList s ↔ s = ['.', '.'] := by
        rw [eq_comm, ← String.toList_inj, String.toList_ofList]; rfl
      rw [List.map_cons, Disk.parts_cons, List.mem_cons, hdots]
      rw [List.filter_cons] at h
      simp only [ne_eq, hempty, hdot, decide_eq_true_eq] at h ⊢
      split at h
      · rename_i hs
        cases ns with
        | nil => cases h
        | cons n ns =>
            rw [List.map_cons, List.map_cons, List.cons.injEq] at h
            split at h
            · cases h.1
            · rename_i hparent
              have hn : String.ofList s = n := Component.name.inj h.1
              have hrest := ih h.2
              rw [if_pos hs, hrest.1, hn, not_or]
              exact ⟨rfl, hparent, hrest.2⟩
      · rename_i hs
        have hrest := ih h
        rw [if_neg hs, not_or]
        refine ⟨hrest.1, ?_, hrest.2⟩
        rintro rfl
        exact hs (by decide)

theorem components_of_named {ps : List (List Char)} (hp : pieces p.text.toList = ps)
    (h : ∀ s ∈ ps, s ≠ [] ∧ s ≠ ['.'] ∧ s ≠ ['.', '.']) :
    p.components = ps.map fun s => .name (String.ofList s) := by
  have hfilter : (ps.filter fun s => s ≠ [] ∧ s ≠ ['.']) = ps :=
    List.filter_eq_self.2 fun s hs => decide_eq_true ⟨(h s hs).1, (h s hs).2.1⟩
  rw [components, hp, hfilter]
  have hnamed : (ps.map fun s => if s = ['.', '.'] then Component.parent
      else Component.name (String.ofList s)) = ps.map fun s => .name (String.ofList s) :=
    List.map_congr_left fun s hs => if_neg (h s hs).2.2
  rw [hnamed]
  cases ps with
  | nil => rfl
  | cons s ps =>
      have hs := h s List.mem_cons_self
      split
      · rfl
      · rename_i heq
        cases heq
        exact absurd rfl hs.1
      · rename_i heq
        cases heq
        exact if_neg hs.2.1

theorem IsPlain.names (h : p.IsPlain ns) :
    Disk.parts (Disk.names p) = ns ∧ ".." ∉ Disk.names p := by
  refine names_of_named ?_
  obtain ⟨n, ns, rfl⟩ := List.exists_cons_of_ne_nil h.nonempty
  have hc := h.components_eq
  rw [components] at hc
  split at hc
  · assumption
  · cases hc
  · split at hc
    · cases hc
    · assumption

theorem IsPlain.exists_name (h : p.IsPlain ns) : ∃ s ∈ Disk.names p, s ≠ "" := by
  obtain ⟨n, hn⟩ := List.exists_mem_of_ne_nil ns h.nonempty
  rw [← h.names.1, Disk.parts, List.mem_filter, decide_eq_true_eq] at hn
  exact ⟨n, hn.1, hn.2.1⟩

/-! ## Below a root -/

/-- **A root puts the same names before those of every path below it**, and they say what its
own names say. -/
theorem exists_names_join (root : Path) :
    ∃ lead, Disk.parts lead = Disk.parts (Disk.names root) ∧
      ∀ rel : Path, rel.isAbsolute = false →
        Disk.names (root.join rel) = lead ++ Disk.names rel := by
  by_cases hnone : root.text.toList.getLast? = none
  · have hnil : root.text.toList = [] := List.getLast?_eq_none_iff.1 hnone
    have htext : root.text = "" := by
      rw [← String.toList_inj, hnil]; rfl
    refine ⟨[], ?_, fun rel hrel => ?_⟩
    · rw [Disk.names, hnil]
      rfl
    · rw [join, hrel, if_neg Bool.false_ne_true, if_pos (Or.inl hnone), htext,
        String.empty_append]
      rfl
  · by_cases hslash : root.text.toList.getLast? = some '/'
    · obtain ⟨cs, hcs⟩ : ∃ cs, root.text.toList = cs ++ ['/'] :=
        List.getLast?_eq_some_iff.1 hslash
      refine ⟨(pieces cs).map String.ofList, ?_, fun rel hrel => ?_⟩
      · rw [Disk.names, hcs, pieces_append_slash, List.map_append, Disk.parts_append]
        exact (List.append_nil _).symm
      · rw [join, hrel, if_neg Bool.false_ne_true, if_pos (Or.inr hslash), Disk.names,
          String.toList_append, hcs, List.append_assoc, List.singleton_append,
          pieces_append_slash, List.map_append]
        rfl
    · refine ⟨Disk.names root, rfl, fun rel hrel => ?_⟩
      rw [join, hrel, if_neg Bool.false_ne_true, if_neg (not_or.2 ⟨hnone, hslash⟩), Disk.names,
        String.toList_append, String.toList_append, List.append_assoc]
      show (pieces (root.text.toList ++ '/' :: rel.text.toList)).map String.ofList = _
      rw [pieces_append_slash, List.map_append]
      rfl

end Path

/-! ## Paths of generated files -/

namespace Workflow

theorem not_slash_mem_fileName {w : Workflow} (h : '/' ∉ w.name.toList) :
    '/' ∉ (w.slug ++ ".yml").toList := by
  rw [String.toList_append, List.mem_append, not_or]
  exact ⟨mt Text.slash_mem_slugify.1 h, by decide⟩

/-- A slug without a slash is joined to the directory of workflows; one that began with a slash
would take its place. -/
theorem path_eq {w : Workflow} (h : '/' ∉ w.name.toList) :
    w.path = ⟨w.provider.rootDir ++ "/workflows/" ++ w.slug ++ ".yml"⟩ := by
  have hrel : Path.isAbsolute ⟨w.slug ++ ".yml"⟩ = false := by
    rw [Path.isAbsolute, beq_eq_false_iff_ne]
    exact fun habs => not_slash_mem_fileName h (List.mem_of_head? habs)
  have hdir : (Path.mk w.provider.rootDir).join ⟨"workflows"⟩ =
      ⟨w.provider.rootDir ++ "/workflows"⟩ := by
    cases w.provider <;> decide
  have hopen : ¬ ((w.provider.rootDir ++ "/workflows").toList.getLast? = none ∨
      (w.provider.rootDir ++ "/workflows").toList.getLast? = some '/') := by
    cases w.provider <;> decide
  have hslash : "/workflows/" = "/workflows" ++ "/" := by decide
  rw [path, hdir, Path.join, hrel, if_neg Bool.false_ne_true, if_neg hopen, hslash]
  simp only [String.append_assoc]

/-- **Where a workflow's file goes**: its slug names it in the provider's directory of
workflows, provided that the name has no slash. -/
theorem isPlain_path {w : Workflow} (h : '/' ∉ w.name.toList) :
    w.path.IsPlain [w.provider.rootDir, "workflows", w.slug ++ ".yml"] := by
  have hroot : '/' ∉ w.provider.rootDir.toList := by
    cases w.provider <;> decide
  have htext : w.path.text.toList = w.provider.rootDir.toList ++ '/' ::
      ("workflows".toList ++ '/' :: (w.slug ++ ".yml").toList) := by
    rw [path_eq h]
    simp only [String.toList_append, List.append_assoc]
    rfl
  have hpieces : Path.pieces w.path.text.toList =
      [w.provider.rootDir.toList, "workflows".toList, (w.slug ++ ".yml").toList] := by
    rw [htext, Path.pieces_append_slash, Path.pieces_append_slash,
      Path.pieces_of_not_mem hroot, Path.pieces_of_not_mem (not_slash_mem_fileName h)]
    rfl
  refine ⟨List.cons_ne_nil _ _, ?_⟩
  rw [Path.components_of_named hpieces]
  · simp only [List.map_cons, List.map_nil, String.ofList_toList]
  · intro s hs
    simp only [List.mem_cons, List.not_mem_nil, or_false] at hs
    rcases hs with rfl | rfl | rfl
    · cases w.provider <;> decide
    · decide
    · have hlen : 4 ≤ (w.slug ++ ".yml").toList.length := by
        rw [String.toList_append, List.length_append]
        exact Nat.le_add_left _ _
      refine ⟨?_, ?_, ?_⟩ <;> (intro he; rw [he] at hlen; exact absurd hlen (by decide))

end Workflow

end CiPipeline

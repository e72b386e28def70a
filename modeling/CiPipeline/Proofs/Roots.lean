import CiPipeline.Proofs.Directories

set_option autoImplicit false

/-! # Paths seen from a root

A root can be a path through directories that are not there yet. As long as no `..` comes behind
a missing one (`Steady`), all its paths made of names lead to places below one directory that is
there (`Below`), or none of them leads anywhere.
-/

namespace CiPipeline.Disk

variable {d : Disk} {root p : Path} {ns : List String} {e : Storage.Error}

/-- No `..` of the path comes behind a directory that is missing. -/
def Steady (d : Disk) (p : Path) : Prop :=
  ∀ before after, names p = before ++ ".." :: after →
    d.walk [] (before ++ [".."]) ≠ .error .notFound

/-- A path without `..` is steady whatever there is on the disk. -/
theorem steady_of_not_mem (d : Disk) (h : ".." ∉ names p) : d.Steady p := by
  intro before after hnames
  rw [hnames] at h
  exact absurd (List.mem_append_right _ List.mem_cons_self) h

theorem enter_up (d : Disk) (before : List String) :
    d.enter [] (before ++ [".."]) = (d.enter [] before).map List.dropLast := by
  rw [enter_append]
  cases d.enter [] before <;> rfl

theorem Steady.enter_ne {before after : List String} (h : d.Steady p)
    (hp : names p = before ++ ".." :: after) : d.enter [] before ≠ .error .notFound := by
  intro hmissing
  refine h before after hp ?_
  rw [walk_append before ⟨"..", List.mem_cons_self, by decide⟩, hmissing]
  rfl

/-- **Up to its last `..`** a steady path leads to a directory that is there, or fails for
good. -/
theorem Steady.exists_base (h : d.Steady p) :
    (∃ e, e ≠ .notFound ∧ d.enter [] (names p) = .error e) ∨
      ∃ lead after base, parts (names p) = lead ++ after ∧ ".." ∉ after ∧
        d.enter [] lead = .ok base := by
  by_cases hup : ".." ∈ names p
  · -- the last one is the first from behind
    obtain ⟨after, before, hreverse, hafter⟩ :=
      List.eq_append_cons_of_mem (List.mem_reverse.2 hup)
    have hp : names p = before.reverse ++ ".." :: after.reverse := by
      rw [← List.reverse_reverse (names p), hreverse, List.reverse_append, List.reverse_cons,
        List.append_assoc, List.singleton_append]
    have hsplit : names p = before.reverse ++ [".."] ++ after.reverse := by
      rw [hp, List.append_assoc, List.singleton_append]
    cases hbase : d.enter [] before.reverse with
    | error e =>
        refine Or.inl ⟨e, fun he => h.enter_ne hp (he ▸ hbase), ?_⟩
        rw [hsplit, enter_append, enter_up, hbase]
        rfl
    | ok b =>
        refine Or.inr ⟨parts (before.reverse ++ [".."]), parts after.reverse, b.dropLast, ?_, ?_, ?_⟩
        · rw [hsplit, parts_append]
        · exact fun hmem => hafter (List.mem_reverse.1 (List.mem_of_mem_filter hmem))
        · rw [enter_parts, enter_up, hbase]
          rfl
  · exact Or.inr ⟨[], parts (names p), [], rfl,
      fun hmem => hup (List.mem_of_mem_filter hmem), rfl⟩

/-! ## Reading -/

/-- A path that is too long, or has a character that no name can have, is read nowhere. -/
theorem read_of_not_fits (hfits : ¬ Fits p) (hp : p.text ≠ "") :
    ∃ e, e ≠ .notFound ∧ ∀ d : Disk, d.read p = .error e := by
  by_cases hnul : p.text.toList.contains '\x00' = true
  · refine ⟨.nulInName, by decide, fun d => ?_⟩
    rw [read, find, if_pos hnul]
  · by_cases hlong : 4096 ≤ p.text.utf8ByteSize
    · refine ⟨.nameTooLong, by decide, fun d => ?_⟩
      rw [read, find, if_neg hnul, if_neg hp, if_pos hlong]
    · exact absurd ⟨hnul, hlong⟩ hfits

/-! ## Targets -/

theorem join_text_ne_empty (root : Path) (hp : p.IsPlain ns) : (root.join p).text ≠ "" := by
  intro hempty
  obtain ⟨lead, -, hlead⟩ := Path.exists_names_join root
  obtain ⟨s, hs, hne⟩ := hp.exists_name
  have hmem : s ∈ names (root.join p) := by
    rw [hlead p hp.not_isAbsolute]
    exact List.mem_append_right lead hs
  rw [names, hempty] at hmem
  exact hne (List.mem_singleton.1 hmem)

/-- Nothing is read below a root that leads nowhere. -/
theorem exists_read_error (hp : p.IsPlain ns) (hne : e ≠ .notFound)
    (h : d.enter [] (names root) = .error e) :
    ∃ e, e ≠ .notFound ∧ d.read (root.join p) = .error e := by
  by_cases hfits : Fits (root.join p)
  · obtain ⟨lead, hparts, hlead⟩ := Path.exists_names_join root
    rw [← enter_parts, ← hparts, enter_parts] at h
    refine ⟨e, hne, ?_⟩
    rw [read, find, if_neg hfits.nul, if_neg (join_text_ne_empty root hp), if_neg hfits.short,
      hlead p hp.not_isAbsolute, walk_append lead hp.exists_name, h]
    rfl
  · obtain ⟨e, hne, hread⟩ := read_of_not_fits hfits (join_text_ne_empty root hp)
    exact ⟨e, hne, hread d⟩

/-- A path made of names adds these names to what the root says. -/
theorem below_join {lead after : List String} {base : Place} (hp : p.IsPlain ns)
    (hend : p.Trimmed) (hfits : Fits (root.join p))
    (hshort : ∀ s ∈ names (root.join p), s.utf8ByteSize ≤ 255)
    (hroot : parts (names root) = lead ++ after) (hup : ".." ∉ after)
    (hbase : d.enter [] lead = .ok base) : d.Below (root.join p) base (after ++ ns) := by
  obtain ⟨before, hbefore, hjoin⟩ := Path.exists_names_join root
  have hnames := hjoin p hp.not_isAbsolute
  have hparts : parts (names (root.join p)) = lead ++ (after ++ ns) := by
    rw [hnames, parts_append, hbefore, hroot, hp.names.1, List.append_assoc]
  refine ⟨hfits, ?_, ⟨lead, hparts, hbase⟩, fun s hs => ?_⟩
  · obtain ⟨init, x, hinit, hx⟩ := hend.exists_names (hp.names.1 ▸ hp.nonempty)
    have hlast : names (root.join p) = before ++ init ++ [x] := by
      rw [hnames, hinit, List.append_assoc]
    exact Path.trimmed_of_names hlast hx
  · have hmem : s ∈ parts (names (root.join p)) := by
      rw [hparts]
      exact List.mem_append_right lead hs
    obtain ⟨hpiece, hreal⟩ := List.mem_filter.1 hmem
    rw [decide_eq_true_eq] at hreal
    refine ⟨⟨hreal.1, hreal.2, ?_⟩, Nat.not_lt.2 (hshort s hpiece)⟩
    rintro rfl
    rcases List.mem_append.1 hs with hs | hs
    · exact hup hs
    · rw [← hp.names.1] at hs
      exact hp.names.2 (List.mem_of_mem_filter hs)

end CiPipeline.Disk

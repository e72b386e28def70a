import CiPipeline.Proofs.Writing

set_option autoImplicit false

/-! # Writing once more

After a successful run each file has the content that the last entry for its path gives it. So a
second run finds everything as it should be, and a check finds nothing, if and only if entries
for one path have one content. If entries differ, the earlier ones are found to be out of date.
-/

namespace CiPipeline.Output

open Disk

variable {d d' : Disk} {root : Path} {f : GeneratedFile} {fs : List GeneratedFile}

/-! ## Steps that have nothing to do -/

theorem write_of_read (h : d.read (root.join f.path) = .ok f.content) :
    (write root f : ExceptT Failure (StateM Disk) _).run.run d =
      (.ok ⟨f.path, .unchanged⟩, d) := by
  rw [write_run, dueOn_eq_unchanged_iff.2 h]
  rfl

/-- Only a file that is there already is left unchanged. -/
theorem read_of_write_unchanged
    (h : (write root f : ExceptT Failure (StateM Disk) _).run.run d =
      (.ok ⟨f.path, .unchanged⟩, d')) :
    d.read (root.join f.path) = .ok f.content ∧ d' = d := by
  rw [write_run] at h
  split at h
  · cases h
  · rename_i status hdue
    split at h
    · rename_i hun
      subst hun
      cases h
      exact ⟨dueOn_eq_unchanged_iff.1 hdue, rfl⟩
    · rename_i hun
      split at h
      · cases h
      · cases h
        exact absurd rfl hun

/-! ## Runs that have nothing to do -/

/-- **A run changes nothing** iff every file is there already. -/
theorem each_write_unchanged_iff :
    ((each (write root) fs : StateM Disk _).run d).1 =
        ⟨fs.map fun f => ⟨f.path, .unchanged⟩, none⟩ ↔
      ∀ f ∈ fs, d.read (root.join f.path) = .ok f.content := by
  constructor
  · intro h
    -- every step leaves the disk as it is, so all of them start from the same one
    induction fs with
    | nil => exact fun f hf => absurd hf List.not_mem_nil
    | cons f fs ih =>
        rw [each_cons_run] at h
        split at h
        · cases h
        · rename_i r d₁ hf
          rw [List.map_cons, Progress.mk.injEq, List.cons.injEq] at h
          obtain ⟨⟨rfl, hachieved⟩, hfailure⟩ := h
          obtain ⟨hread, rfl⟩ := read_of_write_unchanged hf
          have hrest := ih (by rw [← hachieved, ← hfailure])
          intro g hg
          rcases List.mem_cons.1 hg with rfl | hg
          · exact hread
          · exact hrest g hg
  · intro h
    rw [each_of_forall_ok fun f hf => write_of_read (h f hf)]

/-! ## After a successful run -/

/-- Entries for one path have one content. -/
def Consistent (fs : List GeneratedFile) : Prop :=
  ∀ f ∈ fs, ∀ g ∈ fs, f.path.components = g.path.components → f.content = g.content

/-- **After a successful run** each file has the content of the last entry for its path, and a
check finds the entries that have another one. That a check finds nothing, that a second run
leaves every file unchanged, and that entries for one path have one content all come to the
same. Then the second run leaves the disk as it is. -/
theorem written_again (d d' : Disk) (root : Path) (files : List GeneratedFile)
    (results : List FileResult) (hplain : ∀ f ∈ files, ∃ ns, f.path.IsPlain ns)
    (h : (writeFiles root files false : StateM Disk _).run d = (⟨results, none⟩, d')) :
    (∀ f ∈ files, d'.read (root.join f.path) = .ok (latest files f.path f.content)) ∧
    (checkFiles root files : StateM Disk _).run d' =
      (⟨(files.filter fun f => latest files f.path f.content ≠ f.content).map (·.path), none⟩,
        d') ∧
    ((checkFiles root files : StateM Disk _).run d' = (⟨[], none⟩, d') ↔ Consistent files) ∧
    (((writeFiles root files false : StateM Disk _).run d').1 =
      ⟨files.map fun f => ⟨f.path, .unchanged⟩, none⟩ ↔ Consistent files) ∧
    (Consistent files → ((writeFiles root files false : StateM Disk _).run d').2 = d') := by
  have hread : ∀ f ∈ files, d'.read (root.join f.path) = .ok (latest files f.path f.content) :=
    fun f hf => read_of_each_write_of_mem hplain (each_of_writeFiles h) hf
  have hagain : (∀ f ∈ files, d'.read (root.join f.path) = .ok f.content) ↔ Consistent files := by
    rw [Consistent, ← latest_eq_content_iff]
    refine forall₂_congr fun f hf => ?_
    rw [hread f hf, Except.ok.injEq]
  refine ⟨hread, checkFiles_of_writeFiles hplain h, checkFiles_eq_nil_iff hplain h, ?_, ?_⟩
  · rw [writeFiles_eq_each hplain, ← hagain]
    exact each_write_unchanged_iff
  · intro hconsistent
    rw [writeFiles_eq_each hplain]
    have hrun := each_of_forall_ok fun f hf => write_of_read (hagain.2 hconsistent f hf)
    exact congrArg Prod.snd hrun

/-- Two entries for one path that is written in two ways, and one entry for a file that is
there already. -/
def twoSpellings : List GeneratedFile :=
  [⟨⟨"a/b.yml"⟩, "first"⟩, ⟨⟨"c.yml"⟩, "same"⟩, ⟨⟨"a//b.yml"⟩, "second"⟩]

/-- What comes of writing them below a root that has one of these files. -/
def twoSpellingsWritten : Progress FileResult × Disk :=
  (writeFiles ⟨"out"⟩ twoSpellings false : StateM Disk _).run
    ⟨[("out", .directory [("c.yml", .file (.text "same"))])]⟩

theorem twoSpellings_written_again :
    (∀ f ∈ twoSpellings, ∃ ns, f.path.IsPlain ns) ∧
    twoSpellingsWritten.1.failure = none ∧
    twoSpellingsWritten.1.achieved.map (·.status) = [.created, .unchanged, .updated] ∧
    twoSpellingsWritten.2.read ⟨"out/a/b.yml"⟩ = .ok "second" ∧
    (checkFiles ⟨"out"⟩ twoSpellings : StateM Disk _).run twoSpellingsWritten.2 =
      (⟨[⟨"a/b.yml"⟩], none⟩, twoSpellingsWritten.2) ∧
    ¬ Consistent twoSpellings := by
  have hplain : ∀ f ∈ twoSpellings, ∃ ns, f.path.IsPlain ns := by decide +kernel
  have hfailure : twoSpellingsWritten.1.failure = none := by decide +kernel
  have hstatus : twoSpellingsWritten.1.achieved.map (·.status) =
      [.created, .unchanged, .updated] := by decide +kernel
  have hstale : (twoSpellings.filter fun f =>
      latest twoSpellings f.path f.content ≠ f.content).map (·.path) = [⟨"a/b.yml"⟩] := by
    decide +kernel
  have hjoin : Path.join ⟨"out"⟩ ⟨"a/b.yml"⟩ = ⟨"out/a/b.yml"⟩ := by decide
  have hlast : latest twoSpellings ⟨"a/b.yml"⟩ "first" = "second" := by decide +kernel
  unfold twoSpellingsWritten at *
  obtain ⟨hread, hcheck, hnone, -, -⟩ :=
    written_again _ _ _ _ _ hplain (run_eq_of_failure hfailure)
  have hfirst := hread ⟨⟨"a/b.yml"⟩, "first"⟩ List.mem_cons_self
  simp only [hjoin, hlast] at hfirst
  rw [hstale] at hcheck
  refine ⟨hplain, hfailure, hstatus, hfirst, hcheck, fun hall => ?_⟩
  rw [hnone.2 hall, Prod.mk.injEq] at hcheck
  exact absurd hcheck.1 (by decide)

end CiPipeline.Output

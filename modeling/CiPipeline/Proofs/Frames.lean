import CiPipeline.Proofs.Writing

set_option autoImplicit false

/-! # What a run may change

Files are written to their targets and nowhere else. Directories are made where there was
nothing, for the root and above the targets. This holds of every run, whether it succeeds or not,
and a run that fails at a file leaves all files as a run on the earlier ones leaves them
(`writeFiles_frame`). If any path escapes from the root the run does not even begin.
-/

namespace CiPipeline

namespace Disk

variable {d d₁ d₂ : Disk} {place : Place} {target made : Place → Prop}

/-! ## Changes to a disk -/

/-- The contents of the file at a place, if there is a file. -/
def fileAt? (d : Disk) (place : Place) : Option Contents :=
  match d.kindAt? place with
  | some (.file c) => some c
  | _ => none

theorem fileAt?_congr (h : d₁.kindAt? place = d.kindAt? place) :
    d₁.fileAt? place = d.fileAt? place := by
  rw [fileAt?, fileAt?, h]

theorem kindAt?_of_fileAt? {c : Contents} (h : d.fileAt? place = some c) :
    d.kindAt? place = some (.file c) := by
  rw [fileAt?] at h
  split at h
  · rename_i hkind
    cases h
    exact hkind
  · cases h

/-- Directories are no files. -/
theorem GrowsAt.fileAt?_eq (h : d.GrowsAt d₁ made) (place : Place) :
    d₁.fileAt? place = d.fileAt? place := by
  rcases h place with hsame | ⟨-, hnone, hdir⟩
  · exact fileAt?_congr hsame
  · rw [fileAt?, fileAt?, hnone, hdir]

/-- All that has changed is that there are files at places of one kind, which were no directories,
and directories at places of another kind, where there was nothing. -/
def ChangesAt (d d' : Disk) (target made : Place → Prop) : Prop :=
  ∀ q, d'.kindAt? q = d.kindAt? q ∨
    (target q ∧ d.kindAt? q ≠ some .directory ∧ ∃ c, d'.kindAt? q = some (.file c)) ∨
    (made q ∧ d.kindAt? q = none ∧ d'.kindAt? q = some .directory)

namespace ChangesAt

theorem refl (d : Disk) (target made : Place → Prop) : d.ChangesAt d target made :=
  fun _ => Or.inl rfl

theorem trans (h₁ : d.ChangesAt d₁ target made) (h₂ : d₁.ChangesAt d₂ target made) :
    d.ChangesAt d₂ target made := by
  intro q
  rcases h₂ q with hsame | ⟨htarget, hno, c, hfile⟩ | ⟨hmade, hnone, hdir⟩
  · rw [hsame]
    exact h₁ q
  · -- what is no directory now was none before
    refine Or.inr (Or.inl ⟨htarget, fun hdir => ?_, c, hfile⟩)
    rcases h₁ q with hsame | ⟨-, hno', -⟩ | ⟨-, hnone, -⟩
    · exact hno (hsame.trans hdir)
    · exact hno' hdir
    · rw [hnone] at hdir
      cases hdir
  · -- where there is nothing now there was nothing before
    refine Or.inr (Or.inr ⟨hmade, ?_, hdir⟩)
    rcases h₁ q with hsame | ⟨-, -, c, hfile⟩ | ⟨-, -, hdir'⟩
    · rw [← hsame, hnone]
    · rw [hfile] at hnone
      cases hnone
    · rw [hdir'] at hnone
      cases hnone

theorem mono {target' made' : Place → Prop} (h : d.ChangesAt d₁ target made)
    (htarget : ∀ q, target q → target' q) (hmade : ∀ q, made q → made' q) :
    d.ChangesAt d₁ target' made' :=
  fun q => (h q).imp_right (Or.imp (And.imp_left (htarget q)) (And.imp_left (hmade q)))

theorem of_growsAt (h : d.GrowsAt d₁ made) : d.ChangesAt d₁ target made :=
  fun q => (h q).imp_right Or.inr

/-- A successful write changes what is at the destination of its path. -/
theorem of_write {p : Path} {c : Contents} (h : d.write p c = (.ok (), d₁))
    (htarget : target (destination p)) : d.ChangesAt d₁ target made := by
  obtain ⟨place, hleads, hno, hput⟩ := write_eq_ok h
  intro q
  by_cases hq : q = place
  · refine Or.inr (Or.inl ⟨?_, hq ▸ hno, c, ?_⟩)
    · rw [hq, hleads.place_eq]
      exact htarget
    · rw [hput, if_pos hq]
  · rw [hput, if_neg hq]
    exact Or.inl rfl

end ChangesAt

end Disk

namespace Output

open Disk

variable {d : Disk} {root : Path} {f : GeneratedFile} {files : List GeneratedFile}

/-! ## Steps -/

/-- The failure says that the target of a file, or the directory above it, cannot be used. -/
def Blames (root : Path) (f : GeneratedFile) (e : Failure) : Prop :=
  ∃ blamed error, e = .io blamed error ∧
    (blamed = root.join f.path ∨ (root.join f.path).parent? = some blamed)

theorem blames_of_dueOn {e : Failure} (h : dueOn root f d = .error e) : Blames root f e := by
  obtain ⟨error, rfl⟩ := dueOn_error h
  exact ⟨root.join f.path, error, rfl, Or.inl rfl⟩

/-- **A step** makes directories on the way to its target and then may write it. If it fails it
has not written it. -/
theorem write_cases (root : Path) (f : GeneratedFile) (d : Disk) :
    ∃ r d', (write root f : ExceptT Failure (StateM Disk) _).run.run d = (r, d') ∧
      d.ChangesAt d' (· = destination (root.join f.path)) (Before (root.join f.path)) ∧
      ∀ e, r = .error e → d.GrowsAt d' (Before (root.join f.path)) ∧ Blames root f e := by
  rw [write_run]
  cases hdue : dueOn root f d with
  | error e =>
      refine ⟨_, _, rfl, .refl d _ _, fun e he => ?_⟩
      cases he
      exact ⟨.refl d _, blames_of_dueOn hdue⟩
  | ok status =>
      by_cases hun : status = .unchanged
      · simp only [if_pos hun]
        exact ⟨_, _, rfl, .refl d _ _, fun e he => by cases he⟩
      · obtain ⟨d₁, hgrows, hplace⟩ := place_cases (root.join f.path) f.content d
        rcases hplace with ⟨blamed, error, hblamed, hrun⟩ | ⟨d', hwrite, hrun⟩
        · simp only [if_neg hun, hrun]
          refine ⟨_, _, rfl, .of_growsAt hgrows, fun e he => ?_⟩
          cases he
          exact ⟨hgrows, blamed, error, rfl, hblamed⟩
        · simp only [if_neg hun, hrun]
          have hchanges : d.ChangesAt d' (· = destination (root.join f.path))
              (Before (root.join f.path)) :=
            (ChangesAt.of_growsAt hgrows).trans (.of_write hwrite rfl)
          exact ⟨_, _, rfl, hchanges, fun e he => by cases he⟩

/-! ## Runs -/

/-- The place is the target of one of the files. -/
def IsTarget (root : Path) (files : List GeneratedFile) (place : Place) : Prop :=
  ∃ f ∈ files, place = destination (root.join f.path)

/-- The place is on the way to the last piece of the path of some target. -/
def IsBefore (root : Path) (files : List GeneratedFile) (place : Place) : Prop :=
  ∃ f ∈ files, Before (root.join f.path) place

theorem each_write_changesAt (root : Path) (files : List GeneratedFile) (d : Disk) :
    d.ChangesAt ((each (write root) files : StateM Disk _).run d).2 (IsTarget root files)
      (IsBefore root files) := by
  have hstep : ∀ f ∈ files, ∀ d : Disk,
      d.ChangesAt ((write root f : ExceptT Failure (StateM Disk) _).run.run d).2
        (IsTarget root files) (IsBefore root files) := by
    intro f hf d
    obtain ⟨r, d', hrun, hchanges, -⟩ := write_cases root f d
    rw [hrun]
    exact hchanges.mono (fun q hq => ⟨f, hf, hq⟩) (fun q hq => ⟨f, hf, hq⟩)
  exact each_preserves (R := fun d d' => d.ChangesAt d' (IsTarget root files) (IsBefore root files))
    (fun d => .refl d _ _) (fun _ _ _ => .trans) hstep d

/-- A dry run leaves the disk as it is. -/
theorem each_preview_disk (root : Path) (files : List GeneratedFile) (d : Disk) :
    ((each (preview root) files : StateM Disk _).run d).2 = d := by
  refine (each_preserves (R := Eq) (fun _ => rfl) (fun _ _ _ => Eq.trans) (fun f _ d => ?_) d).symm
  rw [preview_run]

/-- What may be changed when files are written below a root. -/
structure Frame (root : Path) (files : List GeneratedFile) (d d' : Disk) : Prop where
  /-- All targets are below the place of the root. -/
  below : ∀ f ∈ files, destination root <+: destination (root.join f.path)
  /-- Except at targets, all files are as they were, and there are no new ones. -/
  file_eq : ∀ q, ¬ IsTarget root files q → d'.fileAt? q = d.fileAt? q
  /-- No file is removed. -/
  file_stays : ∀ q, (d.fileAt? q).isSome → (d'.fileAt? q).isSome
  /-- No directory is removed. -/
  directory_stays : ∀ q, d.kindAt? q = some .directory → d'.kindAt? q = some .directory
  /-- A new directory is one that the root goes through, or it is above a target and below the
  root. -/
  made : ∀ q, d.kindAt? q ≠ some .directory → d'.kindAt? q = some .directory →
    d.kindAt? q = none ∧
    (Through root q ∨ ∃ f ∈ files, destination root <+: q ∧
      q <+: destination (root.join f.path) ∧ q ≠ destination (root.join f.path))

theorem frame_of_changesAt {d' : Disk} (hsafe : ∀ f ∈ files, ¬ f.path.Escapes)
    (h : d.ChangesAt d' (IsTarget root files) (IsBefore root files)) :
    Frame root files d d' where
  below := by
    intro f hf
    rw [destination_join (hsafe f hf)]
    exact List.prefix_append _ _
  file_eq := by
    intro q hq
    rcases h q with hsame | ⟨htarget, -⟩ | ⟨-, hnone, hdir⟩
    · exact fileAt?_congr hsame
    · exact absurd htarget hq
    · rw [fileAt?, fileAt?, hnone, hdir]
  file_stays := by
    intro q hq
    obtain ⟨c, hc⟩ := Option.isSome_iff_exists.1 hq
    rcases h q with hsame | ⟨-, -, c', hfile⟩ | ⟨-, hnone, -⟩
    · rw [fileAt?_congr hsame]
      exact hq
    · rw [fileAt?, hfile]
      rfl
    · rw [kindAt?_of_fileAt? hc] at hnone
      cases hnone
  directory_stays := by
    intro q hq
    rcases h q with hsame | ⟨-, hno, -⟩ | ⟨-, -, hdir⟩
    · rw [hsame, hq]
    · exact absurd hq hno
    · exact hdir
  made := by
    intro q hno hdir
    rcases h q with hsame | ⟨-, -, c, hfile⟩ | ⟨⟨f, hf, hbefore⟩, hnone, -⟩
    · rw [hsame] at hdir
      exact absurd hdir hno
    · rw [hfile] at hdir
      cases hdir
    · refine ⟨hnone, ?_⟩
      rcases through_or_above (hsafe f hf) hbefore with hroot | habove
      · exact Or.inl hroot
      · exact Or.inr ⟨f, hf, habove⟩

/-- If the root does not go up anywhere, new directories are above its place or above a target. -/
theorem Frame.isPrefix_of_made {d' : Disk} (h : Frame root files d d') (hup : ".." ∉ names root)
    {q : Place} (hno : d.kindAt? q ≠ some .directory) (hdir : d'.kindAt? q = some .directory) :
    q <+: destination root ∨
      ∃ f ∈ files, q <+: destination (root.join f.path) ∧ q ≠ destination (root.join f.path) := by
  rcases (h.made q hno hdir).2 with hroot | ⟨f, hf, -, habove⟩
  · exact Or.inl (isPrefix_destination_of_through hroot hup)
  · exact Or.inr ⟨f, hf, habove⟩

/-! ## Whole commands -/

theorem firstUnsafe_of_escapes {before after : List GeneratedFile}
    (hbefore : ∀ g ∈ before, ¬ g.path.Escapes) (hf : f.path.Escapes) :
    firstUnsafe (before ++ f :: after) = some f.path := by
  have hno : ∀ p ∈ before.map (·.path), ¬ ¬ p.isContained = true := by
    intro p hp
    obtain ⟨g, hg, rfl⟩ := List.mem_map.1 hp
    exact not_not_intro (Path.isContained_iff_not_escapes.2 (hbefore g hg))
  have hescapes : ¬ f.path.isContained = true :=
    fun hcontained => Path.isContained_iff_not_escapes.1 hcontained hf
  rw [firstUnsafe, List.map_append, List.map_cons, List.find?_append,
    List.find?_eq_none.2 (by simpa using hno), List.find?_cons_of_pos (by simpa using hescapes)]
  rfl

/-- A step that fails leaves all files as they were. -/
theorem step_error {d' : Disk} {e : Failure} (dryRun : Bool)
    (h : ((if dryRun then preview root else write root :
      GeneratedFile → ExceptT Failure (StateM Disk) FileResult) f).run.run d = (.error e, d')) :
    Blames root f e ∧ ∀ q, d'.fileAt? q = d.fileAt? q := by
  cases dryRun with
  | true =>
      rw [if_pos rfl, preview_run] at h
      cases hdue : dueOn root f d with
      | ok status =>
          rw [hdue] at h
          cases h
      | error e =>
          rw [hdue] at h
          cases h
          exact ⟨blames_of_dueOn hdue, fun _ => rfl⟩
  | false =>
      rw [if_neg Bool.false_ne_true] at h
      obtain ⟨r, d₁, hrun, -, hfail⟩ := write_cases root f d
      rw [hrun] at h
      cases h
      obtain ⟨hgrows, hblames⟩ := hfail e rfl
      exact ⟨hblames, hgrows.fileAt?_eq⟩

/-- **A path that escapes** is found before anything is done, wherever it stands. Without one, a
run stays within its frame whatever comes of it. If it fails, it does so at one of the files, and
all files are as a run on the earlier ones leaves them. -/
theorem writeFiles_frame (d : Disk) (root : Path) (files : List GeneratedFile) (dryRun : Bool) :
    (∀ before f after, files = before ++ f :: after → (∀ g ∈ before, ¬ g.path.Escapes) →
      f.path.Escapes →
      (writeFiles root files dryRun : StateM Disk _).run d =
        (⟨[], some (.unsafePath f.path)⟩, d)) ∧
    ((∀ f ∈ files, ¬ f.path.Escapes) → ∃ achieved failure d',
      (writeFiles root files dryRun : StateM Disk _).run d = (⟨achieved, failure⟩, d') ∧
      Frame root files d d' ∧
      ∀ e, failure = some e → ∃ f d₁, files[achieved.length]? = some f ∧ Blames root f e ∧
        (writeFiles root (files.take achieved.length) dryRun : StateM Disk _).run d =
          (⟨achieved, none⟩, d₁) ∧
        ∀ q, d'.fileAt? q = d₁.fileAt? q) := by
  constructor
  · rintro before f after rfl hbefore hf
    rw [writeFiles, firstUnsafe_of_escapes hbefore hf]
    rfl
  · intro hsafe
    have hcontained : ∀ f ∈ files, f.path.isContained = true :=
      fun f hf => Path.isContained_iff_not_escapes.2 (hsafe f hf)
    rw [writeFiles_of_isContained hcontained]
    have hframe : Frame root files d ((each (if dryRun then preview root else write root) files :
        StateM Disk _).run d).2 := by
      refine frame_of_changesAt hsafe ?_
      cases dryRun with
      | true =>
          rw [if_pos rfl, each_preview_disk]
          exact .refl d _ _
      | false => exact each_write_changesAt root files d
    rcases hrun : (each (if dryRun then preview root else write root) files :
      StateM Disk _).run d with ⟨⟨achieved, failure⟩, d'⟩
    rw [hrun] at hframe
    refine ⟨achieved, failure, d', rfl, hframe, fun e he => ?_⟩
    -- the step that failed has made directories at most
    rw [he] at hrun
    obtain ⟨f, d₁, hf, hearlier, hfail⟩ := each_of_failure hrun
    obtain ⟨hblames, hsame⟩ := step_error dryRun hfail
    refine ⟨f, d₁, hf, hblames, ?_, hsame⟩
    rw [writeFiles_of_isContained fun g hg => hcontained g (List.mem_of_mem_take hg)]
    exact hearlier

/-- A file behind which a path goes up again, and a path from the top directory. -/
def leadingOut : List GeneratedFile :=
  [⟨⟨"a/b.yml"⟩, "B"⟩, ⟨⟨"x/../y"⟩, "Y"⟩, ⟨⟨"/z"⟩, "Z"⟩]

/-- Three files, of which the second cannot be written if there is a file `f`. -/
def blockedHalfway : List GeneratedFile :=
  [⟨⟨"a/./b.yml"⟩, "B"⟩, ⟨⟨"f/g.yml"⟩, "G"⟩, ⟨⟨"h.yml"⟩, "H"⟩]

/-- A disk with a file `f` below the root. -/
def fileInTheWay : Disk := ⟨[("out", .directory [("f", .file (.text "F"))])]⟩

theorem blockedHalfway_framed :
    (writeFiles ⟨"out"⟩ leadingOut false : StateM Disk _).run fileInTheWay =
      (⟨[], some (.unsafePath ⟨"x/../y"⟩)⟩, fileInTheWay) ∧
    ∃ d' d₁,
      (writeFiles ⟨"out"⟩ blockedHalfway false : StateM Disk _).run fileInTheWay =
        (⟨[⟨⟨"a/./b.yml"⟩, .created⟩], some (.io ⟨"out/f/g.yml"⟩ .notADirectory)⟩, d') ∧
      Frame ⟨"out"⟩ blockedHalfway fileInTheWay d' ∧
      (writeFiles ⟨"out"⟩ [⟨⟨"a/./b.yml"⟩, "B"⟩] false : StateM Disk _).run fileInTheWay =
        (⟨[⟨⟨"a/./b.yml"⟩, .created⟩], none⟩, d₁) ∧
      ∀ q, d'.fileAt? q = d₁.fileAt? q := by
  constructor
  · exact (writeFiles_frame fileInTheWay ⟨"out"⟩ leadingOut false).1
      [⟨⟨"a/b.yml"⟩, "B"⟩] ⟨⟨"x/../y"⟩, "Y"⟩ [⟨⟨"/z"⟩, "Z"⟩] rfl (by decide +kernel)
      (by decide +kernel)
  · obtain ⟨achieved, failure, d', hrun, hframe, hfail⟩ :=
      (writeFiles_frame fileInTheWay ⟨"out"⟩ blockedHalfway false).2 (by decide +kernel)
    have hprogress : ((writeFiles ⟨"out"⟩ blockedHalfway false : StateM Disk _).run
        fileInTheWay).1 =
        ⟨[⟨⟨"a/./b.yml"⟩, .created⟩], some (.io ⟨"out/f/g.yml"⟩ .notADirectory)⟩ := by
      decide +kernel
    rw [hrun] at hprogress
    cases hprogress
    obtain ⟨f, d₁, -, -, hearlier, hsame⟩ := hfail _ rfl
    exact ⟨d', d₁, hrun, hframe, hearlier, hsame⟩

end Output

end CiPipeline

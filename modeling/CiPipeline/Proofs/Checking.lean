import CiPipeline.CommandLine.Run
import CiPipeline.Proofs.Writing

set_option autoImplicit false

/-! # A check and a dry run

Both go through the files in turn and look at what is due for each of them. A dry run asks before
the first file whether all paths are contained, and a check asks it of each file in its turn. They
still come to the same result (`check_agrees_with_dryRun`): both fail, or the check gives the
paths that the dry run does not call unchanged.
-/

namespace CiPipeline

namespace FileStatus

theorem foreseen_eq_unchanged_iff {s : FileStatus} : s.foreseen = .unchanged ↔ s = .unchanged := by
  cases s <;> decide

theorem eq_of_text_isPrefix (s t : FileStatus) (h : s.text.toList <+: t.text.toList) : s = t := by
  revert h
  cases s <;> cases t <;> decide

/-- The words for a status can be told from what follows them. -/
theorem text_append_inj {s t : FileStatus} {x y : String} (h : s.text ++ x = t.text ++ y) :
    s = t ∧ x = y := by
  have hst : s = t := by
    have hlist : s.text.toList ++ x.toList = t.text.toList ++ y.toList := by
      rw [← String.toList_append, ← String.toList_append, h]
    have hs : s.text.toList <+: s.text.toList ++ x.toList := List.prefix_append _ _
    have ht : t.text.toList <+: s.text.toList ++ x.toList := hlist ▸ List.prefix_append _ _
    rcases List.prefix_or_prefix_of_prefix hs ht with hpre | hpre
    · exact eq_of_text_isPrefix s t hpre
    · exact (eq_of_text_isPrefix t s hpre).symm
  subst hst
  exact ⟨rfl, (String.append_right_inj _).1 h⟩

end FileStatus

namespace Output

variable {d : Disk} {root : Path} {f : GeneratedFile} {files : List GeneratedFile}

/-! ## Both runs side by side -/

/-- What a check says of a file for which a dry run gives a result. -/
def finding (r : FileResult) : Option Path := if r.status = .unchanged then none else some r.path

/-- The results that files have for which there is nothing to do. -/
def allUnchanged (files : List GeneratedFile) : List FileResult :=
  files.map fun f => ⟨f.path, .unchanged⟩

theorem filterMap_finding (results : List FileResult) :
    results.filterMap finding = (results.filter (·.status ≠ .unchanged)).map (·.path) := by
  have hfinding : finding = fun r : FileResult =>
      if decide (r.status ≠ .unchanged) = true then some r.path else none := by
    funext r
    simp only [finding, ne_eq, decide_not, Bool.not_eq_true', decide_eq_false_iff_not, ite_not]
  rw [hfinding, filterMap_if]

/-- A check finds nothing where everything is called unchanged, and only there. -/
theorem filterMap_finding_eq_nil_iff {results : List FileResult}
    (h : results.map (·.path) = files.map (·.path)) :
    results.filterMap finding = [] ↔ results = allUnchanged files := by
  have hpaths : allUnchanged files = results.map fun r => ⟨r.path, .unchanged⟩ := by
    have heq := congrArg (List.map fun p : Path => (⟨p, .unchanged⟩ : FileResult)) h
    rw [List.map_map, List.map_map] at heq
    exact heq.symm
  rw [hpaths, List.filterMap_eq_nil_iff]
  constructor
  · intro hall
    refine (List.map_id results).symm.trans (List.map_congr_left fun r hr => ?_)
    have hnone := hall r hr
    rw [finding] at hnone
    split at hnone
    · rename_i hun
      rw [id, ← hun]
    · cases hnone
  · intro heq r hr
    rw [heq] at hr
    obtain ⟨r', -, rfl⟩ := List.mem_map.1 hr
    rfl

/-- **Both runs in step**: a check of files with contained paths finds what a dry run tells, and
ends where it ends. -/
theorem each_preview_check (root : Path) (hfiles : ∀ f ∈ files, f.path.isContained = true)
    (d : Disk) :
    ∃ results failure,
      (each (preview root) files : StateM Disk _).run d = (⟨results, failure⟩, d) ∧
      (each (check root) files : StateM Disk _).run d = (⟨results.map finding, failure⟩, d) ∧
      (failure = none → results.map (·.path) = files.map (·.path)) ∧
      ∀ e, failure = some e → ∃ f ∈ files, ∃ error, e = .io (root.join f.path) error := by
  -- neither step changes the disk, so that both runs look at each file in the same state
  induction files with
  | nil => exact ⟨[], none, rfl, rfl, fun _ => rfl, (fun e he => by cases he)⟩
  | cons f fs ih =>
      have hpreview := preview_run root f d
      have hcheck : (check root f : ExceptT Failure (StateM Disk) _).run.run d = _ :=
        check_run (hfiles f List.mem_cons_self) d
      cases hdue : dueOn root f d with
      | error e =>
          rw [hdue] at hpreview hcheck
          refine ⟨[], some e, ?_, ?_, (fun hnone => by cases hnone), fun e' he => ?_⟩
          · rw [each_cons_run, hpreview]
            rfl
          · rw [each_cons_run, hcheck]
            rfl
          · cases he
            obtain ⟨error, he⟩ := dueOn_error hdue
            exact ⟨f, List.mem_cons_self, error, he⟩
      | ok status =>
          rw [hdue] at hpreview hcheck
          obtain ⟨results, failure, htold, hfound, hpaths, hfail⟩ :=
            ih fun g hg => hfiles g (List.mem_cons_of_mem f hg)
          refine ⟨⟨f.path, status.foreseen⟩ :: results, failure, ?_, ?_, ?_, ?_⟩
          · rw [each_cons_run, hpreview]
            simp only [Except.map, htold]
          · rw [each_cons_run, hcheck]
            simp only [Except.map, hfound, List.map_cons, finding,
              FileStatus.foreseen_eq_unchanged_iff]
          · intro hnone
            rw [List.map_cons, List.map_cons, hpaths hnone]
          · intro e he
            obtain ⟨g, hg, error, hio⟩ := hfail e he
            exact ⟨g, List.mem_cons_of_mem f hg, error, hio⟩

/-! ## Paths that are not contained -/

theorem check_run_of_not_isContained (hf : ¬ f.path.isContained = true) (d : Disk) :
    (check root f : ExceptT Failure (StateM Disk) _).run.run d =
      (.error (.unsafePath f.path), d) := by
  rw [check, if_pos hf]
  rfl

theorem each_check_failure_ne_none (hf : f ∈ files) (hout : ¬ f.path.isContained = true)
    (d : Disk) : ((each (check root) files : StateM Disk _).run d).1.failure ≠ none := by
  intro hnone
  obtain ⟨d₁, a, d₂, hok⟩ := step_ok_of_each hnone hf
  rw [check_run_of_not_isContained hout] at hok
  cases hok

theorem each_check_disk (root : Path) (files : List GeneratedFile) (d : Disk) :
    ((each (check root) files : StateM Disk _).run d).2 = d := by
  refine (each_preserves (R := Eq) (fun _ => rfl) (fun _ _ _ => Eq.trans) (fun f _ d => ?_) d).symm
  by_cases hf : f.path.isContained = true
  · rw [check_run hf]
  · rw [check_run_of_not_isContained hf]

/-! ## Whole runs -/

/-- What a check finds. -/
def found (d : Disk) (root : Path) (files : List GeneratedFile) : Progress Path :=
  ((checkFiles root files : StateM Disk _).run d).1

/-- What a dry run tells. -/
def told (d : Disk) (root : Path) (files : List GeneratedFile) : Progress FileResult :=
  ((writeFiles root files true : StateM Disk _).run d).1

/-- A check and a dry run have the same to say about some files. -/
structure SameFindings (d : Disk) (root : Path) (files : List GeneratedFile) : Prop where
  /-- A check leaves the disk as it is. -/
  found_disk : ((checkFiles root files : StateM Disk _).run d).2 = d
  /-- So does a dry run. -/
  told_disk : ((writeFiles root files true : StateM Disk _).run d).2 = d
  /-- If all paths are contained, the check gives those that the dry run does not call unchanged,
  in their order and as often as they are there, and fails as it fails. -/
  found_eq : (∀ f ∈ files, f.path.isContained = true) →
    found d root files =
      ⟨((told d root files).achieved.filter (·.status ≠ .unchanged)).map (·.path),
        (told d root files).failure⟩
  /-- Without a failure the dry run has a result for every file. -/
  told_paths : (∀ f ∈ files, f.path.isContained = true) → (told d root files).failure = none →
    (told d root files).achieved.map (·.path) = files.map (·.path)
  /-- A failure comes from the target of a file. -/
  told_failure : (∀ f ∈ files, f.path.isContained = true) →
    ∀ e, (told d root files).failure = some e →
      ∃ f ∈ files, ∃ error, e = .io (root.join f.path) error
  /-- If some path is not contained, both fail. -/
  of_not_contained : ∀ f ∈ files, ¬ f.path.isContained = true →
    (found d root files).failure ≠ none ∧ (told d root files).failure ≠ none
  /-- The check has nothing to find iff the dry run calls every file unchanged. -/
  nothing_found_iff : found d root files = ⟨[], none⟩ ↔
    told d root files = ⟨allUnchanged files, none⟩

theorem sameFindings_of_isContained (d : Disk) (root : Path)
    (hfiles : ∀ f ∈ files, f.path.isContained = true) : SameFindings d root files := by
  obtain ⟨results, failure, htold, hfound, hpaths, hfail⟩ := each_preview_check root hfiles d
  have hwrite : (writeFiles root files true : StateM Disk _).run d = (⟨results, failure⟩, d) := by
    rw [writeFiles_of_isContained hfiles]
    exact htold
  have hcheck : (checkFiles root files : StateM Disk _).run d =
      (⟨results.filterMap finding, failure⟩, d) := by
    have hsome : (results.map finding).filterMap id = results.filterMap finding := by
      rw [List.filterMap_map]
      rfl
    rw [checkFiles, StateT.run_bind, hfound, ← hsome]
    rfl
  have htold_eq : told d root files = ⟨results, failure⟩ := congrArg Prod.fst hwrite
  have hfound_eq : found d root files = ⟨results.filterMap finding, failure⟩ :=
    congrArg Prod.fst hcheck
  refine ⟨by rw [hcheck], by rw [hwrite], fun _ => ?_, fun _ => ?_, fun _ => ?_, ?_, ?_⟩
  · rw [hfound_eq, htold_eq, filterMap_finding]
  · rw [htold_eq]
    exact hpaths
  · rw [htold_eq]
    exact hfail
  · intro f hf hout
    exact absurd (hfiles f hf) hout
  · rw [hfound_eq, htold_eq, Progress.mk.injEq, Progress.mk.injEq]
    refine and_congr_left fun hnone => ?_
    exact filterMap_finding_eq_nil_iff (hpaths hnone)

theorem sameFindings_of_firstUnsafe (d : Disk) (root : Path) {p : Path}
    (hp : firstUnsafe files = some p) : SameFindings d root files := by
  obtain ⟨f, hf, hout⟩ : ∃ f ∈ files, ¬ f.path.isContained = true := by
    obtain ⟨f, hf, rfl⟩ := List.mem_map.1 (List.mem_of_find?_eq_some hp)
    have hout := List.find?_some hp
    exact ⟨f, hf, of_decide_eq_true hout⟩
  have hfound : (found d root files).failure ≠ none := each_check_failure_ne_none hf hout d
  have hwrite : (writeFiles root files true : StateM Disk _).run d =
      (⟨[], some (.unsafePath p)⟩, d) := by
    rw [writeFiles, hp]
    rfl
  have htold : (told d root files).failure ≠ none := by
    rw [told, hwrite]
    exact Option.some_ne_none _
  have hno : ¬ ∀ g ∈ files, g.path.isContained = true := fun hall => hout (hall f hf)
  refine ⟨each_check_disk root files d, by rw [hwrite], fun hall => absurd hall hno,
    fun hall => absurd hall hno, fun hall => absurd hall hno, fun _ _ _ => ⟨hfound, htold⟩, ?_⟩
  constructor
  · intro h
    exact absurd (congrArg Progress.failure h) hfound
  · intro h
    exact absurd (congrArg Progress.failure h) htold

theorem sameFindings (d : Disk) (root : Path) (files : List GeneratedFile) :
    SameFindings d root files := by
  cases hunsafe : firstUnsafe files with
  | none => exact sameFindings_of_isContained d root (firstUnsafe_eq_none_iff.1 hunsafe)
  | some p => exact sameFindings_of_firstUnsafe d root hunsafe

end Output

namespace CommandLine

open Output

/-! ## Reports -/

/-- The line on a file tells its status, and where it ends if the path is known. -/
theorem line_append_inj {r r' : FileResult} {x y : String} (hpath : r.path = r'.path)
    (h : r.status.text ++ ": " ++ r.path.text ++ "\n" ++ x =
      r'.status.text ++ ": " ++ r'.path.text ++ "\n" ++ y) : r = r' ∧ x = y := by
  simp only [String.append_assoc] at h
  obtain ⟨hstatus, hrest⟩ := FileStatus.text_append_inj h
  rw [hpath] at hrest
  simp only [String.append_right_inj] at hrest
  exact ⟨by rw [FileResult.mk.injEq]; exact ⟨hpath, hstatus⟩, hrest⟩

/-- Lines on the same paths tell all statuses. A path may hold line breaks, so that the lines are
compared from the first one on. -/
theorem unlines_inj {rs rs' : List FileResult} (hpaths : rs.map (·.path) = rs'.map (·.path))
    (h : unlines (rs.map fun r => r.status.text ++ ": " ++ r.path.text) =
      unlines (rs'.map fun r => r.status.text ++ ": " ++ r.path.text)) : rs = rs' := by
  induction rs generalizing rs' with
  | nil => exact (List.map_eq_nil_iff.1 hpaths.symm).symm
  | cons r rs ih =>
      cases rs' with
      | nil => cases hpaths
      | cons r' rs' =>
          rw [List.map_cons, List.map_cons, List.cons.injEq] at hpaths
          rw [List.map_cons, List.map_cons, unlines, unlines, List.map_cons, List.map_cons,
            String.join_cons, String.join_cons] at h
          obtain ⟨hr, hrest⟩ := line_append_inj hpaths.1 h
          rw [hr, ih hpaths.2 hrest]

/-- **What is printed about files** says what was done to each of them, whatever their paths. -/
theorem writtenText_inj {results results' : List FileResult}
    (hpaths : results.map (·.path) = results'.map (·.path))
    (h : writtenText results = writtenText results') : results = results' := by
  cases results with
  | nil => exact (List.map_eq_nil_iff.1 hpaths.symm).symm
  | cons r rs =>
      cases results' with
      | nil => cases hpaths
      | cons r' rs' => exact unlines_inj hpaths h

/-! ## Commands -/

variable {d : Disk} {root config : Path}

theorem load_disk (config : Path) (d : Disk) :
    ((Definition.load config : StateM Disk _).run d).2 = d := by
  rw [Definition.load]
  cases Format.ofPath? config with
  | none => rfl
  | some format =>
      have hread : (FileStore.read config : StateM Disk _).run d = (d.read config, d) := rfl
      rw [StateT.run_bind, hread]
      cases d.read config with
      | ok text => rfl
      | error e => rfl

/-- The files of the definition that is read, if they can be made. -/
def filesOf (config : Path) (d : Disk) : Option (List GeneratedFile) :=
  match ((Definition.load config : StateM Disk _).run d).1 with
  | .error _ => none
  | .ok definition => definition.synthesize.value.toOption

/-- Every command goes on with these files, or fails before it does anything. -/
theorem withFiles_cases (config : Path) (d : Disk) :
    (filesOf config d = none ∧ ∃ log e, ∀ next : List GeneratedFile → StateM Disk Report,
      (withFiles config next).run d = (⟨log, "", some e⟩, d)) ∨
    ∃ files log, filesOf config d = some files ∧
      ∀ next : List GeneratedFile → StateM Disk Report,
        (withFiles config next).run d =
          ({ ((next files).run d).1 with log := log ++ ((next files).run d).1.log },
            ((next files).run d).2) := by
  obtain ⟨r, hload⟩ : ∃ r, (Definition.load config : StateM Disk _).run d = (r, d) :=
    ⟨_, Prod.ext rfl (load_disk config d)⟩
  rw [filesOf, hload]
  cases r with
  | error e =>
      refine Or.inl ⟨rfl, [], e, fun next => ?_⟩
      rw [withFiles, StateT.run_bind, hload]
      rfl
  | ok definition =>
      cases hmade : definition.synthesize.value with
      | error errors =>
          refine Or.inl ⟨by simp only [hmade, Except.toOption],
            Definition.loaded config definition :: definition.synthesize.log,
            .compile errors, fun next => ?_⟩
          rw [withFiles, StateT.run_bind, hload]
          simp only [bind, hmade]
          rfl
      | ok files =>
          refine Or.inr ⟨files, Definition.loaded config definition :: definition.synthesize.log,
            by simp only [hmade, Except.toOption], fun next => ?_⟩
          rw [withFiles, StateT.run_bind, hload]
          simp only [bind, hmade]
          rfl

/-- A check and a dry run come to the same verdict on a definition. -/
structure SameVerdict (d : Disk) (config root : Path) : Prop where
  /-- A check leaves the disk as it is. -/
  checked_disk : (((Command.check config root).run : StateM Disk Report).run d).2 = d
  /-- So does a dry run. -/
  compiled_disk : (((Command.compile config root true).run : StateM Disk Report).run d).2 = d
  /-- The check succeeds iff there are files, and the dry run succeeds and reports all of them as
  unchanged. -/
  succeeds_iff :
    (((Command.check config root).run : StateM Disk Report).run d).1.failure = none ↔
      ∃ files, filesOf config d = some files ∧
        (((Command.compile config root true).run : StateM Disk Report).run d).1.failure = none ∧
        (((Command.compile config root true).run : StateM Disk Report).run d).1.output =
          writtenText (allUnchanged files)

theorem checkReport_failure_eq_none_iff {count : Nat} {p : Progress Path} :
    (checkReport count p).failure = none ↔ p = ⟨[], none⟩ := by
  rcases p with ⟨achieved, failure⟩
  cases failure with
  | some e => simp [checkReport]
  | none => cases achieved <;> simp [checkReport]

theorem compileReport_of_failure {p : Progress FileResult} {e : Failure}
    (h : p.failure = some e) (dryRun : Bool) : (compileReport dryRun p).failure = some e := by
  simp only [compileReport, h]

theorem compileReport_of_success {p : Progress FileResult} (h : p.failure = none)
    (dryRun : Bool) : (compileReport dryRun p).failure = none ∧
      (compileReport dryRun p).output = writtenText p.achieved := by
  simp only [compileReport, h, and_self]

/-- **The dry run of some files** reports all of them as unchanged iff it calls them so. -/
theorem compileReport_allUnchanged_iff (d : Disk) (root : Path) (files : List GeneratedFile) :
    (compileReport true (told d root files)).failure = none ∧
        (compileReport true (told d root files)).output = writtenText (allUnchanged files) ↔
      told d root files = ⟨allUnchanged files, none⟩ := by
  constructor
  · rintro ⟨hfailure, houtput⟩
    cases hnone : (told d root files).failure with
    | some e =>
        rw [compileReport_of_failure hnone] at hfailure
        cases hfailure
    | none =>
        have hsame := sameFindings d root files
        have hcontained : ∀ f ∈ files, f.path.isContained = true := by
          intro f hf
          by_cases hin : f.path.isContained = true
          · exact hin
          · exact absurd hnone (hsame.of_not_contained f hf hin).2
        have hpaths : (told d root files).achieved.map (·.path) =
            (allUnchanged files).map (·.path) := by
          rw [hsame.told_paths hcontained hnone, allUnchanged, List.map_map]
          rfl
        rw [(compileReport_of_success hnone true).2] at houtput
        have hachieved := writtenText_inj hpaths houtput
        rw [← hachieved, ← hnone]
  · intro h
    rw [h]
    exact ⟨rfl, rfl⟩

theorem sameVerdict (d : Disk) (config root : Path) : SameVerdict d config root := by
  have hsame := sameFindings d root
  rcases withFiles_cases config d with ⟨hnone, log, e, hrun⟩ | ⟨files, log, hfiles, hrun⟩
  · have hcheck : ((Command.check config root).run : StateM Disk Report).run d =
        (⟨log, "", some e⟩, d) := hrun _
    have hcompile : ((Command.compile config root true).run : StateM Disk Report).run d =
        (⟨log, "", some e⟩, d) := hrun _
    refine ⟨by rw [hcheck], by rw [hcompile], ?_⟩
    rw [hcheck, hnone]
    simp
  · have hcheck : ((Command.check config root).run : StateM Disk Report).run d =
        ({ checkReport files.length (found d root files) with
            log := log ++ (checkReport files.length (found d root files)).log },
          ((checkFiles root files : StateM Disk _).run d).2) := hrun _
    have hcompile : ((Command.compile config root true).run : StateM Disk Report).run d =
        ({ compileReport true (told d root files) with
            log := log ++ (compileReport true (told d root files)).log },
          ((writeFiles root files true : StateM Disk _).run d).2) := hrun _
    refine ⟨?_, ?_, ?_⟩
    · rw [hcheck]
      exact (hsame files).found_disk
    · rw [hcompile]
      exact (hsame files).told_disk
    · rw [hcheck, hcompile, hfiles]
      calc (checkReport files.length (found d root files)).failure = none
          ↔ found d root files = ⟨[], none⟩ := checkReport_failure_eq_none_iff
        _ ↔ told d root files = ⟨allUnchanged files, none⟩ := (hsame files).nothing_found_iff
        _ ↔ _ := (compileReport_allUnchanged_iff d root files).symm
        _ ↔ _ := by simp only [Option.some.injEq, exists_eq_left']

/-- **A check agrees with a dry run**, on any files and on any definition. -/
theorem check_agrees_with_dryRun (d : Disk) (root : Path) :
    (∀ files, SameFindings d root files) ∧ ∀ config, SameVerdict d config root :=
  ⟨sameFindings d root, fun config => sameVerdict d config root⟩

/-- A disk with two files, one in a directory. -/
def halfUpToDate : Disk :=
  ⟨[("out", .directory [("same.yml", .file (.text "S")),
    ("d", .directory [("e.yml", .file (.text "old"))])])]⟩

/-- A file that is as it should be there, one that differs, under two paths, and one that is
missing. -/
def mixedFiles : List GeneratedFile :=
  [⟨⟨"d/e.yml"⟩, "E"⟩, ⟨⟨"same.yml"⟩, "S"⟩, ⟨⟨"new.yml"⟩, "N"⟩, ⟨⟨"d/./e.yml"⟩, "E"⟩]

/-- A path that leads out behind a file that cannot be read. -/
def unreadableThenOut : List GeneratedFile := [⟨⟨"same.yml/x"⟩, "X"⟩, ⟨⟨"../y"⟩, "Y"⟩]

theorem mixedFiles_found :
    told halfUpToDate ⟨"out"⟩ mixedFiles =
      ⟨[⟨⟨"d/e.yml"⟩, .wouldUpdate⟩, ⟨⟨"same.yml"⟩, .unchanged⟩, ⟨⟨"new.yml"⟩, .wouldCreate⟩,
        ⟨⟨"d/./e.yml"⟩, .wouldUpdate⟩], none⟩ ∧
    found halfUpToDate ⟨"out"⟩ mixedFiles =
      ⟨[⟨"d/e.yml"⟩, ⟨"new.yml"⟩, ⟨"d/./e.yml"⟩], none⟩ ∧
    (found halfUpToDate ⟨"out"⟩ unreadableThenOut).failure ≠ none ∧
    (told halfUpToDate ⟨"out"⟩ unreadableThenOut).failure ≠ none := by
  have hsame := (check_agrees_with_dryRun halfUpToDate ⟨"out"⟩).1
  have htold : told halfUpToDate ⟨"out"⟩ mixedFiles =
      ⟨[⟨⟨"d/e.yml"⟩, .wouldUpdate⟩, ⟨⟨"same.yml"⟩, .unchanged⟩, ⟨⟨"new.yml"⟩, .wouldCreate⟩,
        ⟨⟨"d/./e.yml"⟩, .wouldUpdate⟩], none⟩ := by decide +kernel
  have hfound := (hsame mixedFiles).found_eq (by decide +kernel)
  rw [htold] at hfound
  refine ⟨htold, hfound, ?_⟩
  exact (hsame unreadableThenOut).of_not_contained ⟨⟨"../y"⟩, "Y"⟩
    (List.mem_cons_of_mem _ List.mem_cons_self) (by decide +kernel)

end CommandLine

end CiPipeline

import CiPipeline.Output
import CiPipeline.Proofs.Lists
import CiPipeline.Proofs.Storing

set_option autoImplicit false

/-! # Writing and checking below a root

Generated files are written one by one. Writing a file gives it its content and leaves every
other readable file as it was, so after a run each file has the content that the last entry
for its path gives it (`read_of_each_write`), and a check finds the others.
-/

namespace CiPipeline.Output

open Disk

/-! ## Runs on a disk -/

section Runs

variable {α : Type} {d d' : Disk}

theorem onPath_run (p : Path) (x : StateM Disk (Except Storage.Error α)) (d : Disk) :
    (onPath p x).run.run d = ((x.run d).1.mapError (.io p), (x.run d).2) := rfl

/-- A run without a failure is known by what it achieved and by the disk that it left. -/
theorem run_eq_of_failure {x : StateM Disk (Progress α)} (h : (x.run d).1.failure = none) :
    x.run d = (⟨(x.run d).1.achieved, none⟩, (x.run d).2) :=
  Prod.ext (congrArg (Progress.mk _) h) rfl

/-- A run takes the first step, and the others from where that leaves the disk. -/
theorem each_cons_run (step : GeneratedFile → ExceptT Failure (StateM Disk) α)
    (f : GeneratedFile) (fs : List GeneratedFile) (d : Disk) :
    (each step (f :: fs)).run d =
      match (step f).run.run d with
      | (.error e, d₁) => (⟨[], some e⟩, d₁)
      | (.ok a, d₁) =>
          (⟨a :: ((each step fs).run d₁).1.achieved, ((each step fs).run d₁).1.failure⟩,
            ((each step fs).run d₁).2) := by
  rw [each, StateT.run_bind]
  cases (step f).run.run d with
  | mk r d₁ =>
      cases r with
      | error e => rfl
      | ok a => rfl

theorem each_cons_ok {step : GeneratedFile → ExceptT Failure (StateM Disk) α}
    {f : GeneratedFile} {fs : List GeneratedFile} {results : List α}
    (h : (each step (f :: fs)).run d = (⟨results, none⟩, d')) :
    ∃ a d₁ rest, (step f).run.run d = (.ok a, d₁) ∧
      (each step fs).run d₁ = (⟨rest, none⟩, d') ∧ results = a :: rest := by
  rw [each_cons_run] at h
  split at h
  · cases h
  · rename_i a d₁ hf
    rcases hfs : (each step fs).run d₁ with ⟨⟨achieved, failure⟩, d₂⟩
    rw [hfs] at h
    cases h
    exact ⟨a, d₁, achieved, hf, hfs, rfl⟩

/-- In a run without a failure every step succeeds. -/
theorem step_ok_of_each {step : GeneratedFile → ExceptT Failure (StateM Disk) α}
    {fs : List GeneratedFile} (h : ((each step fs).run d).1.failure = none) {f : GeneratedFile}
    (hf : f ∈ fs) : ∃ d₁ a d₂, (step f).run.run d₁ = (.ok a, d₂) := by
  induction fs generalizing d with
  | nil => cases hf
  | cons g fs ih =>
      obtain ⟨a, d₁, rest, hg, hrest, -⟩ := each_cons_ok (run_eq_of_failure h)
      rcases List.mem_cons.1 hf with rfl | hmem
      · exact ⟨d, a, d₁, hg⟩
      · exact ih (congrArg (·.1.failure) hrest) hmem

/-- What every step does to the disk a run does, if it can be done again and again. -/
theorem each_preserves {R : Disk → Disk → Prop} (hrefl : ∀ d, R d d)
    (htrans : ∀ d₁ d₂ d₃, R d₁ d₂ → R d₂ d₃ → R d₁ d₃)
    {step : GeneratedFile → ExceptT Failure (StateM Disk) α} {fs : List GeneratedFile}
    (hstep : ∀ f ∈ fs, ∀ d, R d ((step f).run.run d).2) (d : Disk) :
    R d ((each step fs).run d).2 := by
  induction fs generalizing d with
  | nil => exact hrefl d
  | cons f fs ih =>
      have hf := hstep f List.mem_cons_self d
      have ih := ih fun g hg => hstep g (List.mem_cons_of_mem f hg)
      rw [each_cons_run]
      rcases hrun : (step f).run.run d with ⟨r, d₁⟩
      rw [hrun] at hf
      cases r with
      | error e => exact hf
      | ok a => exact htrans _ _ _ hf (ih d₁)

/-- **Where a run fails**: at the file behind those that were achieved, in the state that a run
on these leaves. -/
theorem each_of_failure {step : GeneratedFile → ExceptT Failure (StateM Disk) α}
    {fs : List GeneratedFile} {results : List α} {e : Failure}
    (h : (each step fs).run d = (⟨results, some e⟩, d')) :
    ∃ f d₁, fs[results.length]? = some f ∧
      (each step (fs.take results.length)).run d = (⟨results, none⟩, d₁) ∧
      (step f).run.run d₁ = (.error e, d') := by
  induction fs generalizing d results with
  | nil => cases h
  | cons f fs ih =>
      rw [each_cons_run] at h
      rcases hf : (step f).run.run d with ⟨r, d₁⟩
      rw [hf] at h
      cases r with
      | error e =>
          cases h
          exact ⟨f, d, rfl, rfl, hf⟩
      | ok a =>
          rcases hrest : (each step fs).run d₁ with ⟨⟨achieved, failure⟩, d₂⟩
          simp only [hrest] at h
          cases h
          obtain ⟨g, d₃, hg, hbefore, hfail⟩ := ih hrest
          refine ⟨g, d₃, hg, ?_, hfail⟩
          rw [List.length_cons, List.take_succ_cons, each_cons_run, hf]
          simp only [hbefore]

/-- Steps that leave the disk alone are all taken from the same one. -/
theorem each_of_forall_ok {step : GeneratedFile → ExceptT Failure (StateM Disk) α}
    {result : GeneratedFile → α} {fs : List GeneratedFile}
    (h : ∀ f ∈ fs, (step f).run.run d = (.ok (result f), d)) :
    (each step fs).run d = (⟨fs.map result, none⟩, d) := by
  induction fs with
  | nil => rfl
  | cons f fs ih =>
      rw [each_cons_run, h f List.mem_cons_self]
      have ih := ih fun g hg => h g (List.mem_cons_of_mem f hg)
      simp only [ih, List.map_cons]

end Runs

/-! ## Single files -/

variable {d d' : Disk} {root p : Path} {f : GeneratedFile} {text : String}

/-- What there is to do for a file on a disk. -/
def dueOn (root : Path) (f : GeneratedFile) (d : Disk) : Except Failure FileStatus :=
  match d.read (root.join f.path) with
  | .ok text => .ok (FileStatus.due f.content (some text))
  | .error .notFound => .ok (FileStatus.due f.content none)
  | .error e => .error (.io (root.join f.path) e)

theorem due_run (root : Path) (f : GeneratedFile) (d : Disk) :
    (due root f : ExceptT Failure (StateM Disk) _).run.run d = (dueOn root f d, d) := by
  have hcurrent : (current (root.join f.path) : ExceptT Failure (StateM Disk) _).run.run d =
      (match d.read (root.join f.path) with
        | .ok text => .ok (some text)
        | .error .notFound => .ok none
        | .error e => .error (.io (root.join f.path) e), d) := by
    show ((match d.read (root.join f.path) with
      | .ok text => pure (.ok (some text))
      | .error .notFound => pure (.ok none)
      | .error e => pure (.error (.io (root.join f.path) e)) :
        StateM Disk (Except Failure (Option String))).run d) = _
    split <;> rfl
  rw [due, ExceptT.run_bind, StateT.run_bind, hcurrent, dueOn]
  cases d.read (root.join f.path) with
  | ok text => rfl
  | error e => cases e <;> rfl

/-- Writing at a path fails and blames it, or it is a write on the disk. -/
theorem onPath_write_cases (p : Path) (text : String) (d : Disk) :
    (∃ e, (onPath p (FileStore.write p text) : ExceptT Failure (StateM Disk) _).run.run d =
      (.error (.io p e), d)) ∨
    ∃ d', d.write p (.text text) = (.ok (), d') ∧
      (onPath p (FileStore.write p text) : ExceptT Failure (StateM Disk) _).run.run d =
        (.ok (), d') := by
  have hrun : (onPath p (FileStore.write p text) : ExceptT Failure (StateM Disk) Unit).run.run d =
      ((d.write p (.text text)).1.mapError (.io p), (d.write p (.text text)).2) := rfl
  rw [hrun]
  rcases hwrite : d.write p (.text text) with ⟨r, d'⟩
  cases r with
  | error e =>
      rw [write_eq_error hwrite]
      exact Or.inl ⟨e, rfl⟩
  | ok a => exact Or.inr ⟨d', rfl, rfl⟩

/-- **Placing a file** makes directories above it, whatever comes of that. Then it fails, and
blames the path of the file or its parent, or it writes the file. -/
theorem place_cases (p : Path) (text : String) (d : Disk) :
    ∃ d₁ : Disk, d.GrowsAt d₁ (Before p) ∧
      ((∃ blamed e, (blamed = p ∨ p.parent? = some blamed) ∧
          (place p text : ExceptT Failure (StateM Disk) _).run.run d =
            (.error (.io blamed e), d₁)) ∨
        ∃ d', d₁.write p (.text text) = (.ok (), d') ∧
          (place p text : ExceptT Failure (StateM Disk) _).run.run d = (.ok (), d')) := by
  rw [place]
  cases habove : p.parent? with
  | none =>
      refine ⟨d, .refl d _, ?_⟩
      rcases onPath_write_cases p text d with ⟨e, hrun⟩ | hrun
      · exact Or.inl ⟨p, e, Or.inl rfl, hrun⟩
      · exact Or.inr hrun
  | some above =>
      have hgrows := onlyMakes_ensureDirectories habove d
      simp only [ExceptT.run_bind, StateT.run_bind, onPath_run]
      rcases hdirs : (FileStore.ensureDirectories above : StateM Disk _).run d with ⟨r, d₁⟩
      rw [hdirs] at hgrows
      refine ⟨d₁, hgrows, ?_⟩
      cases r with
      | error e => exact Or.inl ⟨above, e, Or.inr rfl, rfl⟩
      | ok a =>
          -- once the directories are there, all depends on the write
          rcases onPath_write_cases p text d₁ with ⟨e, hrun⟩ | hrun
          · exact Or.inl ⟨p, e, Or.inl rfl, hrun⟩
          · exact Or.inr hrun

theorem place_ok (h : (place p text : ExceptT Failure (StateM Disk) _).run.run d = (.ok (), d')) :
    ∃ d₁ : Disk, d.Grows d₁ ∧ d₁.write p (.text text) = (.ok (), d') := by
  obtain ⟨d₁, hgrows, ⟨blamed, e, -, hrun⟩ | ⟨d₂, hwrite, hrun⟩⟩ := place_cases p text d
  · rw [hrun] at h
    cases h
  · rw [hrun] at h
    cases h
    exact ⟨d₁, hgrows.grows, hwrite⟩

theorem due_eq_unchanged_iff {content : String} {there : Option String} :
    FileStatus.due content there = .unchanged ↔ there = some content := by
  cases there with
  | none => simp [FileStatus.due]
  | some text =>
      rw [FileStatus.due, Option.some.injEq]
      split
      · rename_i h
        exact ⟨fun _ => h, fun _ => rfl⟩
      · rename_i h
        exact ⟨nofun, fun h' => absurd h' h⟩

theorem dueOn_eq_unchanged_iff :
    dueOn root f d = .ok .unchanged ↔ d.read (root.join f.path) = .ok f.content := by
  rw [dueOn]
  split
  · rename_i text hread
    rw [Except.ok.injEq, due_eq_unchanged_iff, Option.some.injEq, hread, Except.ok.injEq]
  · rename_i hread
    rw [Except.ok.injEq, due_eq_unchanged_iff, hread]
    simp
  · rename_i e _ hread
    rw [hread]
    simp

theorem dueOn_error {e : Failure} (h : dueOn root f d = .error e) :
    ∃ error, e = .io (root.join f.path) error := by
  rw [dueOn] at h
  split at h
  · cases h
  · cases h
  · cases h
    exact ⟨_, rfl⟩

theorem dueOn_of_error {e : Storage.Error} (hne : e ≠ .notFound)
    (h : d.read (root.join f.path) = .error e) :
    dueOn root f d = .error (.io (root.join f.path) e) := by
  rw [dueOn, h]
  cases e with
  | notFound => exact absurd rfl hne
  | _ => rfl

theorem dueOn_congr (h : d'.read (root.join f.path) = d.read (root.join f.path)) :
    dueOn root f d' = dueOn root f d := by
  rw [dueOn, dueOn, h]

/-- A preview looks at what is due, and leaves the disk alone. -/
theorem preview_run (root : Path) (f : GeneratedFile) (d : Disk) :
    (preview root f : ExceptT Failure (StateM Disk) _).run.run d =
      ((dueOn root f d).map fun status => ⟨f.path, status.foreseen⟩, d) := by
  rw [preview, ExceptT.run_bind, StateT.run_bind, due_run]
  cases dueOn root f d <;> rfl

/-- A step looks at what is due, and writes the file unless it is there already. -/
theorem write_run (root : Path) (f : GeneratedFile) (d : Disk) :
    (write root f : ExceptT Failure (StateM Disk) _).run.run d =
      match dueOn root f d with
      | .error e => (.error e, d)
      | .ok status =>
          if status = .unchanged then (.ok ⟨f.path, status⟩, d)
          else
            match (place (root.join f.path) f.content :
                ExceptT Failure (StateM Disk) _).run.run d with
            | (.error e, d₁) => (.error e, d₁)
            | (.ok (), d₁) => (.ok ⟨f.path, status⟩, d₁) := by
  rw [write, ExceptT.run_bind, StateT.run_bind, due_run]
  cases dueOn root f d with
  | error e => rfl
  | ok status =>
      by_cases hun : status = .unchanged
      · rw [hun]
        rfl
      · show ((if status ≠ .unchanged then place (root.join f.path) f.content >>= fun _ => _
          else _ : ExceptT Failure (StateM Disk) FileResult).run.run d) = _
        simp only [if_pos hun, if_neg hun]
        rw [ExceptT.run_bind, StateT.run_bind]
        cases (place (root.join f.path) f.content : ExceptT Failure (StateM Disk) _).run.run d with
        | mk r d₁ =>
            cases r <;> rfl

/-- What a successful step comes to: the file is there already, or it is written once some
directories are made. -/
theorem write_ok {r : FileResult}
    (h : (write root f : ExceptT Failure (StateM Disk) _).run.run d = (.ok r, d')) :
    d.read (root.join f.path) = .ok f.content ∧ d' = d ∨
      ∃ d₁ : Disk, d.Grows d₁ ∧ d₁.write (root.join f.path) (.text f.content) = (.ok (), d') := by
  rw [write_run] at h
  split at h
  · cases h
  · rename_i status hdue
    split at h
    · rename_i hun
      subst hun
      cases h
      exact Or.inl ⟨dueOn_eq_unchanged_iff.1 hdue, rfl⟩
    · split at h
      · cases h
      · rename_i hplace
        cases h
        exact Or.inr (place_ok hplace)

theorem read_of_write_self {r : FileResult}
    (h : (write root f : ExceptT Failure (StateM Disk) _).run.run d = (.ok r, d')) :
    d'.read (root.join f.path) = .ok f.content := by
  rcases write_ok h with ⟨hread, rfl⟩ | ⟨d₁, -, hwrite⟩
  · exact hread
  · exact Disk.read_of_write hwrite

/-- **What a step does to a readable file**: it has the new content if its names are those of
the path that is written, and otherwise the content that it had. -/
theorem read_of_write_other {r : FileResult} {ns ms : List String} (hf : f.path.IsPlain ns)
    (hp : p.IsPlain ms)
    (h : (write root f : ExceptT Failure (StateM Disk) _).run.run d = (.ok r, d'))
    (hr : d.read (root.join p) = .ok text) :
    d'.read (root.join p) =
      .ok (if f.path.components = p.components then f.content else text) := by
  rcases write_ok h with ⟨hread, rfl⟩ | ⟨d₁, hgrows, hwrite⟩
  · -- nothing is written, but the path may be another text for the same place
    split
    · rename_i heq
      obtain ⟨a, ha, hcontent⟩ := read_eq_ok_iff.1 hread
      obtain ⟨b, hb, -⟩ := read_eq_ok_iff.1 hr
      have hab : a = b := (place_eq_iff hf hp ha hb).2 heq
      exact read_eq_ok_iff.2 ⟨b, hb, hab ▸ hcontent⟩
    · exact hr
  · exact read_of_write_of_isPlain hf hp hwrite (hgrows.read hr)

/-- A check gives the path of a file unless it is there already. -/
theorem check_run (hf : f.path.isContained = true) (d : Disk) :
    (check root f : ExceptT Failure (StateM Disk) _).run.run d =
      ((dueOn root f d).map fun status => if status = .unchanged then none else some f.path,
        d) := by
  rw [check, if_neg (not_not_intro hf), ExceptT.run_bind, StateT.run_bind, due_run]
  cases dueOn root f d <;> rfl

theorem check_of_read (hf : f.path.isContained = true)
    (hr : d.read (root.join f.path) = .ok text) :
    (check root f : ExceptT Failure (StateM Disk) _).run.run d =
      (.ok (if text = f.content then none else some f.path), d) := by
  rw [check_run hf, dueOn, hr]
  simp only [Except.map, due_eq_unchanged_iff, Option.some.injEq]

/-! ## Runs of writes -/

/-- The content that the last of the files with the names of a path gives to it, or `text` if
there is none. -/
def latest (fs : List GeneratedFile) (p : Path) (text : String) : String :=
  ((fs.filter fun f => f.path.components = p.components).getLast?.map (·.content)).getD text

variable {fs : List GeneratedFile}

theorem latest_cons (f : GeneratedFile) (fs : List GeneratedFile) (p : Path) (text : String) :
    latest (f :: fs) p text =
      latest fs p (if f.path.components = p.components then f.content else text) := by
  rw [latest, latest, List.filter_cons]
  simp only [decide_eq_true_eq]
  split
  · rw [List.getLast?_cons]
    cases (fs.filter fun f => f.path.components = p.components).getLast? <;> rfl
  · rfl

/-- If a file goes to the path, one of the files decides its content and nothing else. -/
theorem exists_latest (hf : f ∈ fs) :
    ∃ g ∈ fs, g.path.components = f.path.components ∧
      ∀ text, latest fs f.path text = g.content := by
  have hmem : f ∈ fs.filter fun g => g.path.components = f.path.components :=
    List.mem_filter.2 ⟨hf, decide_eq_true rfl⟩
  obtain ⟨g, hg⟩ := Option.isSome_iff_exists.1
    (List.getLast?_isSome.2 (List.ne_nil_of_mem hmem))
  obtain ⟨hgfs, hgpath⟩ := List.mem_filter.1 (List.mem_of_getLast? hg)
  refine ⟨g, hgfs, of_decide_eq_true hgpath, fun text => ?_⟩
  rw [latest, hg]
  rfl

theorem latest_of_mem (hf : f ∈ fs) (text other : String) :
    latest fs f.path text = latest fs f.path other := by
  obtain ⟨g, -, -, hg⟩ := exists_latest hf
  rw [hg, hg]

theorem latest_congr {q : Path} (h : p.components = q.components) (text : String) :
    latest fs p text = latest fs q text := by
  rw [latest, latest, h]

/-- Every entry has the content that comes last for its path iff entries with the same path
have the same content. -/
theorem latest_eq_content_iff :
    (∀ f ∈ fs, latest fs f.path f.content = f.content) ↔
      ∀ f ∈ fs, ∀ g ∈ fs, f.path.components = g.path.components → f.content = g.content := by
  constructor
  · intro h f hf g hg heq
    rw [← h f hf, ← h g hg, latest_congr heq, latest_of_mem hg]
  · intro h f hf
    obtain ⟨g, hg, heq, hlatest⟩ := exists_latest hf
    rw [hlatest, h g hg f hf heq]

theorem read_of_each_write {results : List FileResult} {ms : List String}
    (hfs : ∀ f ∈ fs, ∃ ns, f.path.IsPlain ns) (hp : p.IsPlain ms)
    (h : (each (write root) fs : StateM Disk _).run d = (⟨results, none⟩, d'))
    (hr : d.read (root.join p) = .ok text) :
    d'.read (root.join p) = .ok (latest fs p text) := by
  -- the text at the path changes from step to step, as `latest_cons` says
  induction fs generalizing d results text with
  | nil =>
      cases h
      exact hr
  | cons f fs ih =>
      obtain ⟨r, d₁, rest, hf, hrest, -⟩ := each_cons_ok h
      obtain ⟨ns, hns⟩ := hfs f List.mem_cons_self
      have hr₁ := read_of_write_other hns hp hf hr
      rw [latest_cons]
      exact ih (fun g hg => hfs g (List.mem_cons_of_mem f hg)) hrest hr₁

/-- **After a successful run** each file has the content of the last entry with its names. -/
theorem read_of_each_write_of_mem {results : List FileResult}
    (hfs : ∀ f ∈ fs, ∃ ns, f.path.IsPlain ns)
    (h : (each (write root) fs : StateM Disk _).run d = (⟨results, none⟩, d')) (hf : f ∈ fs) :
    d'.read (root.join f.path) = .ok (latest fs f.path f.content) := by
  induction fs generalizing d results with
  | nil => cases hf
  | cons g fs ih =>
      obtain ⟨r, d₁, rest, hg, hrest, -⟩ := each_cons_ok h
      have hplain := fun k hk => hfs k (List.mem_cons_of_mem g hk)
      rw [latest_cons]
      rcases List.mem_cons.1 hf with rfl | hmem
      · -- from the first step on the file can be read
        obtain ⟨ns, hns⟩ := hfs f List.mem_cons_self
        rw [if_pos rfl]
        exact read_of_each_write hplain hns hrest (read_of_write_self hg)
      · rw [latest_of_mem hmem _ f.content]
        exact ih hplain hrest hmem

/-! ## Whole commands -/

theorem firstUnsafe_eq_none_iff :
    firstUnsafe fs = none ↔ ∀ f ∈ fs, f.path.isContained = true := by
  simp [firstUnsafe]

/-- Files whose paths are contained get their turn one after the other. -/
theorem writeFiles_of_isContained {m : Type → Type} [Monad m] [FileStore m]
    (hfs : ∀ f ∈ fs, f.path.isContained = true) (root : Path) (dryRun : Bool) :
    (writeFiles root fs dryRun : m _) =
      each (if dryRun then preview root else write root) fs := by
  rw [writeFiles, firstUnsafe_eq_none_iff.2 hfs]

/-- Paths made of names are contained. -/
theorem writeFiles_eq_each (hfs : ∀ f ∈ fs, ∃ ns, f.path.IsPlain ns) (dryRun : Bool) :
    (writeFiles root fs dryRun : StateM Disk _) =
      each (if dryRun then preview root else write root) fs := by
  refine writeFiles_of_isContained (fun f hf => ?_) root dryRun
  obtain ⟨ns, hns⟩ := hfs f hf
  exact hns.isContained

theorem each_of_writeFiles {results : List FileResult}
    (h : (writeFiles root fs false : StateM Disk _).run d = (⟨results, none⟩, d')) :
    (each (write root) fs : StateM Disk _).run d = (⟨results, none⟩, d') := by
  rw [writeFiles] at h
  split at h
  · cases h
  · exact h

/-- **A check after a successful run** finds the entries whose content is not the one that the
last entry with the same names has, and leaves the disk alone. -/
theorem checkFiles_of_writeFiles {results : List FileResult}
    (hfs : ∀ f ∈ fs, ∃ ns, f.path.IsPlain ns)
    (h : (writeFiles root fs false : StateM Disk _).run d = (⟨results, none⟩, d')) :
    (checkFiles root fs : StateM Disk _).run d' =
      (⟨(fs.filter fun f => latest fs f.path f.content ≠ f.content).map (·.path), none⟩, d') := by
  have hcheck : ∀ f ∈ fs, (check root f : ExceptT Failure (StateM Disk) _).run.run d' =
      (.ok (if latest fs f.path f.content = f.content then none else some f.path), d') := by
    intro f hf
    obtain ⟨ns, hns⟩ := hfs f hf
    exact check_of_read hns.isContained (read_of_each_write_of_mem hfs (each_of_writeFiles h) hf)
  rw [checkFiles, StateT.run_bind, each_of_forall_ok hcheck]
  show ((⟨(fs.map fun f => if latest fs f.path f.content = f.content then none
    else some f.path).filterMap id, none⟩, d') : Progress Path × Disk) = _
  rw [List.filterMap_map, ← filterMap_if]
  simp only [Function.comp_def, id, decide_eq_true_eq, ne_eq, ite_not]

/-- **When nothing is stale**: a check after a successful run finds nothing iff entries with
the same path have the same content. -/
theorem checkFiles_eq_nil_iff {results : List FileResult}
    (hfs : ∀ f ∈ fs, ∃ ns, f.path.IsPlain ns)
    (h : (writeFiles root fs false : StateM Disk _).run d = (⟨results, none⟩, d')) :
    (checkFiles root fs : StateM Disk _).run d' = (⟨[], none⟩, d') ↔
      ∀ f ∈ fs, ∀ g ∈ fs, f.path.components = g.path.components → f.content = g.content := by
  rw [checkFiles_of_writeFiles hfs h, ← latest_eq_content_iff, Prod.mk.injEq, Progress.mk.injEq,
    List.map_eq_nil_iff, List.filter_eq_nil_iff]
  simp only [and_true, decide_eq_true_eq, ne_eq, Decidable.not_not]

end CiPipeline.Output

import CiPipeline.Proofs.Placing
import CiPipeline.Proofs.Roots
import CiPipeline.Proofs.Writing

set_option autoImplicit false

/-! # What a dry run foresees

A dry run looks at every file on the disk as it is, while a run that writes looks at a file
when the earlier ones have been written. What these leave behind is not seen by reads of other
places, unless one is above the other. So a dry run foresees what is done to files at such
places, and the failure that ends the run if there is one (`dryRun_predicts`).
-/

namespace CiPipeline

/-! ## What is told and what is done -/

/-- What is told of a file, and what is done to it then. -/
inductive FileStatus.Foretells : FileStatus → FileStatus → Prop where
  | create : Foretells .wouldCreate .created
  | update : Foretells .wouldUpdate .updated
  | keep : Foretells .unchanged .unchanged

/-- One run tells what the other does: to the same files up to the same failure, if there is
one. -/
structure Progress.Foretells (told done : Progress FileResult) : Prop where
  achieved : List.Forall₂ (fun a b => a.path = b.path ∧ a.status.Foretells b.status)
    told.achieved done.achieved
  failure_eq : told.failure = done.failure

/-- Neither path is the other one, or that of a directory above it. -/
def Path.Apart (p q : Path) : Prop :=
  ¬ p.components <+: q.components ∧ ¬ q.components <+: p.components

instance (p q : Path) : Decidable (p.Apart q) := inferInstanceAs (Decidable (_ ∧ _))

namespace Output

open Disk

variable {d d₁ : Disk} {root p q : Path} {f : GeneratedFile} {fs : List GeneratedFile}
  {status : FileStatus} {base after post : Place}

theorem foretells_of_dueOn (h : dueOn root f d = .ok status) :
    status.foreseen.Foretells status := by
  have hdue : ∀ there, (FileStatus.due f.content there).foreseen.Foretells
      (FileStatus.due f.content there) := by
    intro there
    cases there with
    | none => exact .create
    | some text =>
        rw [FileStatus.due]
        split
        · exact .keep
        · exact .update
  rw [dueOn] at h
  split at h
  · exact Except.ok.inj h ▸ hdue _
  · exact Except.ok.inj h ▸ hdue _
  · cases h

/-! ## Steps -/

/-- **Placing a file** succeeds where one can be put, whatever directories are missing. -/
theorem place_below {init : Place} {x : String} (h : d.Below p base (init ++ [x]))
    (hfree : ¬ d.Blocked (base ++ init))
    (hplace : d.kindAt? (base ++ init ++ [x]) ≠ some .directory) (text : String) :
    ∃ d', (place p text : ExceptT Failure (StateM Disk) _).run.run d = (.ok (), d') ∧
      d.Settled d' (base ++ init ++ [x]) := by
  obtain ⟨above, habove, hbelow, -⟩ := h.parent
  obtain ⟨d₁, hdirs, hfilled⟩ := hbelow.ensureFirst_climb hfree le_rfl
  have hdir : d₁.kindAt? (base ++ init) = some .directory := by
    rw [hfilled, if_pos List.prefix_rfl]
  have hplace₁ : d₁.kindAt? (base ++ init ++ [x]) ≠ some .directory := by
    rwa [hfilled, if_neg (not_concat_isPrefix (base ++ init) x)]
  have hwrite := (h.mono hfilled.keeps).write_eq hdir hplace₁ (.text text)
  refine ⟨_, ?_, settled_of_filled hfilled hfree hplace
    (kindAt?_put hdir (Node.isLeaf_file (.text text)) hplace₁)⟩
  have hmade : (onPath above (FileStore.ensureDirectories above) :
      ExceptT Failure (StateM Disk) Unit).run.run d = (.ok (), d₁) := by
    rw [onPath_run, FileStore.ensureDirectories, Path.ancestors, hdirs]
    rfl
  have hput : (onPath p (FileStore.write p text) :
      ExceptT Failure (StateM Disk) Unit).run.run d₁ =
        (.ok (), d₁.put (base ++ init ++ [x]) (.file (.text text))) := by
    rw [onPath_run]
    show ((d₁.write p (.text text)).1.mapError _, (d₁.write p (.text text)).2) = _
    rw [hwrite]
    rfl
  rw [place, habove]
  show ((onPath above (FileStore.ensureDirectories above) >>= fun _ => _ :
    ExceptT Failure (StateM Disk) Unit)).run.run d = _
  rw [ExceptT.run_bind, StateT.run_bind, hmade]
  exact hput

/-- **A step** does what is due, and settles the place of the file and no other. -/
theorem write_below (h : d.Below (root.join f.path) base post) (hpost : post ≠ [])
    (hdue : dueOn root f d = .ok status) :
    ∃ d', (write root f : ExceptT Failure (StateM Disk) _).run.run d =
        (.ok ⟨f.path, status⟩, d') ∧
      d.Settled d' (base ++ post) := by
  obtain ⟨init, x, rfl⟩ := (List.eq_nil_or_concat' post).resolve_left hpost
  rw [write_run, hdue]
  by_cases hun : status = .unchanged
  · exact ⟨d, if_pos hun, .refl d _⟩
  · have hread : (∃ text, d.read (root.join f.path) = .ok text) ∨
        d.read (root.join f.path) = .error .notFound := by
      rw [dueOn] at hdue
      split at hdue
      · rename_i text htext
        exact Or.inl ⟨text, htext⟩
      · rename_i hnone
        exact Or.inr hnone
      · cases hdue
    obtain ⟨hfree, hplace⟩ := h.free_of_read hread
    obtain ⟨d', hrun, hsettled⟩ := place_below h hfree hplace f.content
    rw [← List.append_assoc]
    refine ⟨d', ?_, hsettled⟩
    simp only [if_neg hun, hrun]

/-! ## Targets -/

/-- The path is made of names, which lead on from what the root says behind a directory, unless
they make a text that is the path of nothing. -/
def Aims (d : Disk) (root : Path) (base after : Place) (p : Path) : Prop :=
  ∃ ns, p.IsPlain ns ∧ (Fits (root.join p) → d.Below (root.join p) base (after ++ ns))

theorem Aims.mono (hk : d.Keeps d₁) (h : Aims d root base after p) :
    Aims d₁ root base after p := by
  obtain ⟨ns, hns, hbelow⟩ := h
  exact ⟨ns, hns, fun hfits => (hbelow hfits).mono hk⟩

/-- A step for a target that can be looked at. -/
theorem write_aims (h : Aims d root base after f.path) (hdue : dueOn root f d = .ok status) :
    ∃ ns d', f.path.IsPlain ns ∧
      (write root f : ExceptT Failure (StateM Disk) _).run.run d = (.ok ⟨f.path, status⟩, d') ∧
      d.Settled d' (base ++ (after ++ ns)) := by
  obtain ⟨ns, hns, hbelow⟩ := h
  have hfits : Fits (root.join f.path) := by
    by_contra hfits
    obtain ⟨e, hne, hread⟩ := read_of_not_fits hfits (join_text_ne_empty root hns)
    rw [dueOn_of_error hne (hread d)] at hdue
    cases hdue
  obtain ⟨d', hrun, hsettled⟩ := write_below (hbelow hfits) (by simp [hns.nonempty]) hdue
  exact ⟨ns, d', hns, hrun, hsettled⟩

/-- **The other targets** are read as before. -/
theorem Aims.read_eq {ns : List String} (h : Aims d root base after q) (hp : p.IsPlain ns)
    (hapart : p.Apart q) (hsettled : d.Settled d₁ (base ++ (after ++ ns))) :
    d₁.read (root.join q) = d.read (root.join q) := by
  obtain ⟨ms, hms, hbelow⟩ := h
  rw [Path.Apart, hp.components_eq, hms.components_eq] at hapart
  by_cases hfits : Fits (root.join q)
  · have hdown : ¬ base ++ (after ++ ns) <+: base ++ (after ++ ms) := by
      rw [List.prefix_append_right_inj, List.prefix_append_right_inj]
      exact fun hle => hapart.1 (hle.map _)
    have hup : ¬ base ++ (after ++ ms) <+: base ++ (after ++ ns) := by
      rw [List.prefix_append_right_inj, List.prefix_append_right_inj]
      exact fun hle => hapart.2 (hle.map _)
    exact hsettled.read_eq (hbelow hfits) (by simp [hms.nonempty]) hdown hup
  · obtain ⟨e, -, hread⟩ := read_of_not_fits hfits (join_text_ne_empty root hms)
    rw [hread, hread]

/-! ## Runs -/

/-- Both runs end where the next file cannot be looked at. -/
theorem foretold_of_error {e : Failure} (fs : List GeneratedFile)
    (h : dueOn root f d = .error e) (h₁ : dueOn root f d₁ = .error e) :
    ((each (preview root) (f :: fs) : StateM Disk _).run d).2 = d ∧
      ((each (preview root) (f :: fs) : StateM Disk _).run d).1.Foretells
        ((each (write root) (f :: fs) : StateM Disk _).run d₁).1 := by
  rw [each_cons_run, each_cons_run, preview_run, write_run, h, h₁]
  exact ⟨rfl, .nil, rfl⟩

/-- A run that writes comes to each file as if it were the first, so it does what the dry run
tells. -/
theorem each_foretold (haims : ∀ f ∈ fs, Aims d₁ root base after f.path)
    (hapart : fs.Pairwise fun f g => f.path.Apart g.path)
    (hread : ∀ f ∈ fs, d₁.read (root.join f.path) = d.read (root.join f.path)) :
    ((each (preview root) fs : StateM Disk _).run d).2 = d ∧
      ((each (preview root) fs : StateM Disk _).run d).1.Foretells
        ((each (write root) fs : StateM Disk _).run d₁).1 := by
  -- the disk of the run that writes changes from step to step, but the remaining reads do not
  induction fs generalizing d₁ with
  | nil => exact ⟨rfl, .nil, rfl⟩
  | cons f fs ih =>
      rw [List.pairwise_cons] at hapart
      have hsame : dueOn root f d₁ = dueOn root f d := dueOn_congr (hread f List.mem_cons_self)
      cases hdue : dueOn root f d with
      | error e => exact foretold_of_error fs hdue (hsame.trans hdue)
      | ok status =>
          obtain ⟨ns, d₂, hns, hrun, hsettled⟩ :=
            write_aims (haims f List.mem_cons_self) (hsame.trans hdue)
          have haims₂ : ∀ g ∈ fs, Aims d₂ root base after g.path :=
            fun g hg => (haims g (List.mem_cons_of_mem f hg)).mono hsettled.keeps
          have hread₂ : ∀ g ∈ fs, d₂.read (root.join g.path) = d.read (root.join g.path) := by
            intro g hg
            have hmem := List.mem_cons_of_mem f hg
            rw [(haims g hmem).read_eq hns (hapart.1 g hg) hsettled, hread g hmem]
          obtain ⟨hdisk, hachieved, hfailure⟩ := ih haims₂ hapart.2 hread₂
          rw [each_cons_run, each_cons_run, preview_run, hdue, hrun]
          exact ⟨hdisk, .cons ⟨rfl, foretells_of_dueOn hdue⟩ hachieved, hfailure⟩

/-- A dry run leaves the disk as it is, and tells what a run does that writes. -/
structure Predicts (d : Disk) (root : Path) (files : List GeneratedFile) : Prop where
  unchanged : ((writeFiles root files true : StateM Disk _).run d).2 = d
  foretells : ((writeFiles root files true : StateM Disk _).run d).1.Foretells
    ((writeFiles root files false : StateM Disk _).run d).1

/-- The files have paths made of names, of which none is another one or that of a directory
above it, and all names are short enough. -/
structure Separate (root : Path) (files : List GeneratedFile) : Prop where
  isPlain : ∀ f ∈ files, ∃ ns, f.path.IsPlain ns
  apart : files.Pairwise fun f g => f.path.Apart g.path
  short : ∀ f ∈ files, ∀ s ∈ names (root.join f.path), s.utf8ByteSize ≤ 255

/-- **A dry run predicts a run that writes**: the same files in the same order, what is done to
each of them, and the failure that ends the run if there is one. -/
theorem dryRun_predicts (d : Disk) (root : Path) (files : List GeneratedFile)
    (hfiles : Separate root files) (hend : ∀ f ∈ files, f.path.Trimmed)
    (hroot : d.Steady root) : Predicts d root files := by
  suffices h : ((each (preview root) files : StateM Disk _).run d).2 = d ∧
      ((each (preview root) files : StateM Disk _).run d).1.Foretells
        ((each (write root) files : StateM Disk _).run d).1 by
    constructor
    · rw [writeFiles_eq_each hfiles.isPlain]
      exact h.1
    · rw [writeFiles_eq_each hfiles.isPlain, writeFiles_eq_each hfiles.isPlain]
      exact h.2
  rcases hroot.exists_base with ⟨e, hne, hnowhere⟩ | ⟨lead, after, base, hparts, hup, hbase⟩
  · -- the first file fails in both runs
    cases files with
    | nil => exact ⟨rfl, .nil, rfl⟩
    | cons f fs =>
        obtain ⟨ns, hns⟩ := hfiles.isPlain f List.mem_cons_self
        obtain ⟨e, hne, hread⟩ := exists_read_error hns hne hnowhere
        have hdue := dueOn_of_error hne hread
        exact foretold_of_error fs hdue hdue
  · have haims : ∀ f ∈ files, Aims d root base after f.path := by
      intro f hf
      obtain ⟨ns, hns⟩ := hfiles.isPlain f hf
      exact ⟨ns, hns, fun hfits =>
        below_join hns (hend f hf) hfits (hfiles.short f hf) hparts hup hbase⟩
    exact each_foretold haims hfiles.apart fun f _ => rfl

/-- A file to be made with its directory and one to be put beside it, one to be left and one to
be changed, and one for which a file is in the way. -/
def fiveFiles : List GeneratedFile :=
  [⟨⟨"a/b.yml"⟩, "B"⟩, ⟨⟨"a/./c.yml"⟩, "C"⟩, ⟨⟨"same.yml"⟩, "S"⟩, ⟨⟨"d/e.yml"⟩, "E"⟩,
    ⟨⟨"f/g.yml"⟩, "G"⟩]

/-- A disk with the last three below the root, as far as they are there. -/
def partlyWritten : Disk :=
  ⟨[("out", .directory [("same.yml", .file (.text "S")),
    ("d", .directory [("e.yml", .file (.text "old"))]), ("f", .file (.binary [255]))])]⟩

theorem fiveFiles_predicted :
    Separate ⟨"out"⟩ fiveFiles ∧ (∀ f ∈ fiveFiles, f.path.Trimmed) ∧
    partlyWritten.Steady ⟨"out"⟩ ∧ Predicts partlyWritten ⟨"out"⟩ fiveFiles ∧
    ((writeFiles ⟨"out"⟩ fiveFiles false : StateM Disk _).run partlyWritten).1 =
      ⟨[⟨⟨"a/b.yml"⟩, .created⟩, ⟨⟨"a/./c.yml"⟩, .created⟩, ⟨⟨"same.yml"⟩, .unchanged⟩,
        ⟨⟨"d/e.yml"⟩, .updated⟩], some (.io ⟨"out/f/g.yml"⟩ .notADirectory)⟩ := by
  have hfiles : Separate ⟨"out"⟩ fiveFiles :=
    ⟨by decide +kernel, by decide +kernel, by decide +kernel⟩
  have hend : ∀ f ∈ fiveFiles, f.path.Trimmed := by decide +kernel
  have hroot : partlyWritten.Steady ⟨"out"⟩ := steady_of_not_mem _ (by decide)
  exact ⟨hfiles, hend, hroot, dryRun_predicts _ _ _ hfiles hend hroot, by decide +kernel⟩

/-- Two files below a root behind a `..`. -/
def twoFiles : List GeneratedFile := [⟨⟨"b"⟩, "B"⟩, ⟨⟨"a"⟩, "A"⟩]

/-- A disk with the second of them, but without the directory before the `..`. -/
def secondWritten : Disk := ⟨[("r", .directory [("a", .file (.text "A"))])]⟩

/-- A path that can only be that of a directory. -/
def slashAtEnd : List GeneratedFile := [⟨⟨"a/"⟩, "A"⟩]

/-- Without the two conditions there are runs that are not predicted. A directory that is made
for the first file opens the way through a `..` to the second one; and a path with a slash at
its end is said to be created, but cannot be. -/
theorem unforeseen_runs :
    (Separate ⟨"m/../r"⟩ twoFiles ∧ ¬ Predicts secondWritten ⟨"m/../r"⟩ twoFiles) ∧
    (Separate ⟨"out"⟩ slashAtEnd ∧ ¬ Predicts .empty ⟨"out"⟩ slashAtEnd) := by
  constructor
  · refine ⟨⟨by decide +kernel, by decide +kernel, by decide +kernel⟩, fun hpredicts => ?_⟩
    have htold : ((writeFiles ⟨"m/../r"⟩ twoFiles true : StateM Disk _).run
        secondWritten).1.achieved = [⟨⟨"b"⟩, .wouldCreate⟩, ⟨⟨"a"⟩, .wouldCreate⟩] := by
      decide +kernel
    have hdone : ((writeFiles ⟨"m/../r"⟩ twoFiles false : StateM Disk _).run
        secondWritten).1.achieved = [⟨⟨"b"⟩, .created⟩, ⟨⟨"a"⟩, .unchanged⟩] := by
      decide +kernel
    have hall := hpredicts.foretells.achieved
    rw [htold, hdone, List.forall₂_cons, List.forall₂_cons] at hall
    exact nomatch hall.2.1.2
  · refine ⟨⟨by decide +kernel, by decide +kernel, by decide +kernel⟩, fun hpredicts => ?_⟩
    have htold : ((writeFiles ⟨"out"⟩ slashAtEnd true : StateM Disk _).run
        .empty).1.failure = none := by decide +kernel
    have hdone : ((writeFiles ⟨"out"⟩ slashAtEnd false : StateM Disk _).run
        .empty).1.failure = some (.io ⟨"out/a/"⟩ .isADirectory) := by decide +kernel
    have hfailure := hpredicts.foretells.failure_eq
    rw [htold, hdone] at hfailure
    cases hfailure

end Output

end CiPipeline

import CiPipeline.Proofs.Slug
import Mathlib.Data.List.SplitBy

set_option autoImplicit false

/-! # Slugs by runs

The characters of a name are runs of blanks and runs of other characters in turn. There is one
way to cut a name like that, and its slug has a hyphen for each run of blanks and the lower-case
forms of the characters of every other run.
-/

namespace CiPipeline.Text

/-! ## Runs -/

/-- Characters that stand together and are all blank, or none of them is. -/
structure Run where
  blank : Bool
  chars : List Char
  ne_nil : chars ≠ []
  uniform : ∀ c ∈ chars, isBlank c = blank

namespace Run

/-- The run of a single character. -/
def single (c : Char) : Run where
  blank := isBlank c
  chars := [c]
  ne_nil := List.cons_ne_nil c []
  uniform := fun _ hd => congrArg isBlank (List.mem_singleton.1 hd)

/-- The run with one more character in front. -/
def push (c : Char) (r : Run) (h : isBlank c = r.blank) : Run where
  blank := r.blank
  chars := c :: r.chars
  ne_nil := List.cons_ne_nil c r.chars
  uniform := fun d hd => (List.mem_cons.1 hd).elim (fun heq => heq ▸ h) (r.uniform d)

/-- What a run becomes in a slug. -/
def slug (r : Run) : List Char := if r.blank then ['-'] else r.chars.flatMap lower

/-- The characters say of which kind a run is. -/
theorem eq_of_chars_eq : ∀ {r s : Run}, r.chars = s.chars → r = s := by
  rintro ⟨blank, chars, hne, huniform⟩ ⟨blank', _, -, huniform'⟩ rfl
  obtain ⟨c, hc⟩ := List.exists_mem_of_ne_nil chars hne
  obtain rfl : blank = blank' := (huniform c hc).symm.trans (huniform' c hc)
  rfl

end Run

/-! ## Cutting into runs -/

/-- The runs are what the characters are cut into, and no two runs that are next to each other
are of one kind. -/
structure MaximalRuns (cs : List Char) (runs : List Run) : Prop where
  chars_eq : runs.flatMap Run.chars = cs
  alternate : runs.IsChain fun r s => r.blank ≠ s.blank

/-- The runs, with one more character in front. -/
def pushChar (c : Char) : List Run → List Run
  | [] => [Run.single c]
  | r :: rs => if h : isBlank c = r.blank then r.push c h :: rs else Run.single c :: r :: rs

/-- The runs of the characters. -/
def runsOf (cs : List Char) : List Run := cs.foldr pushChar []

theorem flatMap_pushChar (c : Char) (rs : List Run) :
    (pushChar c rs).flatMap Run.chars = c :: rs.flatMap Run.chars := by
  cases rs with
  | nil => rfl
  | cons r rs =>
      rw [pushChar]
      split <;> rfl

theorem isChain_pushChar (c : Char) {rs : List Run}
    (h : rs.IsChain fun r s => r.blank ≠ s.blank) :
    (pushChar c rs).IsChain fun r s => r.blank ≠ s.blank := by
  cases rs with
  | nil => exact List.isChain_singleton _
  | cons r rs =>
      rw [pushChar]
      split
      · -- the first run is still of the same kind
        exact List.isChain_cons.2 (List.isChain_cons.1 h)
      · rename_i hne
        exact List.isChain_cons_cons.2 ⟨hne, h⟩

theorem maximalRuns_runsOf (cs : List Char) : MaximalRuns cs (runsOf cs) := by
  induction cs with
  | nil => exact ⟨rfl, List.isChain_nil⟩
  | cons c cs ih =>
      refine ⟨?_, isChain_pushChar c ih.alternate⟩
      rw [runsOf, List.foldr_cons, flatMap_pushChar]
      exact congrArg (c :: ·) ih.chars_eq

/-- Maximal runs are what the list is split into wherever one kind follows the other. -/
theorem MaximalRuns.map_chars_eq {cs : List Char} {rs : List Run} (h : MaximalRuns cs rs) :
    rs.map Run.chars = cs.splitBy fun a b => isBlank a == isBlank b := by
  have hnonempty : [] ∉ rs.map Run.chars := by
    intro hnil
    obtain ⟨r, -, hr⟩ := List.mem_map.1 hnil
    exact r.ne_nil hr
  have hinside : ∀ l ∈ rs.map Run.chars, l.IsChain fun a b => (isBlank a == isBlank b) = true := by
    intro l hl
    obtain ⟨r, -, rfl⟩ := List.mem_map.1 hl
    refine (List.pairwise_of_forall_mem_list fun a ha b hb => ?_).isChain
    rw [r.uniform a ha, r.uniform b hb, beq_self_eq_true]
  have hbetween : (rs.map Run.chars).IsChain fun l m =>
      ∃ hl hm, (isBlank (l.getLast hl) == isBlank (m.head hm)) = false := by
    refine (List.isChain_map _).2 (h.alternate.imp fun r s hrs => ⟨r.ne_nil, s.ne_nil, ?_⟩)
    rw [r.uniform _ (List.getLast_mem r.ne_nil), s.uniform _ (List.head_mem s.ne_nil)]
    exact beq_false_of_ne hrs
  rw [← h.chars_eq, List.flatMap_def, List.splitBy_flatten hnonempty hinside hbetween]

/-- There is only one way to cut characters into maximal runs. -/
theorem MaximalRuns.unique {cs : List Char} {rs rs' : List Run} (h : MaximalRuns cs rs)
    (h' : MaximalRuns cs rs') : rs = rs' := by
  have hchars : rs.map Run.chars = rs'.map Run.chars := h.map_chars_eq.trans h'.map_chars_eq.symm
  exact List.map_injective_iff.2 (fun _ _ => Run.eq_of_chars_eq) hchars

/-! ## Slugs -/

/-- Blanks in a run of blanks add nothing. -/
theorem slugChars_blanks {cs : List Char} (h : ∀ c ∈ cs, isBlank c = true) (rest : List Char) :
    slugChars true (cs ++ rest) = slugChars true rest := by
  induction cs with
  | nil => rfl
  | cons c cs ih =>
      rw [List.cons_append, slugChars, h c List.mem_cons_self, if_pos rfl, if_pos rfl,
        ih fun d hd => h d (List.mem_cons_of_mem c hd)]

theorem slugChars_others {cs : List Char} (h : ∀ c ∈ cs, isBlank c = false) (rest : List Char) :
    slugChars false (cs ++ rest) = cs.flatMap lower ++ slugChars false rest := by
  induction cs with
  | nil => rfl
  | cons c cs ih =>
      rw [List.cons_append, slugChars, h c List.mem_cons_self, if_neg Bool.false_ne_true,
        ih fun d hd => h d (List.mem_cons_of_mem c hd), List.flatMap_cons, List.append_assoc]

/-- A run that does not go on with the one before it. -/
theorem slugChars_run (r : Run) {inRun : Bool} (h : inRun = true → r.blank = false)
    (rest : List Char) :
    slugChars inRun (r.chars ++ rest) = r.slug ++ slugChars r.blank rest := by
  obtain ⟨blank, chars, hne, huniform⟩ := r
  obtain ⟨c, cs, rfl⟩ := List.exists_cons_of_ne_nil hne
  have hc := huniform c List.mem_cons_self
  have hcs : ∀ d ∈ cs, isBlank d = blank := fun d hd => huniform d (List.mem_cons_of_mem c hd)
  show slugChars inRun (c :: (cs ++ rest)) = _
  cases blank with
  | true =>
      have hfirst : inRun = false := Bool.eq_false_iff.2 fun hrun => Bool.noConfusion (h hrun)
      rw [slugChars, hc, if_pos rfl, hfirst, if_neg Bool.false_ne_true, slugChars_blanks hcs]
      rfl
  | false =>
      rw [slugChars, hc, if_neg Bool.false_ne_true, slugChars_others hcs, ← List.append_assoc]
      rfl

theorem slugChars_runs {rs : List Run} (h : rs.IsChain fun r s => r.blank ≠ s.blank)
    {inRun : Bool} (hfirst : ∀ r ∈ rs.head?, inRun = true → r.blank = false) :
    slugChars inRun (rs.flatMap Run.chars) = rs.flatMap Run.slug := by
  induction rs generalizing inRun with
  | nil => rfl
  | cons r rs ih =>
      obtain ⟨hhead, htail⟩ := List.isChain_cons.1 h
      have hnext : ∀ s ∈ rs.head?, r.blank = true → s.blank = false := by
        intro s hs hr
        have hne := hhead s hs
        rw [hr] at hne
        simpa using hne
      rw [List.flatMap_cons, slugChars_run r (hfirst r rfl), ih htail hnext, List.flatMap_cons]

theorem slugify_eq_of_maximalRuns {name : String} {rs : List Run}
    (h : MaximalRuns name.toList rs) : slugify name = String.ofList (rs.flatMap Run.slug) := by
  have hfirst : ∀ r ∈ rs.head?, false = true → r.blank = false := fun _ _ => nofun
  rw [slugify, ← h.chars_eq, slugChars_runs h.alternate hfirst]

/-- **The slug of a name.** Every name is cut into maximal runs in one way, and its slug has a
hyphen for each run of blanks and the lower-case forms of the characters of all other runs. So a
slug has no blanks, has a slash or a backslash iff the name has one, and is its own slug. -/
theorem slugify_by_runs (name : String) :
    (∃! runs, MaximalRuns name.toList runs) ∧
    (∀ runs, MaximalRuns name.toList runs →
      slugify name = String.ofList (runs.flatMap Run.slug)) ∧
    (∀ c ∈ (slugify name).toList, isBlank c = false) ∧
    ('/' ∈ (slugify name).toList ↔ '/' ∈ name.toList) ∧
    ('\\' ∈ (slugify name).toList ↔ '\\' ∈ name.toList) ∧
    slugify (slugify name) = slugify name := by
  have hruns := maximalRuns_runsOf name.toList
  refine ⟨⟨_, hruns, fun _ h => h.unique hruns⟩, ?_, ?_, ?_, ?_, ?_⟩
  · exact fun _ h => slugify_eq_of_maximalRuns h
  · exact fun _ hc => (stable_of_mem_slugify hc).not_blank
  · exact slash_mem_slugify
  · exact backslash_mem_slugify
  · exact slugify_slugify name

/-- Runs at both edges, a run of two kinds of blanks, a capital with a lower-case form of two
characters, and one that becomes an ASCII letter. -/
def paddedName : String := " \tİSTANBUL \u00a0\u212a/\\ "

theorem paddedName_by_runs :
    MaximalRuns paddedName.toList (runsOf paddedName.toList) ∧
    (runsOf paddedName.toList).map (·.blank) = [true, false, true, false, true] ∧
    slugify paddedName = "-i\u0307stanbul-k/\\-" ∧
    slugify (slugify paddedName) = slugify paddedName := by
  have hruns := maximalRuns_runsOf paddedName.toList
  obtain ⟨-, hslug, -, -, -, hagain⟩ := slugify_by_runs paddedName
  exact ⟨hruns, by decide +kernel, (hslug _ hruns).trans (by decide +kernel), hagain⟩

end CiPipeline.Text

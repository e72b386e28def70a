import CiPipeline.Text.Blank
import CiPipeline.Text.Lowercase

set_option autoImplicit false

/-! # Capitals

A capital is a character that has another lower-case form. What it becomes is no capital itself,
so a lower-case form stays as it is, and it is neither blank nor before `a` in the order of code
points. All of this is read off the runs of the table: no letters of one run are among the
capitals of another.
-/

namespace CiPipeline.Text

/-- The code point is that of a capital. -/
def IsCapital (n : Nat) : Prop := n = 0x130 ∨ ∃ r ∈ caseRuns, r.contains n = true

instance (n : Nat) : Decidable (IsCapital n) :=
  inferInstanceAs (Decidable (n = 0x130 ∨ ∃ r ∈ caseRuns, r.contains n = true))

/-! ## Runs of capitals -/

namespace CaseRun

variable {r s : CaseRun} {n : Nat}

theorem contains_iff :
    r.contains n = true ↔ r.first ≤ n ∧ n ≤ r.last ∧ (n - r.first) % r.stride = 0 := by
  simp only [contains, Bool.and_eq_true, decide_eq_true_eq, beq_iff_eq, and_assoc]

/-- The letters of one run and the capitals of another do not meet: the letters are all before
the capitals or all behind them, or every letter is between two capitals. -/
def apart (r s : CaseRun) : Bool :=
  Nat.blt (r.lower + (r.last - r.first)) s.first || Nat.blt s.last r.lower ||
    (s.stride == 2 && (r.stride == 2 || r.first == r.last) && (r.lower + s.first) % 2 == 1)

theorem apart_iff :
    r.apart s = true ↔ r.lower + (r.last - r.first) < s.first ∨ s.last < r.lower ∨
      s.stride = 2 ∧ (r.stride = 2 ∨ r.first = r.last) ∧ (r.lower + s.first) % 2 = 1 := by
  simp only [apart, Nat.blt_eq, Bool.or_eq_true, Bool.and_eq_true, beq_iff_eq, or_assoc, and_assoc]

theorem not_contains_apply (h : r.apart s = true) (hn : r.contains n = true) :
    ¬ s.contains (r.apply n) = true := by
  rw [contains_iff] at hn ⊢
  obtain ⟨hfirst, hlast, hstride⟩ := hn
  rintro ⟨hfirst', hlast', hstride'⟩
  simp only [apply] at hfirst' hlast' hstride'
  rcases apart_iff.1 h with hbefore | hbehind | ⟨hs, hr, hodd⟩
  · omega
  · omega
  · -- the letters are an odd number of places away from the capitals
    rw [hs] at hstride'
    rcases hr with hr | hr
    · rw [hr] at hstride
      omega
    · omega

end CaseRun

theorem caseRuns_apart : ∀ r ∈ caseRuns, caseRuns.all r.apart = true := by
  decide +kernel

/-- All letters of the table come from `a` on, and `İ` is not among them. -/
theorem le_lower_of_mem_caseRuns :
    ∀ r ∈ caseRuns, 0x61 ≤ r.lower ∧
      (r.lower + (r.last - r.first) < 0x130 ∨ 0x130 < r.lower) := by
  decide +kernel

/-- The only capitals of ASCII are in the run of its letters. -/
theorem ascii_of_mem_caseRuns :
    ∀ r ∈ caseRuns, 0x80 ≤ r.first ∨ 0x41 ≤ r.first ∧ r.last ≤ 0x5A := by
  decide +kernel

theorem not_isBlank_letters :
    ∀ r ∈ caseRuns, ∀ k < r.last - r.first + 1, isBlank (Char.ofNat (r.lower + k)) = false := by
  decide +kernel

theorem not_isCapital_apply {r : CaseRun} (hr : r ∈ caseRuns) {n : Nat}
    (hn : r.contains n = true) : ¬ IsCapital (r.apply n) := by
  rintro (heq | ⟨s, hs, hcontains⟩)
  · have hlower := le_lower_of_mem_caseRuns r hr
    rw [CaseRun.contains_iff] at hn
    rw [CaseRun.apply] at heq
    omega
  · have hapart := List.all_eq_true.1 (caseRuns_apart r hr) s hs
    exact CaseRun.not_contains_apply hapart hn hcontains

/-! ## Lower-case forms -/

theorem toNat_eq_of_ofNat {n : Nat} {x : Char} (h : x = Char.ofNat n) :
    x.toNat = n ∨ x.toNat = 0 := by
  subst h
  by_cases hn : n.isValidChar
  · have heq : Char.ofNat n = Char.ofNatAux n hn := dif_pos hn
    exact Or.inl (congrArg Char.toNat heq)
  · have heq : Char.ofNat n = '\x00' := dif_neg hn
    exact Or.inr (congrArg Char.toNat heq)

/-- The lower-case form of a character is itself, or that of `İ`, or the letter in the table. -/
theorem lower_cases (c : Char) :
    ¬ IsCapital c.toNat ∧ lower c = [c] ∨
      c.toNat = 0x130 ∧ lower c = ['i', Char.ofNat 0x307] ∨
      ∃ r ∈ caseRuns, r.contains c.toNat = true ∧ lower c = [Char.ofNat (r.apply c.toNat)] := by
  have hupper : c.isUpper = true ↔ 0x41 ≤ c.toNat ∧ c.toNat ≤ 0x5A := by
    show decide ('A'.val ≤ c.val ∧ c.val ≤ 'Z'.val) = true ↔ _
    rw [decide_eq_true_iff, UInt32.le_iff_toNat_le, UInt32.le_iff_toNat_le]
    rfl
  unfold lower
  split
  · rename_i hascii
    by_cases hc : c.isUpper = true
    · -- the capitals of ASCII are the first run of the table
      have hrange := hupper.1 hc
      refine Or.inr (Or.inr ⟨⟨0x41, 0x5A, 1, 0x61⟩, List.mem_cons_self, ?_, ?_⟩)
      · rw [CaseRun.contains_iff]
        exact ⟨hrange.1, hrange.2, Nat.mod_one _⟩
      · have hshift : c.toNat + 32 = 0x61 + (c.toNat - 0x41) := by omega
        rw [if_pos hc, hshift]
        rfl
    · refine Or.inl ⟨?_, by rw [if_neg hc]⟩
      rintro (heq | ⟨r, hr, hcontains⟩)
      · omega
      · have hrun := ascii_of_mem_caseRuns r hr
        rw [CaseRun.contains_iff] at hcontains
        exact hc (hupper.2 (by omega))
  · split
    · rename_i hdotted
      exact Or.inr (Or.inl ⟨hdotted, rfl⟩)
    · rename_i hdotted
      split
      · rename_i r hr
        have hcontains := List.find?_some hr
        exact Or.inr (Or.inr ⟨r, List.mem_of_find?_eq_some hr, hcontains, rfl⟩)
      · rename_i hnone
        refine Or.inl ⟨?_, rfl⟩
        rintro (heq | ⟨r, hr, hcontains⟩)
        · exact hdotted heq
        · exact List.find?_eq_none.1 hnone r hr hcontains

theorem lower_of_not_isCapital {c : Char} (h : ¬ IsCapital c.toNat) : lower c = [c] := by
  rcases lower_cases c with ⟨-, heq⟩ | ⟨hdotted, -⟩ | ⟨r, hr, hcontains, -⟩
  · exact heq
  · exact absurd (Or.inl hdotted) h
  · exact absurd (Or.inr ⟨r, hr, hcontains⟩) h

/-- No character of a lower-case form is a capital. -/
theorem not_isCapital_of_mem_lower {c x : Char} (h : x ∈ lower c) : ¬ IsCapital x.toNat := by
  rcases lower_cases c with ⟨hc, heq⟩ | ⟨-, heq⟩ | ⟨r, hr, hcontains, heq⟩
  · rw [heq, List.mem_singleton] at h
    exact h ▸ hc
  · rw [heq, List.mem_cons, List.mem_singleton] at h
    rcases h with rfl | rfl
    · decide +kernel
    · decide +kernel
  · rw [heq, List.mem_singleton] at h
    rcases toNat_eq_of_ofNat h with hletter | hnull
    · rw [hletter]
      exact not_isCapital_apply hr hcontains
    · rw [hnull]
      decide +kernel

/-- **A lower-case form has no other lower-case form.** -/
theorem lower_of_mem_lower {c x : Char} (h : x ∈ lower c) : lower x = [x] :=
  lower_of_not_isCapital (not_isCapital_of_mem_lower h)

/-- What is not blank is not blank in lower case. -/
theorem not_isBlank_of_mem_lower {c x : Char} (hc : isBlank c = false) (h : x ∈ lower c) :
    isBlank x = false := by
  rcases lower_cases c with ⟨-, heq⟩ | ⟨-, heq⟩ | ⟨r, hr, hcontains, heq⟩
  · rw [heq, List.mem_singleton] at h
    rw [h, hc]
  · rw [heq, List.mem_cons, List.mem_singleton] at h
    rcases h with rfl | rfl
    · decide
    · decide
  · rw [CaseRun.contains_iff] at hcontains
    rw [heq, List.mem_singleton] at h
    rw [h]
    exact not_isBlank_letters r hr _ (by omega)

/-- The only character before the lower-case letters in what a character becomes is the
character itself. -/
theorem eq_of_mem_lower {x c : Char} (hx : x.toNat < 0x61) (h0 : x.toNat ≠ 0)
    (h : x ∈ lower c) : x = c := by
  rcases lower_cases c with ⟨-, heq⟩ | ⟨-, heq⟩ | ⟨r, hr, -, heq⟩
  · rw [heq] at h
    exact List.mem_singleton.1 h
  · rw [heq, List.mem_cons, List.mem_singleton] at h
    rcases h with rfl | rfl
    · exact absurd hx (by decide)
    · exact absurd hx (by decide)
  · rw [heq] at h
    have hlower := le_lower_of_mem_caseRuns r hr
    have hletter := toNat_eq_of_ofNat (List.mem_singleton.1 h)
    simp only [CaseRun.apply] at hletter
    omega

end CiPipeline.Text

import CiPipeline.Proofs.Capitals
import CiPipeline.Text.Slug

set_option autoImplicit false

/-! # Characters of slugs

Lower-case letters come after `` ` `` in the order of code points. So a character before
them, such as a slash, is in a slug only if it is in the name, unless it is the hyphen that
stands for a run of blanks. No character of a slug is blank or a capital.
-/

namespace CiPipeline.Text

theorem mem_of_mem_slugChars {x : Char} (hx : x.toNat < 0x61) (h0 : x.toNat ≠ 0)
    (hdash : x ≠ '-') {inRun : Bool} {cs : List Char} (h : x ∈ slugChars inRun cs) :
    x ∈ cs := by
  induction cs generalizing inRun with
  | nil => cases h
  | cons c cs ih =>
      unfold slugChars at h
      split at h
      · split at h
        · exact List.mem_cons_of_mem c (ih h)
        · rcases List.mem_cons.1 h with h | h
          · exact absurd h hdash
          · exact List.mem_cons_of_mem c (ih h)
      · rcases List.mem_append.1 h with h | h
        · rw [eq_of_mem_lower hx h0 h]
          exact List.mem_cons_self
        · exact List.mem_cons_of_mem c (ih h)

/-- Such a character is kept wherever it is. -/
theorem mem_slugChars {x : Char} (hblank : isBlank x = false) (hlower : lower x = [x])
    {inRun : Bool} {cs : List Char} (h : x ∈ cs) : x ∈ slugChars inRun cs := by
  induction cs generalizing inRun with
  | nil => cases h
  | cons c cs ih =>
      unfold slugChars
      rcases List.mem_cons.1 h with rfl | h
      · rw [hblank, if_neg Bool.false_ne_true, hlower]
        exact List.mem_append_left _ List.mem_cons_self
      · split
        · split
          · exact ih h
          · exact List.mem_cons_of_mem _ (ih h)
        · exact List.mem_append_right _ (ih h)

/-- A character before the lower-case letters that is left as it is, except for the hyphen, is in
the slug iff it is in the name. -/
theorem mem_slugify_iff {x : Char} (hx : x.toNat < 0x61 ∧ x.toNat ≠ 0 ∧ x ≠ '-')
    (hkept : isBlank x = false ∧ lower x = [x]) {name : String} :
    x ∈ (slugify name).toList ↔ x ∈ name.toList := by
  rw [slugify, String.toList_ofList]
  exact ⟨mem_of_mem_slugChars hx.1 hx.2.1 hx.2.2, mem_slugChars hkept.1 hkept.2⟩

theorem slash_mem_slugify {name : String} : '/' ∈ (slugify name).toList ↔ '/' ∈ name.toList :=
  mem_slugify_iff (by decide) (by decide)

theorem backslash_mem_slugify {name : String} :
    '\\' ∈ (slugify name).toList ↔ '\\' ∈ name.toList :=
  mem_slugify_iff (by decide) (by decide)

theorem comma_mem_slugify {name : String} : ',' ∈ (slugify name).toList ↔ ',' ∈ name.toList :=
  mem_slugify_iff (by decide) (by decide)

/-! ## Slugs of slugs -/

/-- The character stays as it is in a slug. -/
structure Stable (c : Char) : Prop where
  not_blank : isBlank c = false
  lower_eq : lower c = [c]

theorem stable_of_mem_slugChars {inRun : Bool} {cs : List Char} {x : Char}
    (h : x ∈ slugChars inRun cs) : Stable x := by
  induction cs generalizing inRun with
  | nil => cases h
  | cons c cs ih =>
      unfold slugChars at h
      split at h
      · split at h
        · exact ih h
        · rcases List.mem_cons.1 h with rfl | h
          · exact ⟨by decide, by decide⟩
          · exact ih h
      · rename_i hc
        rcases List.mem_append.1 h with h | h
        · exact ⟨not_isBlank_of_mem_lower (Bool.eq_false_iff.2 hc) h, lower_of_mem_lower h⟩
        · exact ih h

theorem slugChars_of_stable {cs : List Char} (h : ∀ c ∈ cs, Stable c) (inRun : Bool) :
    slugChars inRun cs = cs := by
  induction cs generalizing inRun with
  | nil => rfl
  | cons c cs ih =>
      have hc := h c List.mem_cons_self
      rw [slugChars, hc.not_blank, if_neg Bool.false_ne_true, hc.lower_eq,
        ih fun d hd => h d (List.mem_cons_of_mem c hd)]
      rfl

theorem stable_of_mem_slugify {name : String} {c : Char} (h : c ∈ (slugify name).toList) :
    Stable c := by
  rw [slugify, String.toList_ofList] at h
  exact stable_of_mem_slugChars h

/-- **A slug is its own slug.** -/
theorem slugify_slugify (name : String) : slugify (slugify name) = slugify name := by
  rw [slugify, slugChars_of_stable fun _ h => stable_of_mem_slugify h, String.ofList_toList]

end CiPipeline.Text

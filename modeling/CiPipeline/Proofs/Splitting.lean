import CiPipeline.Proofs.Lists

set_option autoImplicit false

/-! # Splitting texts

A text is split at a character. Splitting a text that was joined splits each of its parts, so that
it gives the parts back iff the character is in none of them.
-/

namespace CiPipeline.Text

variable {sep : Char} {s : String} {parts : List String}

/-- The parts of a text before, between and behind the places of a character. -/
def splitAt (sep : Char) (s : String) : List String := (s.toList.splitOn sep).map String.ofList

theorem splitAt_ne_nil (sep : Char) (s : String) : splitAt sep s ≠ [] := by
  rw [splitAt, ne_eq, List.map_eq_nil_iff]
  exact List.splitOn_ne_nil _ _

theorem splitAt_of_not_mem (h : sep ∉ s.toList) : splitAt sep s = [s] := by
  rw [splitAt, List.splitOn_eq_singleton h, List.map_singleton, String.ofList_toList]

theorem splitAt_append (sep : Char) (s t : String) :
    splitAt sep (s ++ String.singleton sep ++ t) = splitAt sep s ++ splitAt sep t := by
  have hlist : (s ++ String.singleton sep ++ t).toList = s.toList ++ sep :: t.toList := by
    simp
  rw [splitAt, hlist, List.splitOn_append_cons_self, List.map_append]
  rfl

theorem not_mem_of_mem_splitOn {cs part : List Char} (h : part ∈ cs.splitOn sep) :
    sep ∉ part := by
  induction cs generalizing part with
  | nil =>
      rw [List.mem_singleton.1 h]
      exact List.not_mem_nil
  | cons c cs ih =>
      rw [List.splitOn, List.splitOnP_cons_eq_if_modifyHead] at h
      split at h
      · rcases List.mem_cons.1 h with rfl | h
        · exact List.not_mem_nil
        · exact ih h
      · -- the character goes to the front of the first part
        rename_i hc
        obtain ⟨first, others, hcs⟩ := List.exists_cons_of_ne_nil (List.splitOn_ne_nil sep cs)
        rw [← List.splitOn, hcs, List.modifyHead_cons] at h
        rw [hcs] at ih
        rcases List.mem_cons.1 h with rfl | h
        · rw [List.mem_cons, not_or]
          exact ⟨fun heq => hc (beq_iff_eq.2 heq.symm), ih List.mem_cons_self⟩
        · exact ih (List.mem_cons_of_mem _ h)

/-- The character is in no part. -/
theorem not_mem_of_mem_splitAt {part : String} (h : part ∈ splitAt sep s) :
    sep ∉ part.toList := by
  obtain ⟨cs, hcs, rfl⟩ := List.mem_map.1 h
  rw [String.toList_ofList]
  exact not_mem_of_mem_splitOn hcs

/-- Joining the parts of a text gives the text. -/
theorem intercalate_splitAt (sep : Char) (s : String) :
    (String.singleton sep).intercalate (splitAt sep s) = s := by
  have hid : String.toList ∘ String.ofList = id := funext fun _ => String.toList_ofList
  rw [← String.toList_inj, String.toList_intercalate, splitAt, List.map_map, hid, List.map_id,
    String.toList_singleton, List.intercalate_splitOn]

/-! ## Joined texts -/

/-- **A joined text** is split where it was joined, and where its parts are split. -/
theorem splitAt_intercalate (sep : Char) (h : parts ≠ []) :
    splitAt sep ((String.singleton sep).intercalate parts) = parts.flatMap (splitAt sep) := by
  induction parts with
  | nil => exact absurd rfl h
  | cons s parts ih =>
      cases parts with
      | nil => simp
      | cons t parts =>
          have hne : t :: parts ≠ [] := List.cons_ne_nil _ _
          rw [String.intercalate_cons_of_ne_nil hne, splitAt_append, ih hne]
          rfl

/-- What was joined can be read back iff the character is in none of the parts. -/
theorem flatMap_splitAt_eq_iff :
    parts.flatMap (splitAt sep) = parts ↔ ∀ s ∈ parts, sep ∉ s.toList := by
  constructor
  · intro h s hs
    rw [← h] at hs
    obtain ⟨t, -, ht⟩ := List.mem_flatMap.1 hs
    exact not_mem_of_mem_splitAt ht
  · intro h
    calc parts.flatMap (splitAt sep)
        = parts.flatMap fun s => [s] := by
          rw [List.flatMap_def, List.flatMap_def,
            List.map_congr_left fun s hs => splitAt_of_not_mem (h s hs)]
      _ = parts := List.flatMap_singleton' parts

/-- Parts that are split further are still joined to the same text. -/
theorem intercalate_flatMap_splitAt (sep : Char) (parts : List String) :
    (String.singleton sep).intercalate (parts.flatMap (splitAt sep)) =
      (String.singleton sep).intercalate parts := by
  rw [← intercalate_flatMap _ _ fun s _ => splitAt_ne_nil sep s]
  simp only [intercalate_splitAt, List.map_id']

end CiPipeline.Text

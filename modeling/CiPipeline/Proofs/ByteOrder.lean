import CiPipeline.Collection.SortedMap
import Mathlib.Tactic.SplitIfs

set_option autoImplicit false

/-! # Byte order of texts

Texts are compared by the code points of their characters. That is the order of their bytes in
UTF-8 as well: the bytes of a character with a smaller code point are smaller at the first place
where they differ, and the bytes of one character never begin those of another.
-/

namespace CiPipeline.Text

/-- The bytes of a text in UTF-8. -/
def bytes (s : String) : List UInt8 := s.toUTF8.data.toList

theorem bytes_eq (s : String) : bytes s = s.toList.flatMap String.utf8EncodeChar := by
  have hbytes : s.toUTF8 = s.toList.utf8Encode := by
    rw [String.toUTF8_eq_toByteArray, ← String.toByteArray_ofList, String.ofList_toList]
  rw [bytes, hbytes, List.utf8Encode, List.data_toByteArray]

theorem cons_byte_lt_iff {m n : Nat} (hm : m < 256) (hn : n < 256) {xs ys : List UInt8} :
    UInt8.ofNat m :: xs < UInt8.ofNat n :: ys ↔ m < n ∨ m = n ∧ xs < ys := by
  rw [List.cons_lt_cons_iff, UInt8.lt_iff_toNat_lt, ← UInt8.toNat_inj,
    UInt8.toNat_ofNat_of_lt' hm, UInt8.toNat_ofNat_of_lt' hn]

/-- A character before another has smaller bytes, whatever follows them. -/
theorem utf8EncodeChar_append_lt {c d : Char} (h : c < d) (xs ys : List UInt8) :
    String.utf8EncodeChar c ++ xs < String.utf8EncodeChar d ++ ys := by
  have hlt : c.val.toNat < d.val.toNat := h
  have hd : d.val.toNat < 0x110000 := by
    rcases d.valid with hvalid | hvalid <;> omega
  -- each byte but the first holds six bits, so they are the digits of the code to the base 64
  have hdigits : ∀ n : Nat, n < 0x110000 →
      n / 64 / 64 = n / 4096 ∧ n / 4096 / 64 = n / 262144 ∧ n / 262144 % 8 = n / 262144 := by
    omega
  have hcd := hdigits c.val.toNat (Nat.lt_trans hlt hd)
  have hdd := hdigits d.val.toNat hd
  unfold String.utf8EncodeChar
  generalize c.val.toNat = v at hlt hcd
  generalize d.val.toNat = w at hlt hd hdd
  dsimp only
  -- one case for each pair of lengths; the first byte tells different lengths apart
  split_ifs <;>
    simp (disch := omega) only [List.cons_append, List.nil_append, cons_byte_lt_iff] <;> omega

theorem flatMap_utf8EncodeChar_lt {cs ds : List Char} (h : cs < ds) :
    cs.flatMap String.utf8EncodeChar < ds.flatMap String.utf8EncodeChar := by
  induction h with
  | @nil d ds =>
      rw [List.flatMap_cons]
      unfold String.utf8EncodeChar
      dsimp only
      split_ifs <;> exact List.Lex.nil
  | rel hlt => exact utf8EncodeChar_append_lt hlt _ _
  | cons htail ih => exact List.append_left_lt ih

/-- **The order of texts is that of their bytes.** -/
theorem lt_iff_bytes_lt (s t : String) : s < t ↔ bytes s < bytes t := by
  have hmono : ∀ {s t : String}, s < t → bytes s < bytes t := by
    intro s t h
    rw [bytes_eq, bytes_eq]
    exact flatMap_utf8EncodeChar_lt h
  refine ⟨hmono, fun h => ?_⟩
  by_cases hlt : s < t
  · exact hlt
  · have hne : s ≠ t := fun heq => List.lt_irrefl _ (heq ▸ h)
    have hgt : t < s := SortedMap.lt_of_not_lt_of_ne hlt hne
    exact absurd (hmono hgt) (List.lt_asymm h)

end CiPipeline.Text

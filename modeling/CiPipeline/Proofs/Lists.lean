set_option autoImplicit false

/-! # Facts about lists

`List.eraseDups` keeps the first of equal members. What is left has no member twice, and its
members stand in the order in which they appear first in the list.
-/

namespace CiPipeline

/-! ## Choosing and mapping -/

/-- To map the members that pass a test is to map them all and leave the others out. -/
theorem filterMap_if {α β : Type} (p : α → Bool) (f : α → β) (l : List α) :
    (l.filterMap fun a => if p a then some (f a) else none) = (l.filter p).map f := by
  have hguard : (fun a => if p a then some (f a) else none) =
      fun a => (Option.guard p a).map f := by
    funext a
    by_cases h : p a <;> simp [Option.guard, h]
  rw [hguard, ← List.map_filterMap, List.filterMap_eq_filter]

/-- Lists of at most one member each, put together. -/
theorem flatMap_sublist_map {α β : Type} {f : α → List β} {g : α → β} {l : List α}
    (h : ∀ a ∈ l, (f a).Sublist [g a]) : (l.flatMap f).Sublist (l.map g) := by
  induction l with
  | nil => exact List.Sublist.slnil
  | cons a l ih =>
      have hl := ih fun b hb => h b (List.mem_cons_of_mem a hb)
      rw [List.flatMap_cons, List.map_cons, ← List.singleton_append]
      exact (h a List.mem_cons_self).append hl

/-- The last member that passes a test is one behind which no other passes it. -/
theorem find?_reverse_eq_some_iff {α : Type} {p : α → Bool} {l : List α} {a : α} :
    l.reverse.find? p = some a ↔
      p a = true ∧ ∃ before after, l = before ++ a :: after ∧ ∀ b ∈ after, p b = false := by
  rw [List.find?_eq_some_iff_append]
  refine and_congr_right fun _ => ?_
  constructor
  · rintro ⟨after, before, hl, hafter⟩
    refine ⟨before.reverse, after.reverse, ?_, fun b hb => ?_⟩
    · rw [← l.reverse_reverse, hl]
      simp
    · simpa using hafter b (List.mem_reverse.1 hb)
  · rintro ⟨before, after, rfl, hafter⟩
    refine ⟨after.reverse, before.reverse, by simp, fun b hb => ?_⟩
    simpa using hafter b (List.mem_reverse.1 hb)

/-! ## Joining texts -/

/-- Texts that are joined in groups are joined as a whole, if no group is empty. -/
theorem intercalate_flatMap {α : Type} (sep : String) (f : α → List String) {l : List α}
    (h : ∀ a ∈ l, f a ≠ []) :
    sep.intercalate (l.map fun a => sep.intercalate (f a)) = sep.intercalate (l.flatMap f) := by
  induction l with
  | nil => rfl
  | cons a l ih =>
      have ih := ih fun b hb => h b (List.mem_cons_of_mem a hb)
      rw [List.map_cons, List.flatMap_cons]
      cases l with
      | nil => simp
      | cons b l =>
          have hb : f b ≠ [] := h b (List.mem_cons_of_mem a List.mem_cons_self)
          have hrest : (b :: l).flatMap f ≠ [] := by
            rw [List.flatMap_cons]
            exact List.append_ne_nil_of_left_ne_nil hb _
          have hgroups : ((b :: l).map fun a => sep.intercalate (f a)) ≠ [] :=
            List.cons_ne_nil _ _
          rw [String.intercalate_append_of_ne_nil (h a List.mem_cons_self) hrest, ← ih,
            String.intercalate_cons_of_ne_nil hgroups]

/-! ## First appearances -/

variable {α : Type} [BEq α] [LawfulBEq α]

/-- Leaving out other members does not change which of two members appears first. -/
theorem idxOf_lt_of_idxOf_filter_lt (p : α → Bool) {a b : α} (hb : p b = true) {l : List α}
    (h : (l.filter p).idxOf a < (l.filter p).idxOf b) : l.idxOf a < l.idxOf b := by
  induction l with
  | nil => simp at h
  | cons x l ih =>
      cases hbx : x == b with
      | true =>
          rw [eq_of_beq hbx, List.filter_cons_of_pos hb, List.idxOf_cons_self] at h
          exact absurd h (Nat.not_lt_zero _)
      | false =>
          cases hax : x == a with
          | true => simp [List.idxOf_cons, hax, hbx]
          | false =>
              have hl : (l.filter p).idxOf a < (l.filter p).idxOf b := by
                by_cases hx : p x
                · rw [List.filter_cons_of_pos hx] at h
                  simpa [List.idxOf_cons, hax, hbx] using h
                · rwa [List.filter_cons_of_neg hx] at h
              simp only [List.idxOf_cons, hax, hbx, cond_false]
              exact Nat.succ_lt_succ (ih hl)

/-- **The members that are kept stand in the order of their first appearance.** -/
theorem pairwise_idxOf_eraseDups :
    ∀ l : List α, l.eraseDups.Pairwise fun a b => l.idxOf a < l.idxOf b
  | [] => List.Pairwise.nil
  | x :: l => by
      have hother : ∀ b ∈ (l.filter fun b => !b == x).eraseDups, (x == b) = false := by
        intro b hb
        have hbx := (List.mem_filter.1 (List.mem_eraseDups.1 hb)).2
        rw [Bool.beq_comm] at hbx
        simpa using hbx
      rw [List.eraseDups_cons]
      refine List.Pairwise.cons (fun b hb => ?_) ?_
      · simp [List.idxOf_cons, hother b hb]
      · refine (pairwise_idxOf_eraseDups (l.filter fun b => !b == x)).imp_of_mem ?_
        intro a b ha hb hab
        have hkeep := (List.mem_filter.1 (List.mem_eraseDups.1 hb)).2
        have hlt := idxOf_lt_of_idxOf_filter_lt (fun b => !b == x) hkeep hab
        simp only [List.idxOf_cons, hother a ha, hother b hb, cond_false]
        exact Nat.succ_lt_succ hlt
termination_by l => l.length
decreasing_by exact Nat.lt_succ_of_le (List.length_filter_le _ _)

theorem nodup_eraseDups (l : List α) : l.eraseDups.Nodup :=
  (pairwise_idxOf_eraseDups l).imp fun hlt heq => by
    rw [heq] at hlt
    exact Nat.lt_irrefl _ hlt

/-- The members of a list, each once, in the order in which they first appear. -/
structure FirstAppearances (all kept : List α) : Prop where
  nodup : kept.Nodup
  mem_iff : ∀ a, a ∈ kept ↔ a ∈ all
  ordered : kept.Pairwise fun a b => all.idxOf a < all.idxOf b

theorem firstAppearances_eraseDups (l : List α) : FirstAppearances l l.eraseDups where
  nodup := nodup_eraseDups l
  mem_iff := fun _ => List.mem_eraseDups
  ordered := pairwise_idxOf_eraseDups l

/-- A list without repetitions is left as it is. -/
theorem eraseDups_of_nodup {l : List α} (h : l.Nodup) : l.eraseDups = l := by
  induction l with
  | nil => rfl
  | cons x l ih =>
      rw [List.nodup_cons] at h
      have hkeep : (l.filter fun b => !b == x) = l := by
        refine List.filter_eq_self.2 fun b hb => ?_
        have hbx : b ≠ x := fun hbx => h.1 (hbx ▸ hb)
        simpa using hbx
      rw [List.eraseDups_cons, hkeep, ih h.2]

/-- Of the members that pass a test, the first of equal ones are those of the whole list. -/
theorem eraseDups_filter (p : α → Bool) :
    ∀ l : List α, (l.filter p).eraseDups = l.eraseDups.filter p
  | [] => rfl
  | x :: l => by
      have ih := eraseDups_filter p (l.filter fun b => !b == x)
      have hcomm : (l.filter p).filter (fun b => !b == x) =
          (l.filter fun b => !b == x).filter p := by
        rw [List.filter_filter, List.filter_filter]
        exact List.filter_congr fun b _ => Bool.and_comm _ _
      rw [List.eraseDups_cons]
      by_cases hx : p x = true
      · rw [List.filter_cons_of_pos hx, List.filter_cons_of_pos hx, List.eraseDups_cons, hcomm, ih]
      · -- without `x` itself, nothing is lost by leaving out its equals
        have hkeep : (l.filter p).filter (fun b => !b == x) = l.filter p := by
          refine List.filter_eq_self.2 fun b hb => ?_
          have hne : b ≠ x := fun hbx => hx (hbx ▸ (List.mem_filter.1 hb).2)
          simpa using hne
        rw [List.filter_cons_of_neg hx, List.filter_cons_of_neg hx, ← ih, ← hcomm, hkeep]
termination_by l => l.length
decreasing_by exact Nat.lt_succ_of_le (List.length_filter_le _ _)

/-- Nothing is lost or moved by leaving out equal members before they are mapped, even if others
become equal by that. -/
theorem eraseDups_map_eraseDups {β : Type} [BEq β] [LawfulBEq β] (f : α → β) :
    ∀ l : List α, (l.eraseDups.map f).eraseDups = (l.map f).eraseDups
  | [] => rfl
  | x :: l => by
      have ih := eraseDups_map_eraseDups f (l.filter fun b => !b == x)
      -- what is equal to `x` is mapped to an equal of `f x`, which is left out in any case
      have hequal : ((l.filter fun b => !b == x).map f).filter (fun b => !b == f x) =
          (l.map f).filter fun b => !b == f x := by
        rw [List.filter_map, List.filter_map, List.filter_filter]
        refine congrArg (List.map f) (List.filter_congr fun b _ => ?_)
        by_cases hb : b = x <;> simp [hb]
      calc ((x :: l).eraseDups.map f).eraseDups
          = f x :: (((l.filter fun b => !b == x).eraseDups.map f).filter
              fun b => !b == f x).eraseDups := by
            rw [List.eraseDups_cons, List.map_cons, List.eraseDups_cons]
        _ = f x :: (((l.filter fun b => !b == x).map f).eraseDups.filter
              fun b => !b == f x) := by
            rw [eraseDups_filter, ih]
        _ = f x :: ((l.map f).filter fun b => !b == f x).eraseDups := by
            rw [← eraseDups_filter, hequal]
        _ = ((x :: l).map f).eraseDups := by
            rw [List.map_cons, List.eraseDups_cons]
termination_by l => l.length
decreasing_by exact Nat.lt_succ_of_le (List.length_filter_le _ _)

/-- Nothing is lost or moved by leaving out equal members of the parts first. -/
theorem eraseDups_append_eraseDups (l m : List α) :
    (l.eraseDups ++ m.eraseDups).eraseDups = (l ++ m).eraseDups := by
  have hadded : (m.eraseDups.removeAll l.eraseDups).eraseDups = (m.removeAll l).eraseDups := by
    have hmem : ∀ a, l.eraseDups.elem a = l.elem a := fun a => by
      rw [Bool.eq_iff_iff, List.elem_iff, List.elem_iff, List.mem_eraseDups]
    simp only [List.removeAll, hmem]
    rw [← eraseDups_filter, eraseDups_of_nodup (nodup_eraseDups _)]
  rw [List.eraseDups_append, List.eraseDups_append, hadded,
    eraseDups_of_nodup (nodup_eraseDups l)]

end CiPipeline

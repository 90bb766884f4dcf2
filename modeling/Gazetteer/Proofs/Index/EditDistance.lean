import Gazetteer.Index.EditDistance

/-!
# Deciding a bound on the distance

`withinEdits` spends a budget where the distance adds up costs, and stops early. **It decides
exactly that the distance lies within the budget** (`withinEdits_iff`), by induction on its own
recursion: each way to begin an alignment is one alternative of the one and one operand of the
other's minimum.
-/

namespace Gazetteer.Index

/-- Nothing is as far from a text as the text is long. Every character has to be put in. -/
theorem distance_nil_left (bs : List Char) : distance [] bs = bs.length := by
  rw [distance]

theorem distance_nil_right (as : List Char) : distance as [] = as.length := by
  cases as <;> simp [distance]

/-- Both texts begin with two characters that are each other's swap, and the rest is within a
budget. -/
def SwappedWithin (budget : Nat) (a b : Char) : List Char → List Char → Prop
  | c :: as, d :: bs => a = d ∧ c = b ∧ distance as bs ≤ budget
  | _, _ => False

/-- The plain ways to begin an alignment against a bound, by what is left to align. A minimum lies
within a bound if one of its operands does. -/
theorem plain_le_succ_iff {a b : Char} {both left right budget : Nat} :
    min (both + if a = b then 0 else 1) (min left right + 1) ≤ budget + 1 ↔
      (a = b ∧ both ≤ budget + 1) ∨ both ≤ budget ∨ left ≤ budget ∨ right ≤ budget := by
  by_cases h : a = b
  · simp only [h, if_true, true_and]
    omega
  · simp only [h, if_false, false_and, false_or]
    omega

/-- Without a budget both characters have to be equal, since leaving one of them out costs an edit
by itself. -/
theorem plain_le_zero_iff {a b : Char} {both left right : Nat} :
    min (both + if a = b then 0 else 1) (min left right + 1) ≤ 0 ↔ a = b ∧ both ≤ 0 := by
  by_cases h : a = b
  · simp only [h, if_true, true_and]
    omega
  · simp only [h, if_false, false_and, iff_false]
    omega

/-- **The ways to begin an alignment** of two texts, by their cost: one character of each, one of
one text alone, or two of each swapped. -/
theorem distance_cons_cons_le_succ_iff (a b : Char) (as bs : List Char) (budget : Nat) :
    distance (a :: as) (b :: bs) ≤ budget + 1 ↔
      (a = b ∧ distance as bs ≤ budget + 1) ∨ distance as bs ≤ budget ∨
        distance as (b :: bs) ≤ budget ∨ distance (a :: as) bs ≤ budget ∨
        SwappedWithin budget a b as bs := by
  cases as with
  | nil =>
    rw [distance.eq_4 a [] b bs (by intros; contradiction), plain_le_succ_iff]
    simp [SwappedWithin]
  | cons c as =>
    cases bs with
    | nil =>
      rw [distance.eq_4 a (c :: as) b [] (by intros; contradiction), plain_le_succ_iff]
      simp [SwappedWithin]
    | cons d bs =>
      rw [distance.eq_3, SwappedWithin]
      by_cases hswapped : a = d ∧ c = b
      · rw [if_pos hswapped, Std.min_le, plain_le_succ_iff, Nat.add_le_add_iff_right]
        simp only [hswapped.1, hswapped.2, true_and, or_assoc]
      · rw [if_neg hswapped, plain_le_succ_iff, ← and_assoc, iff_false_intro hswapped,
          false_and, or_false]

/-- Without a budget only equal characters may be aligned: every other beginning costs an edit. -/
theorem distance_cons_cons_le_zero_iff (a b : Char) (as bs : List Char) :
    distance (a :: as) (b :: bs) ≤ 0 ↔ a = b ∧ distance as bs ≤ 0 := by
  cases as with
  | nil => rw [distance.eq_4 a [] b bs (by intros; contradiction), plain_le_zero_iff]
  | cons c as =>
    cases bs with
    | nil => rw [distance.eq_4 a (c :: as) b [] (by intros; contradiction), plain_le_zero_iff]
    | cons d bs =>
      rw [distance.eq_3]
      by_cases hswapped : a = d ∧ c = b
      · rw [if_pos hswapped, Std.min_le, plain_le_zero_iff]
        exact or_iff_left (Nat.not_succ_le_zero _)
      · rw [if_neg hswapped, plain_le_zero_iff]

/-- **Only equal texts are at no distance.** So a near clause without edits is an exact one. The
induction is on both texts at once, and each step asks for equal first characters. -/
theorem distance_eq_zero_iff (as bs : List Char) : distance as bs = 0 ↔ as = bs := by
  induction as generalizing bs with
  | nil => rw [distance_nil_left, List.length_eq_zero_iff, eq_comm]
  | cons a as ih =>
    cases bs with
    | nil => simp [distance_nil_right]
    | cons b bs =>
      rw [← Nat.le_zero, distance_cons_cons_le_zero_iff, Nat.le_zero, ih, List.cons.injEq]

theorem distance_self (cs : List Char) : distance cs cs = 0 :=
  (distance_eq_zero_iff cs cs).mpr rfl

/-- **`withinEdits` decides a bound on the distance.** It gives up as soon as its budget is spent,
and where it does, every alignment that it has not tried costs more than was left. -/
theorem withinEdits_iff (budget : Nat) (as bs : List Char) :
    withinEdits budget as bs = true ↔ distance as bs ≤ budget := by
  fun_induction withinEdits budget as bs with
  | case1 budget bs => simp [distance_nil_left]
  | case2 budget as hne => simp [distance_nil_right]
  | case3 a as b bs ih =>
    rw [distance_cons_cons_le_zero_iff, Bool.and_eq_true, beq_iff_eq, ih]
  | case4 budget a as b bs ihBoth ihReplaced ihLeft ihRight ihSwapped =>
    rw [Nat.succ_eq_add_one, distance_cons_cons_le_succ_iff]
    simp only [Bool.or_eq_true, Bool.and_eq_true, beq_iff_eq, ihBoth, ihReplaced, ihLeft, ihRight,
      or_assoc]
    refine or_congr_right <| or_congr_right <| or_congr_right <| or_congr_right ?_
    clear ihBoth ihReplaced ihLeft ihRight
    cases as with
    | nil => simp [SwappedWithin]
    | cons c as =>
      cases bs with
      | nil => simp [SwappedWithin]
      | cons d bs => simp [SwappedWithin, and_assoc, ihSwapped]

end Gazetteer.Index

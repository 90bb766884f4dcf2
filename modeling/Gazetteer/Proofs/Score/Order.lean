import Gazetteer.Score

/-!
# The two orders of scores

The total order compares the places of bit patterns, and so it is a linear order of all of them. The
numeric order is an order by rank **among numbers only** (`exceeds_of_ordered`): what is no number
compares with nothing.

What is no number has one pattern among the scores and many among all patterns of 32 bits, of either
sign. `comparePatterns` and `exceedsPatterns` are the two orders of all of them, and those of scores
are parts of these (`compareTotal_eq_comparePatterns`, `exceeds_eq_exceedsPatterns`).
-/

namespace Gazetteer.Score

open Std

theorem compareTotal_eq_compareOn : compareTotal = compareOn totalRank := by
  funext x y
  simp only [compareTotal, compareOn, compare, compareOfLessAndEq]
  repeat' split
  all_goals first | rfl | omega

instance : TransCmp compareTotal := by
  rw [compareTotal_eq_compareOn]
  infer_instance

/-- Where the total order ties, the patterns have one place. -/
theorem totalRank_eq_of_compareTotal {x y : Score} (h : compareTotal x y = .eq) :
    totalRank x = totalRank y := by
  rw [compareTotal_eq_compareOn] at h
  exact LawfulEqCmp.eq_of_compare h

/-- The place of a bit pattern in the total order, whether or not a score has it. -/
def patternRank (bits : UInt32) : Int :=
  if 2147483648 ≤ bits.toNat then -((bits.toNat % 2147483648 : Nat) : Int) - 1
  else (bits.toNat % 2147483648 : Nat)

/-- The total order of all bit patterns. -/
def comparePatterns : UInt32 → UInt32 → Ordering :=
  compareOn patternRank

instance : TransCmp comparePatterns :=
  inferInstanceAs (TransCmp (compareOn patternRank))

/-- **Scores are ordered as their patterns are.** The place of a score is that of its pattern, which
for what is no number is the one pattern that it has. -/
theorem compareTotal_eq_comparePatterns (x y : Score) :
    compareTotal x y = comparePatterns x.toBits y.toBits := by
  have hrank : ∀ z : Score, totalRank z = patternRank z.toBits := by
    intro z
    simp only [totalRank, negative, magnitude, patternRank, decide_eq_true_eq]
  rw [compareTotal_eq_compareOn, comparePatterns, compareOn, compareOn, hrank x, hrank y]

/-- The place of a bit pattern in the numeric order. -/
def patternNumber (bits : UInt32) : Int :=
  if 2147483648 ≤ bits.toNat then -((bits.toNat % 2147483648 : Nat) : Int)
  else (bits.toNat % 2147483648 : Nat)

/-- The numeric order of all bit patterns: those that are no number, of which there are many, are in
no place. -/
def exceedsPatterns (x y : UInt32) : Bool :=
  !decide (0x7F800000 < x.toNat % 2147483648) && !decide (0x7F800000 < y.toNat % 2147483648) &&
    decide (patternNumber y < patternNumber x)

/-- **Scores exceed each other as their patterns do**, and where one is no number neither does. -/
theorem exceeds_eq_exceedsPatterns (x y : Score) :
    exceeds x y = exceedsPatterns x.toBits y.toBits := by
  have hrank : ∀ z : Score, numericRank z = patternNumber z.toBits := by
    intro z
    simp only [numericRank, negative, magnitude, patternNumber, decide_eq_true_eq]
  rw [exceeds, hrank x, hrank y]
  rfl

theorem exceedsPatterns_self (x : UInt32) : exceedsPatterns x x = false := by
  simp [exceedsPatterns]

/-- **Exceeding is transitive**, also where some patterns are no number: these exceed nothing and
nothing exceeds them. -/
theorem exceedsPatterns_trans {x y z : UInt32} (hxy : exceedsPatterns x y = true)
    (hyz : exceedsPatterns y z = true) : exceedsPatterns x z = true := by
  simp only [exceedsPatterns, Bool.and_eq_true, decide_eq_true_eq] at hxy hyz ⊢
  exact ⟨⟨hxy.1.1, hyz.1.2⟩, Int.lt_trans hyz.2 hxy.2⟩

/-- Among numbers the numeric order compares ranks, which are linearly ordered. -/
theorem exceeds_of_ordered {x y : Score} (hx : unordered x = false) (hy : unordered y = false) :
    exceeds x y = decide (numericRank y < numericRank x) := by
  rw [exceeds, hx, hy]
  rfl

theorem exceeds_self (x : Score) : exceeds x x = false := by
  simp [exceeds]

/-- Patterns with one place are one number, or none. The converse fails for zero, which has a place
for each sign and one rank. -/
theorem numericRank_eq_of_totalRank_eq {x y : Score} (h : totalRank x = totalRank y) :
    numericRank x = numericRank y := by
  simp only [totalRank] at h
  simp only [numericRank]
  cases hx : negative x <;> cases hy : negative y <;>
    simp only [hx, hy, if_true, Bool.false_eq_true, if_false] at h ⊢ <;> omega

/-- **What the total order ties, neither exceeds the other.** So sorting by places does not
contradict comparing numbers. -/
theorem exceeds_eq_false_of_totalRank_eq {x y : Score} (h : totalRank x = totalRank y) :
    exceeds x y = false := by
  simp [exceeds, numericRank_eq_of_totalRank_eq h]

end Gazetteer.Score

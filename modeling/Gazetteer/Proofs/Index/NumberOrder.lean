import Gazetteer.Proofs.Index.Ranking
import Gazetteer.Proofs.Query.Division
import Mathlib.Data.Nat.Digits.Defs

/-!
# The order of house numbers

An ascending number key should order values by the number that each begins with, of however many
digits, and put values that begin with no digit last (`NumberOrder`). **It does so exactly if one of
the two numbers fits into a key, or the values begin alike** (`compareKey_numberOrder_iff`). A
number that does not fit is treated as if it were none: it comes after all that fit, which is where
it belongs, but it ties with every other one that does not fit, and with values that have no number
at all (`not_numberOrder_long`).

The key is a decision procedure for `Begins`, the relation between a value and its number, up to the
greatest key (`numberKey_eq_some_iff`); the law is then the four ways in which two values can have
numbers or not.
-/

namespace Gazetteer

namespace Text

/-- The digit that an ASCII digit stands for. -/
def digitOf (c : Char) : Nat :=
  c.toNat - '0'.toNat

/-- **A run of digits writes a number in base ten**, the most significant digit first. Leading zeros
are digits of it and change nothing. -/
theorem digitsValue_eq_ofDigits (digits : List Char) :
    digitsValue digits = Nat.ofDigits 10 (digits.reverse.map digitOf) := by
  rw [Nat.ofDigits_eq_foldr, List.foldr_map, List.foldr_reverse, digitsValue]
  congr 1
  funext n c
  exact Nat.add_comm _ _

end Text

namespace Index

open Text

/-! ## Numbers that values begin with -/

/-- **A value begins with a number**: without the blanks around it, it is a run of ASCII digits that
cannot be longer, at least one of them, and they write the number in base ten. -/
def Begins (value : String) (n : Nat) : Prop :=
  ∃ digits after, trimChars value.toList = digits ++ after ∧
    LongestRun isAsciiDigit digits after ∧ digits ≠ [] ∧
    n = Nat.ofDigits 10 (digits.reverse.map digitOf)

/-- **A value begins with a number that fits into a key.** -/
def Fits (value : String) : Prop :=
  ∃ n, Begins value n ∧ n ≤ greatestKey

/-- Two values begin with the same number, or neither with any. -/
def BeginAlike (a b : String) : Prop :=
  ∀ n, Begins a n ↔ Begins b n

/-- The longest run of digits at the start of a value is the one that taking digits leaves, so that
beginning with a number can be computed. -/
theorem begins_iff {value : String} {n : Nat} :
    Begins value n ↔ (trimChars value.toList).takeWhile isAsciiDigit ≠ [] ∧
      digitsValue ((trimChars value.toList).takeWhile isAsciiDigit) = n := by
  constructor
  · rintro ⟨digits, after, hvalue, hrun, hne, rfl⟩
    rw [hvalue, hrun.takeWhile_eq]
    exact ⟨hne, digitsValue_eq_ofDigits digits⟩
  · rintro ⟨hne, rfl⟩
    exact ⟨_, _, List.takeWhile_append_dropWhile.symm, longestRun_takeWhile _ _, hne,
      digitsValue_eq_ofDigits _⟩

/-- A value begins with one number at most. -/
theorem Begins.unique {value : String} {m n : Nat} (hm : Begins value m) (hn : Begins value n) :
    m = n :=
  (begins_iff.mp hm).2.symm.trans (begins_iff.mp hn).2

/-- **The key of a value is the number that it begins with**, if that fits. All further facts about
keys go by this one. -/
theorem numberKey_eq_some_iff {value : String} {n : Nat} :
    numberKey value = some n ↔ Begins value n ∧ n ≤ greatestKey := by
  rw [begins_iff, numberKey]
  by_cases hnone : (trimChars value.toList).takeWhile isAsciiDigit = []
  · simp [hnone]
  · simp only [hnone, if_false, ne_eq, not_false_eq_true, true_and]
    split
    next hfits =>
      rw [Option.some_inj]
      exact ⟨fun h => ⟨h, h ▸ hfits⟩, And.left⟩
    next hlong => exact iff_of_false nofun fun h => hlong (h.1 ▸ h.2)

/-- A value without a key begins with no digit, or with more than a key holds. The key does not tell
which, and this is where it goes wrong. -/
theorem numberKey_eq_none_iff {value : String} : numberKey value = none ↔ ¬ Fits value := by
  rw [Option.eq_none_iff_forall_ne_some, Fits, not_exists]
  exact forall_congr' fun n => not_congr numberKey_eq_some_iff

/-! ## The order -/

/-- **The order by numbers**: two values that begin with numbers compare as these do; one that
begins with a number comes before one that does not, and values without a number tie. -/
inductive NumberOrder (a b : String) : Ordering → Prop
  | both {m n : Nat} (ha : Begins a m) (hb : Begins b n) : NumberOrder a b (compare m n)
  | first {m : Nat} (ha : Begins a m) (hb : ∀ n, ¬ Begins b n) : NumberOrder a b .lt
  | second {n : Nat} (ha : ∀ m, ¬ Begins a m) (hb : Begins b n) : NumberOrder a b .gt
  | neither (ha : ∀ m, ¬ Begins a m) (hb : ∀ n, ¬ Begins b n) : NumberOrder a b .eq

variable {a b : String}

/-- Swapping the values swaps their order. -/
theorem NumberOrder.swap {order : Ordering} (h : NumberOrder a b order) :
    NumberOrder b a order.swap := by
  cases h with
  | both ha hb =>
    rw [Nat.compare_swap]
    exact .both hb ha
  | first ha hb => exact .second hb ha
  | second ha hb => exact .first hb ha
  | neither ha hb => exact .neither hb ha

/-- A value that fits comes before all that do not: their numbers are greater, or they have none. -/
theorem numberOrder_lt_of_fits {m : Nat} (ha : Begins a m) (hfits : m ≤ greatestKey)
    (hb : ¬ Fits b) :
    NumberOrder a b .lt := by
  by_cases hnumber : ∃ n, Begins b n
  · obtain ⟨n, hn⟩ := hnumber
    have hlt : m < n := Nat.lt_of_le_of_lt hfits (Nat.not_le.mp fun hle => hb ⟨n, hn, hle⟩)
    rw [← Nat.compare_eq_lt.mpr hlt]
    exact .both ha hn
  · exact .first ha (not_exists.mp hnumber)

/-- **Values tie by their numbers exactly if they begin alike.** -/
theorem numberOrder_eq_iff : NumberOrder a b .eq ↔ BeginAlike a b := by
  constructor
  · generalize hties : Ordering.eq = order
    rintro (⟨ha, hb⟩ | _ | _ | ⟨ha, hb⟩)
    · obtain rfl := Nat.compare_eq_eq.mp hties.symm
      exact fun n => ⟨fun h => h.unique ha ▸ hb, fun h => h.unique hb ▸ ha⟩
    · cases hties
    · cases hties
    · exact fun n => iff_of_false (ha n) (hb n)
  · intro halike
    by_cases hnumber : ∃ m, Begins a m
    · obtain ⟨m, hm⟩ := hnumber
      rw [← Nat.compare_eq_eq.mpr (rfl : m = m)]
      exact .both hm ((halike m).mp hm)
    · have hnone := not_exists.mp hnumber
      exact .neither hnone fun n hn => hnone n ((halike n).mpr hn)

/-- **Keys compare as numbers do** exactly if one of the values fits or both begin alike, and tie
otherwise. Two numbers that do not fit are both the missing key. -/
theorem numberOrder_compareKeys_iff (a b : String) :
    (NumberOrder a b (compareKeys (numberKey a) (numberKey b)) ↔ Fits a ∨ Fits b ∨ BeginAlike a b) ∧
      (Fits a ∨ Fits b ∨ compareKeys (numberKey a) (numberKey b) = .eq) := by
  cases ha : numberKey a with
  | some m =>
    obtain ⟨hm, hfits⟩ := numberKey_eq_some_iff.mp ha
    refine ⟨iff_of_true ?_ (Or.inl ⟨m, hm, hfits⟩), Or.inl ⟨m, hm, hfits⟩⟩
    cases hb : numberKey b with
    | some n =>
      rw [compareKeys, compareNat_eq_compare]
      exact .both hm (numberKey_eq_some_iff.mp hb).1
    | none => exact numberOrder_lt_of_fits hm hfits (numberKey_eq_none_iff.mp hb)
  | none =>
    have hunfit := numberKey_eq_none_iff.mp ha
    cases hb : numberKey b with
    | some n =>
      obtain ⟨hn, hfits⟩ := numberKey_eq_some_iff.mp hb
      exact ⟨iff_of_true (numberOrder_lt_of_fits hn hfits hunfit).swap
        (Or.inr (Or.inl ⟨n, hn, hfits⟩)),
        Or.inr (Or.inl ⟨n, hn, hfits⟩)⟩
    | none =>
      rw [or_iff_right hunfit, or_iff_right (numberKey_eq_none_iff.mp hb)]
      exact ⟨numberOrder_eq_iff, Or.inr (Or.inr rfl)⟩

/-- **An ascending number key orders addresses by their numbers** exactly if one of the two numbers
fits into a key, or the values begin alike; and where it does not, it ties.

A number that does not fit has no key, just as a value that does not begin with a number has none,
and what has no key stands last. So two addresses are told apart if at least one of them has a key.
If neither has one, they tie, which is right only if they begin with the same number or both with
none. -/
theorem compareKey_numberOrder_iff (a b : Address) :
    ((NumberOrder a.numberFirst b.numberFirst (compareKey (.ascending .streetNumber) a b) ↔
        Fits a.numberFirst ∨ Fits b.numberFirst ∨ BeginAlike a.numberFirst b.numberFirst) ∧
      (Fits a.numberFirst ∨ Fits b.numberFirst ∨ compareKey (.ascending .streetNumber) a b = .eq)) ∧
    ((NumberOrder a.flatNumber b.flatNumber (compareKey (.ascending .flatNumber) a b) ↔
        Fits a.flatNumber ∨ Fits b.flatNumber ∨ BeginAlike a.flatNumber b.flatNumber) ∧
      (Fits a.flatNumber ∨ Fits b.flatNumber ∨ compareKey (.ascending .flatNumber) a b = .eq)) :=
  ⟨numberOrder_compareKeys_iff a.numberFirst b.numberFirst,
    numberOrder_compareKeys_iff a.flatNumber b.flatNumber⟩

/-- A number one greater than the greatest key ties with no number at all, although it should come
first. -/
theorem not_numberOrder_long :
    compareKey (.ascending .streetNumber) { id := "b", numberFirst := "18446744073709551616" }
      { id := "a" } = .eq ∧
      NumberOrder "18446744073709551616" "" .lt ∧ ¬ NumberOrder "18446744073709551616" "" .eq := by
  have hlong : Begins "18446744073709551616" 18446744073709551616 := begins_iff.mpr (by decide)
  have hnone : ∀ n, ¬ Begins "" n := fun n h => (begins_iff.mp h).1 (by decide)
  refine ⟨by decide, .first hlong hnone, fun h => ?_⟩
  exact hnone _ ((numberOrder_eq_iff.mp h _).mp hlong)

end Index

end Gazetteer

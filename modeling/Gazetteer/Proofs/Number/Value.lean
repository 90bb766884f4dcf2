import Gazetteer.Proofs.Number.Bits

/-!
# The values of numbers

A finite number is its mantissa times a power of two under its sign (`Reading.value?`). The logic
compares numbers by their exponents first and by their mantissas then. Since no digit of a mantissa
is unused but at the least exponent, that is the order of the values (`Canonical.isLE_compare_iff`),
and so **numbers are compared as their values are** (`le_iff_value_le`). What lies between two
values has a value itself (`exists_value_of_between`): infinities lie outside of them, and what is
no number lies nowhere.
-/

namespace Gazetteer.Number

open Float.Model Float.Model.UnpackedFloat

/-- **The value of a number**, if it is finite. -/
def Reading.value? : Reading → Option ℚ
  | .finite negative mantissa exponent =>
    some ((if negative then -1 else 1) * (mantissa * 2 ^ exponent))
  | _ => none

namespace BinaryFormat

variable {f : BinaryFormat} {m n : Nat} {d e : Int}

/-- A number with the greater exponent is the greater. Its mantissa uses all digits, and the other
has no more digits than these. -/
theorem Canonical.value_lt (hm : f.Canonical m d) (hn : f.Canonical n e) (h : d < e) :
    (m * 2 ^ d : ℚ) < n * 2 ^ e := by
  have hdigits : (m : ℚ) < 2 ^ ((f.fractionBits : Int) + 1) := by exact_mod_cast hm.digits
  have hfull : (2 : ℚ) ^ (f.fractionBits : Int) ≤ n :=
    by exact_mod_cast hn.full (hm.least.trans_lt h)
  calc (m * 2 ^ d : ℚ)
      < 2 ^ ((f.fractionBits : Int) + 1) * 2 ^ d := mul_lt_mul_of_pos_right hdigits (by positivity)
    _ = 2 ^ ((f.fractionBits : Int) + 1 + d) := (zpow_add₀ two_ne_zero _ _).symm
    _ ≤ 2 ^ ((f.fractionBits : Int) + e) := zpow_le_zpow_right₀ one_le_two (by omega)
    _ = 2 ^ (f.fractionBits : Int) * 2 ^ e := zpow_add₀ two_ne_zero _ _
    _ ≤ n * 2 ^ e := mul_le_mul_of_nonneg_right hfull (by positivity)

/-- **Exponents first and mantissas then is the order of the values.** Equal exponents leave the
mantissas to compare, and different ones settle it. -/
theorem Canonical.isLE_compare_iff (hm : f.Canonical m d) (hn : f.Canonical n e) :
    ((compare d e).then (compare m n)).isLE = true ↔ (m * 2 ^ d : ℚ) ≤ n * 2 ^ e := by
  rcases lt_trichotomy d e with hlt | rfl | hgt
  · rw [compare_lt_iff_lt.mpr hlt]
    exact iff_of_true rfl (hm.value_lt hn hlt).le
  · rw [compare_eq_iff_eq.mpr rfl, Ordering.then, Nat.isLE_compare,
      mul_le_mul_iff_left₀ (by positivity), Nat.cast_le]
  · rw [compare_gt_iff_gt.mpr hgt]
    exact iff_of_false Bool.false_ne_true (hn.value_lt hm hgt).not_ge

end BinaryFormat

/-- A double of the logic has its mantissa and exponent as doubles have them. -/
theorem canonical_of_unpack {x : Float} {sign : Sign} {mantissa : Nat} {exponent : Int}
    {hpos : 0 < mantissa} (h : x.toModel.unpack = .finite sign mantissa exponent hpos) :
    BinaryFormat.double.Canonical mantissa exponent := by
  have hread : readDouble x = .finite (isNegative sign) mantissa exponent := by
    rw [readDouble_eq, h, Reading.ofUnpacked]
  exact (bits_of_readDouble hread).1

theorem le_iff_unpack (x y : Float) : x ≤ y ↔ x.toModel.unpack.le y.toModel.unpack = true :=
  decide_eq_true_iff

/-- The value of a number of the logic, if it is finite. -/
def unpackedValue? : UnpackedFloat → Option ℚ
  | .zero _ => some 0
  | .finite .positive mantissa exponent _ => some (mantissa * 2 ^ exponent)
  | .finite .negative mantissa exponent _ => some (-(mantissa * 2 ^ exponent))
  | _ => none

/-- The value that is read from bits is the value of the unpacked form. -/
theorem value?_readDouble (x : Float) :
    (readDouble x).value? = unpackedValue? x.toModel.unpack := by
  rw [readDouble_eq]
  rcases x.toModel.unpack with _ | _ | sign | ⟨sign, mantissa, exponent, hpos⟩
  · rfl
  · rfl
  · simp [Reading.ofUnpacked, Reading.value?, unpackedValue?]
  · cases sign <;> simp [Reading.ofUnpacked, Reading.value?, unpackedValue?, isNegative]

theorem value_pos {mantissa : Nat} (hpos : 0 < mantissa) (exponent : Int) :
    (0 : ℚ) < mantissa * 2 ^ exponent := by
  positivity

/-- **Numbers are compared as their values are.** The cases are those of the two signs and of zero,
and only where both signs are the same do exponents and mantissas count. -/
theorem le_iff_value_le {x y : Float} {u v : ℚ} (hx : (readDouble x).value? = some u)
    (hy : (readDouble y).value? = some v) : x ≤ y ↔ u ≤ v := by
  rw [value?_readDouble] at hx hy
  rw [le_iff_unpack, UnpackedFloat.le]
  -- either side is zero, negative or positive; unless both are of one sign, the signs decide
  rcases hxu : x.toModel.unpack with _ | _ | _ | ⟨_ | _, m, d, hm⟩ <;>
    rw [hxu] at hx <;> cases hx <;>
    rcases hyu : y.toModel.unpack with _ | _ | _ | ⟨_ | _, n, e, hn⟩ <;> rw [hyu] at hy <;> cases hy
  · exact iff_of_true rfl le_rfl
  · exact iff_of_false Bool.false_ne_true (neg_lt_zero.mpr (value_pos hn e)).not_ge
  · exact iff_of_true rfl (value_pos hn e).le
  · exact iff_of_true rfl (neg_lt_zero.mpr (value_pos hm d)).le
  · rw [neg_le_neg_iff, ← (canonical_of_unpack hyu).isLE_compare_iff (canonical_of_unpack hxu)]
    change ((compare d e).then (compare m n)).swap.isLE = true ↔ _
    rw [Ordering.swap_then, Int.compare_swap, Nat.compare_swap]
  · exact iff_of_true rfl ((neg_lt_zero.mpr (value_pos hm d)).trans (value_pos hn e)).le
  · exact iff_of_false Bool.false_ne_true (value_pos hm d).not_ge
  · exact iff_of_false Bool.false_ne_true
      ((neg_lt_zero.mpr (value_pos hn e)).trans (value_pos hm d)).not_ge
  · exact (canonical_of_unpack hxu).isLE_compare_iff (canonical_of_unpack hyu)

/-! ## What has no value -/

section

variable {a : UnpackedFloat} {v : ℚ}

/-- No value lies below negative infinity. The next two lemmas are the other ways in which a
comparison with no value fails. -/
theorem not_le_negative_infinity (h : unpackedValue? a = some v) :
    a.le (.infinity .negative) = false := by
  cases a with
  | infinity _ => cases h
  | notANumber => rfl
  | zero _ => rfl
  | finite _ _ _ _ => rfl

theorem positive_infinity_not_le (h : unpackedValue? a = some v) :
    (infinity .positive).le a = false := by
  cases a with
  | infinity _ => cases h
  | notANumber => rfl
  | zero _ => rfl
  | finite _ _ _ _ => rfl

theorem not_le_notANumber (a : UnpackedFloat) : a.le .notANumber = false := by
  rcases a with (_ | _) | _ | _ | ⟨_ | _, _, _, _⟩ <;> rfl

end

/-- **What lies between two values has a value.** So a range test between two finite bounds leaves
out infinities and what is no number. -/
theorem exists_value_of_between {x y z : Float} {u v : ℚ} (hx : (readDouble x).value? = some u)
    (hz : (readDouble z).value? = some v) (hxy : x ≤ y) (hyz : y ≤ z) :
    ∃ w, (readDouble y).value? = some w := by
  rw [value?_readDouble] at hx hz ⊢
  rw [le_iff_unpack] at hxy hyz
  rcases hyu : y.toModel.unpack with (_ | _) | _ | _ | ⟨_ | _, m, d, hm⟩ <;> rw [hyu] at hxy hyz
  · exact absurd hxy (Bool.eq_false_iff.mp (not_le_negative_infinity hx))
  · exact absurd hyz (Bool.eq_false_iff.mp (positive_infinity_not_le hz))
  · exact absurd hxy (Bool.eq_false_iff.mp (not_le_notANumber _))
  · exact ⟨_, rfl⟩
  · exact ⟨_, rfl⟩
  · exact ⟨_, rfl⟩

end Gazetteer.Number

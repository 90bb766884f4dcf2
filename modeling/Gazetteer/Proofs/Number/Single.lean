import Mathlib

/-!
# Sums of singles from one up

The logic says what adding two singles does: the sum of their mantissas is cut to 24 binary digits
and rounded, ties to even. Two readings of that, for positive numbers of full mantissas. **The
numbers from one up, with infinity, are closed under addition** (`fromOne_add`), since neither
cutting nor rounding takes the leading digit away. And **naturals of at most 24 digits are added
exactly** (`add_whole`). Both are then facts about bits, since packing such numbers loses nothing
but exponents that do not fit.
-/

namespace Gazetteer.Number

open Float.Model Float.Model.UnpackedFloat

/-- The format of singles. -/
abbrev single : Format := .binary32

/-! ## Cutting digits -/

/-- Shifting cuts digits off the mantissa, whatever becomes of the digits that are cut: these end up
in the two bits that rounding looks at, and are no part of this statement. -/
theorem mantissa_repeat_shiftRightOne (em : ExtendedMantissa) (count : Nat) :
    (count.repeat ExtendedMantissa.shiftRightOne em).mantissa = em.mantissa / 2 ^ count := by
  induction count with
  | zero => simp [Nat.repeat]
  | succ count ih =>
    rw [Nat.repeat, ExtendedMantissa.shiftRightOne, ih, Nat.div_div_eq_div_mul, Nat.pow_succ]

/-- Zeros are cut without a trace. Both rounding bits stay clear, so that rounding has nothing to do
afterwards; an exact sum is exact because of this. -/
theorem repeat_shiftRightOne_exact (mantissa count : Nat) :
    count.repeat ExtendedMantissa.shiftRightOne ⟨mantissa * 2 ^ count, false, false⟩ =
      ⟨mantissa, false, false⟩ := by
  induction count generalizing mantissa with
  | zero => simp [Nat.repeat]
  | succ count ih =>
    have hdouble : mantissa * 2 ^ (count + 1) = mantissa * 2 * 2 ^ count := by
      rw [Nat.pow_succ, Nat.mul_assoc, Nat.mul_comm 2]
    rw [Nat.repeat, hdouble, ih]
    simp [ExtendedMantissa.shiftRightOne]

/-- Rounding a mantissa never makes it smaller: it keeps the mantissa or adds one to it. -/
theorem le_roundedMantissa (em : ExtendedMantissa) : em.mantissa ≤ em.roundedMantissa := by
  obtain ⟨mantissa, round, sticky⟩ := em
  cases round <;> cases sticky <;>
    simp [ExtendedMantissa.roundedMantissa, ExtendedMantissa.accuracy, Accuracy.roundToNearestEven]

/-- A mantissa of 24 digits or more is cut to 24. The bound on the exponent rules out subnormal
numbers, for which more digits would have to go. -/
theorem shiftToTargetExponent_eq {mantissa : Nat} {exponent : Int} (accuracy : Accuracy)
    (hm : 23 ≤ mantissa.log2) (he : -149 ≤ exponent) :
    shiftToTargetExponent single mantissa exponent accuracy =
      ((mantissa.log2 - 23).repeat ExtendedMantissa.shiftRightOne
        (.ofMantissaAndAccuracy mantissa accuracy), exponent + (mantissa.log2 - 23 : Nat)) := by
  have htarget : single.targetExponent (totalExponent mantissa exponent) - exponent =
      (mantissa.log2 - 23 : Nat) := by
    simp only [Format.targetExponent, totalExponent, Format.mantissaBits, Format.minExponent]
    omega
  rw [shiftToTargetExponent, shiftToExponent, htarget]
  rfl

theorem ne_zero_of_le_log2 {n : Nat} (h : 23 ≤ n.log2) : n ≠ 0 := by
  rintro rfl
  simp at h

/-- What is left of a long mantissa after the cut has 24 digits, its leading one among them. -/
theorem log2_cut {n : Nat} (h : 23 ≤ n.log2) : (n / 2 ^ (n.log2 - 23)).log2 = 23 := by
  have hn := ne_zero_of_le_log2 h
  have hpow : (0 : Nat) < 2 ^ (n.log2 - 23) := Nat.two_pow_pos _
  have hlow : 2 ^ 23 ≤ n / 2 ^ (n.log2 - 23) := by
    rw [Nat.le_div_iff_mul_le hpow, ← Nat.pow_add, show 23 + (n.log2 - 23) = n.log2 by omega]
    exact Nat.log2_self_le hn
  refine (Nat.log2_eq_iff (by omega)).mpr ⟨hlow, ?_⟩
  rw [Nat.div_lt_iff_lt_mul hpow, ← Nat.pow_add, show 23 + 1 + (n.log2 - 23) = n.log2 + 1 by omega]
  exact Nat.lt_log2_self

/-! ## Rounding -/

/-- A mantissa cut to 24 digits and rounded; rounding up may have brought a digit more. -/
def rounded (mantissa : Nat) : Nat :=
  ((mantissa.log2 - 23).repeat ExtendedMantissa.shiftRightOne
    (.ofMantissaAndAccuracy mantissa .exact)).roundedMantissa

/-- Rounding up may carry into a further digit, but it takes none away: the mantissa is cut to 24
digits first and does not get smaller after that. -/
theorem le_log2_rounded {mantissa : Nat} (h : 23 ≤ mantissa.log2) :
    23 ≤ (rounded mantissa).log2 := by
  have hle := le_roundedMantissa ((mantissa.log2 - 23).repeat ExtendedMantissa.shiftRightOne
    (.ofMantissaAndAccuracy mantissa .exact))
  rw [mantissa_repeat_shiftRightOne] at hle
  have hcut := Nat.log2_self_le (ne_zero_of_le_log2 (Nat.le_of_eq (log2_cut h).symm))
  rw [log2_cut h] at hcut
  have hbound : 2 ^ 23 ≤ rounded mantissa := Nat.le_trans hcut hle
  exact (Nat.le_log2 (by omega)).mpr hbound

/-- **The rounding of a positive number** of 24 digits or more is a number of 24 digits. A carry out
of the 24th place is cut off again, this time without any rounding, and goes into the exponent. -/
theorem round_eq {mantissa : Nat} {exponent : Int} (hm : 23 ≤ mantissa.log2)
    (he : -149 ≤ exponent) :
    round single .positive mantissa exponent =
      .finite .positive (rounded mantissa / 2 ^ ((rounded mantissa).log2 - 23))
        (exponent + (mantissa.log2 - 23 : Nat) + ((rounded mantissa).log2 - 23 : Nat))
        (Nat.pos_of_ne_zero
          (ne_zero_of_le_log2 (Nat.le_of_eq (log2_cut (le_log2_rounded hm)).symm))) := by
  have htarget : exponent - single.targetExponent (totalExponent mantissa exponent) ≤ 0 := by
    simp only [Format.targetExponent, totalExponent, Format.mantissaBits, Format.minExponent]
    omega
  have hrounded := le_log2_rounded hm
  have hcut := shiftToTargetExponent_eq .exact hm he
  have hfirst : -149 ≤ exponent + (mantissa.log2 - 23 : Nat) := by omega
  have hcarry := shiftToTargetExponent_eq .exact hrounded hfirst
  have hfold : ((mantissa.log2 - 23).repeat ExtendedMantissa.shiftRightOne
      (.ofMantissaAndAccuracy mantissa .exact)).roundedMantissa = rounded mantissa := rfl
  simp only [UnpackedFloat.round, decreaseExponent, Int.toNat_of_nonpos htarget, Nat.shiftLeft_zero,
    Int.natCast_zero, Int.sub_zero, roundWithAccuracy, hcut, hfold, hcarry,
    mantissa_repeat_shiftRightOne]
  exact dif_neg (ne_zero_of_le_log2 (Nat.le_of_eq (log2_cut hrounded).symm))

/-- A positive number of 24 digits whose last is at least `2 ^ (-23)`, or infinity: these are the
numbers from one up. -/
inductive FromOne : UnpackedFloat → Prop
  | infinity : FromOne (.infinity .positive)
  | finite {mantissa : Nat} {exponent : Int} (positive : 0 < mantissa) (full : mantissa.log2 = 23)
      (least : -23 ≤ exponent) : FromOne (.finite .positive mantissa exponent positive)

/-- **Rounding keeps the leading digit.** So a number that is at least one before it is rounded is
at least one afterwards, and this is all that the closure of sums needs to know of rounding. -/
theorem round_fromOne {mantissa : Nat} {exponent : Int} (hm : 23 ≤ mantissa.log2)
    (he : -23 ≤ exponent) : FromOne (round single .positive mantissa exponent) := by
  rw [round_eq hm (by omega)]
  exact .finite _ (log2_cut (le_log2_rounded hm)) (by omega)

/-- Zeros at the end of a number add to its digits. -/
theorem log2_mul_two_pow {n : Nat} (hn : n ≠ 0) (count : Nat) :
    (n * 2 ^ count).log2 = n.log2 + count := by
  induction count with
  | zero => simp
  | succ count ih =>
    rw [Nat.pow_succ, ← Nat.mul_assoc, Nat.mul_comm, Nat.log2_two_mul, ih, Nat.add_assoc]
    exact Nat.mul_ne_zero hn (Nat.ne_of_gt (Nat.two_pow_pos _))

/-- **A number of 24 digits is its own rounding**, however many zeros follow them. Its exponent goes
up by as many places as there are zeros to cut. -/
theorem round_exact {mantissa count : Nat} {exponent : Int} (hm : mantissa.log2 = 23)
    (he : -149 ≤ exponent) (hpos : 0 < mantissa) :
    round single .positive (mantissa * 2 ^ count) exponent =
      .finite .positive mantissa (exponent + count) hpos := by
  have hlog : (mantissa * 2 ^ count).log2 = 23 + count := by
    rw [log2_mul_two_pow (by omega), hm]
  have hrounded : rounded (mantissa * 2 ^ count) = mantissa := by
    rw [rounded, hlog, Nat.add_sub_cancel_left, ExtendedMantissa.ofMantissaAndAccuracy,
      repeat_shiftRightOne_exact]
    rfl
  rw [round_eq (by omega) he]
  congr 1
  · rw [hrounded, hm, Nat.sub_self, Nat.pow_zero, Nat.div_one]
  · rw [hrounded, hm, hlog]
    omega

/-! ## Sums -/

/-- The sum of two positive numbers is the rounding of the sum of their mantissas under one
exponent. -/
theorem add_finite {m n : Nat} {d e : Int} (hm : 0 < m) (hn : 0 < n) :
    add single (.finite .positive m d hm) (.finite .positive n e hn) =
      round single .positive (m * 2 ^ (d - min d e).toNat + n * 2 ^ (e - min d e).toNat)
        (min d e) := by
  have hpositive : (0 : Int) < (m * 2 ^ (d - min d e).toNat + n * 2 ^ (e - min d e).toNat : Nat) :=
    Int.ofNat_lt.mpr (Nat.add_pos_left (Nat.mul_pos hm (Nat.two_pow_pos _)) _)
  simp only [UnpackedFloat.add, decreaseExponent, Sign.apply, Nat.shiftLeft_eq, ← Int.natCast_add,
    UnpackedFloat.normalize, Int.compare_eq_gt.mpr hpositive, Int.toNat_natCast]

/-- **The numbers from one up are closed under addition.** Each summand alone has a digit at or
above the place of one; under the common exponent the sum has it too, and rounding keeps it. -/
theorem fromOne_add {x y : UnpackedFloat} (hx : FromOne x) (hy : FromOne y) :
    FromOne (add single x y) := by
  cases hx with
  | infinity => cases hy <;> exact .infinity
  | @finite m d hm hfull hleast =>
    cases hy with
    | infinity => exact .infinity
    | @finite n e hn hfull' hleast' =>
      rw [add_finite]
      refine round_fromOne ?_ (by omega)
      have hdigits : m ≤ m * 2 ^ (d - min d e).toNat + n * 2 ^ (e - min d e).toNat :=
        Nat.le_trans (Nat.le_mul_of_pos_right _ (Nat.two_pow_pos _)) (Nat.le_add_right _ _)
      have hleading : 2 ^ 23 ≤ m := hfull ▸ Nat.log2_self_le (Nat.ne_of_gt hm)
      exact (Nat.le_log2 (by omega)).mpr (Nat.le_trans hleading hdigits)

/-- Zero adds nothing, and it does so without rounding the other summand. -/
theorem zero_add {x : UnpackedFloat} (h : FromOne x) :
    UnpackedFloat.add single (.zero .positive) x = x := by
  cases h <;> rfl

/-- A natural as a number of 24 digits, if it has no more. -/
def whole (n : Nat) : UnpackedFloat :=
  if h : n = 0 then .zero .positive
  else .finite .positive (n * 2 ^ (23 - n.log2)) (-(23 - n.log2 : Nat))
    (Nat.mul_pos (Nat.pos_of_ne_zero h) (Nat.two_pow_pos _))

/-- The digits of a natural are followed by as many zeros as bring them to 24. -/
theorem log2_whole {n : Nat} (hpos : n ≠ 0) (hn : n < 2 ^ 24) :
    (n * 2 ^ (23 - n.log2)).log2 = 23 := by
  have hdigits : n.log2 < 24 := (Nat.log2_lt hpos).mpr hn
  rw [log2_mul_two_pow hpos]
  omega

/-- Two naturals are added under the exponent of the shorter one. Their sum, filled up with zeros in
the same way, is then a number of 24 digits, and so its own rounding. -/
theorem add_whole_of_ne_zero {m n : Nat} (hm : m ≠ 0) (hn : n ≠ 0) (hsum : m + n < 2 ^ 24) :
    add single (whole m) (whole n) = whole (m + n) := by
  have hne : m + n ≠ 0 := by omega
  have hlogs : m.log2 ≤ (m + n).log2 ∧ n.log2 ≤ (m + n).log2 :=
    ⟨(Nat.le_log2 hne).mpr (Nat.le_trans (Nat.log2_self_le hm) (Nat.le_add_right m n)),
      (Nat.le_log2 hne).mpr (Nat.le_trans (Nat.log2_self_le hn) (Nat.le_add_left n m))⟩
  have hdigits : (m + n).log2 < 24 := (Nat.log2_lt hne).mpr hsum
  -- The common exponent is that of the summand with fewer digits; the sum needs a greater one at
  -- most.
  generalize hk : 23 - m.log2 = k
  generalize hl : 23 - n.log2 = l
  generalize hj : 23 - (m + n).log2 = j
  have hmin : min (-(k : Int)) (-(l : Int)) = -(max k l : Nat) := by omega
  have hmantissas : m * 2 ^ k * 2 ^ (-(k : Int) - -(max k l : Nat)).toNat +
      n * 2 ^ l * 2 ^ (-(l : Int) - -(max k l : Nat)).toNat =
      (m + n) * 2 ^ j * 2 ^ (max k l - j) := by
    rw [Nat.mul_assoc, Nat.mul_assoc, Nat.mul_assoc, ← Nat.pow_add, ← Nat.pow_add, ← Nat.pow_add,
      show k + (-(k : Int) - -(max k l : Nat)).toNat = max k l by omega,
      show l + (-(l : Int) - -(max k l : Nat)).toNat = max k l by omega,
      show j + (max k l - j) = max k l by omega, ← Nat.add_mul]
  have hfull := log2_whole hne hsum
  rw [hj] at hfull
  simp only [whole, hm, hn, hne, dif_neg, not_false_eq_true, hk, hl, hj]
  rw [add_finite, hmin, hmantissas, round_exact hfull (by omega)
    (Nat.mul_pos (Nat.pos_of_ne_zero hne) (Nat.two_pow_pos _))]
  congr 1
  omega

/-- **Naturals of at most 24 digits are added exactly.** The bound is on the sum, which is all that
has to fit; zero is added for itself because it has no leading digit. -/
theorem add_whole {m n : Nat} (h : m + n < 2 ^ 24) :
    UnpackedFloat.add single (whole m) (whole n) = whole (m + n) := by
  by_cases hm : m = 0
  · subst hm
    rw [Nat.zero_add]
    by_cases hn : n = 0
    · subst hn
      rfl
    · rw [whole, whole, dif_pos rfl, dif_neg hn]
      rfl
  · by_cases hn : n = 0
    · subst hn
      rw [Nat.add_zero, whole, whole, dif_pos rfl, dif_neg hm]
      rfl
    · exact add_whole_of_ne_zero hm hn h

/-! ## Bits -/

/-- Packing puts the sign in front of everything else, where unpacking finds it. -/
theorem unpackSign_packComponents {spec : Format} {sign : Sign}
    {exponent : BitVec spec.exponentBits} {mantissa : BitVec spec.mantissaBitsWithoutImplicit} :
    unpackSign (packComponents spec sign exponent mantissa) = sign.toBitVec := by
  refine BitVec.eq_of_getLsbD_eq fun i hi => ?_
  obtain rfl : i = 0 := by omega
  simp [unpackSign, packComponents, BitVec.getLsbD_append, BitVec.getElem_append]

/-- A leading digit that is left out of the bits is put back: it is known to be a one in every
number that is not subnormal. -/
theorem toNat_append_mantissa {mantissa : Nat} (hfull : mantissa.log2 = 23) :
    (1#1 ++ BitVec.ofNat 23 mantissa).toNat = mantissa := by
  obtain ⟨hlow, hhigh⟩ := (Nat.log2_eq_iff (by rintro rfl; simp at hfull)).mp hfull
  rw [BitVec.toNat_append, ← Nat.shiftLeft_add_eq_or_of_lt (BitVec.isLt _)]
  simp only [BitVec.toNat_ofNat, Nat.shiftLeft_eq]
  omega

/-- The bits of a number of 24 digits: its exponent, and its digits but the leading one. From the
exponent 105 on the number lies beyond the greatest single, and packing makes it infinite. -/
theorem pack_finite {mantissa : Nat} {exponent : Int} (hpos : 0 < mantissa)
    (hfull : mantissa.log2 = 23) (hleast : -149 ≤ exponent) :
    pack single (.finite .positive mantissa exponent hpos) =
      if exponent ≤ 104 then
        packComponents single .positive (BitVec.ofNat 8 (exponent + 150).toNat)
          (BitVec.ofNat 23 mantissa)
      else packedInfinity single .positive := by
  have hbiased : (exponent + single.exponentBias + (23 : Nat)).toNat = (exponent + 150).toNat := by
    simp only [Format.exponentBias]
    omega
  simp only [UnpackedFloat.pack, hfull, hbiased]
  by_cases hfits : exponent ≤ 104
  · rw [if_neg (by omega), if_pos hfits]
    rfl
  · rw [if_pos (by omega), if_neg hfits]

/-- Infinity is read back from its bits. -/
theorem unpack_packedInfinity :
    unpack single (packedInfinity single .positive) = .infinity .positive := by
  rw [packedInfinity, UnpackedFloat.unpack]
  simp only [unpackMantissa_packComponents, unpackExponent_packComponents,
    unpackSign_packComponents]
  rfl

/-- **A number of 24 digits is read back from its bits**, or infinity where its exponent does not
fit. The stored exponent is neither of the two that mean something else, zero and 255. -/
theorem unpack_pack_finite {mantissa : Nat} {exponent : Int} (hpos : 0 < mantissa)
    (hfull : mantissa.log2 = 23) (hleast : -149 ≤ exponent) :
    unpack single (pack single (.finite .positive mantissa exponent hpos)) =
      if exponent ≤ 104 then .finite .positive mantissa exponent hpos else .infinity .positive := by
  rw [pack_finite hpos hfull hleast]
  split
  next hfits =>
    have hfield : (BitVec.ofNat 8 (exponent + 150).toNat).toNat = (exponent + 150).toNat := by
      rw [BitVec.toNat_ofNat]
      omega
    have hother : ∀ field : BitVec 8, field.toNat ≠ (exponent + 150).toNat →
        BitVec.ofNat 8 (exponent + 150).toNat ≠ field := by
      intro field hne h
      exact hne (by rw [← h, hfield])
    -- The exponent field is neither that of infinity nor that of subnormal numbers.
    have hinfinite : BitVec.ofNat 8 (exponent + 150).toNat ≠ -1#8 := hother _ <| by
      rw [show (-1#8).toNat = 255 from rfl]
      omega
    have hsubnormal : BitVec.ofNat 8 (exponent + 150).toNat ≠ 0#8 := hother _ <| by
      rw [show (0#8).toNat = 0 from rfl]
      omega
    rw [UnpackedFloat.unpack]
    simp only [unpackMantissa_packComponents, unpackExponent_packComponents,
      unpackSign_packComponents, hinfinite, hsubnormal, if_false, hfield,
      toNat_append_mantissa hfull]
    congr 1
    simp only [Format.exponentBias]
    omega
  next => exact unpack_packedInfinity

theorem unpack_pack_zero : unpack single (pack single (.zero .positive)) = .zero .positive := by
  rfl

/-- Naturals of at most 24 digits are read back from their bits, so that a sum of them may be taken
on the naturals. -/
theorem unpack_pack_whole {n : Nat} (hn : n < 2 ^ 24) :
    unpack single (pack single (whole n)) = whole n := by
  by_cases hzero : n = 0
  · subst hzero
    rfl
  · rw [whole, dif_neg hzero,
      unpack_pack_finite _ (log2_whole hzero hn) (by omega), if_pos (by omega)]

/-- The numbers from one up are read back as such. One that is too great comes back as infinity,
which counts among them. -/
theorem fromOne_unpack_pack {x : UnpackedFloat} (h : FromOne x) :
    FromOne (unpack single (pack single x)) := by
  cases h with
  | infinity => exact unpack_packedInfinity ▸ .infinity
  | finite hpos hfull hleast =>
    rw [unpack_pack_finite hpos hfull (by omega)]
    split
    · exact .finite hpos hfull hleast
    · exact .infinity

/-- The pattern of a positive single as a number: the exponent above the 23 bits of the mantissa. -/
theorem toNat_packComponents (exponent : BitVec 8) (mantissa : BitVec 23) :
    (packComponents single .positive exponent mantissa).toNat =
      exponent.toNat * 8388608 + mantissa.toNat := by
  have hbits : (packComponents single .positive exponent mantissa).toNat =
      ((0#1 ++ exponent) ++ mantissa).toNat := rfl
  rw [hbits, BitVec.toNat_append, ← Nat.shiftLeft_add_eq_or_of_lt (BitVec.isLt _),
    BitVec.toNat_append, ← Nat.shiftLeft_add_eq_or_of_lt (BitVec.isLt _)]
  simp [Nat.shiftLeft_eq]

/-- The bits of a number of 24 digits count on from those of the least one. The leading digit is not
stored, and it is made up for by the exponent, which is stored one too great. -/
theorem toNat_pack_finite {mantissa : Nat} {exponent : Int} (hpos : 0 < mantissa)
    (hfull : mantissa.log2 = 23) (hleast : -149 ≤ exponent) (hfits : exponent ≤ 104) :
    (pack single (.finite .positive mantissa exponent hpos)).toNat =
      (exponent + 149).toNat * 8388608 + mantissa := by
  obtain ⟨hlow, hhigh⟩ := (Nat.log2_eq_iff (Nat.ne_of_gt hpos)).mp hfull
  rw [pack_finite hpos hfull hleast, if_pos hfits, toNat_packComponents, BitVec.toNat_ofNat,
    BitVec.toNat_ofNat]
  omega

/-- **The bits of the numbers from one up** lie between those of one and those of infinity.
Comparisons of scores go by these bits. -/
theorem toNat_pack_fromOne {x : UnpackedFloat} (h : FromOne x) :
    0x3F800000 ≤ (pack single x).toNat ∧ (pack single x).toNat ≤ 0x7F800000 := by
  have hinfinity : (packedInfinity single .positive).toNat = 0x7F800000 := by decide
  cases h with
  | infinity =>
    simp only [UnpackedFloat.pack, hinfinity]
    omega
  | @finite mantissa exponent hpos hfull hleast =>
    by_cases hfits : exponent ≤ 104
    · obtain ⟨hlow, hhigh⟩ := (Nat.log2_eq_iff (Nat.ne_of_gt hpos)).mp hfull
      rw [toNat_pack_finite hpos hfull (by omega) hfits]
      omega
    · rw [pack_finite hpos hfull (by omega), if_neg hfits, hinfinity]
      omega

end Gazetteer.Number

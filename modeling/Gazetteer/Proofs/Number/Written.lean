import Gazetteer.Number.Binary
import Gazetteer.Proofs.Number.Single

/-!
# Writing naturals as singles

A natural of at most 24 binary digits is written as it is: its leading digit fixes the exponent,
zeros fill the mantissa, and nothing is rounded. **So the single of such a natural is the natural**
(`singleOfInt_eq_whole`), as addition reads it.
-/

namespace Gazetteer.Number

open Float.Model Float.Model.UnpackedFloat

theorem roundedQuotient_one (n : Nat) : roundedQuotient n 1 = n := by
  simp [roundedQuotient, Nat.mod_one]

variable {n : Nat}

/-- With zeros behind it a natural has exactly 24 digits, which is what a mantissa of singles
has. -/
theorem whole_bounds (hpos : n ≠ 0) (hn : n < 2 ^ 24) :
    2 ^ 23 ≤ n * 2 ^ (23 - n.log2) ∧ n * 2 ^ (23 - n.log2) < 2 ^ 24 :=
  (Nat.log2_eq_iff (Nat.mul_ne_zero hpos (Nat.ne_of_gt (Nat.two_pow_pos _)))).mp
    (log2_whole hpos hn)

/-- The place of the last of 24 digits: as many zeros are put behind the natural as it lacks
digits. -/
theorem placeOf_single (hpos : n ≠ 0) (hn : n < 2 ^ 24) :
    BinaryFormat.single.placeOf n 1 = -(23 - n.log2 : Nat) := by
  have hdigits : n.log2 < 24 := (Nat.log2_lt hpos).mpr hn
  have hlog : Nat.log2 1 = 0 := by decide
  have hleading := (whole_bounds hpos hn).1
  have hleast : (2 : Int) - (Nat.pow 2 (8 - 1) : Nat) - (23 : Nat) = -149 := by decide
  simp only [BinaryFormat.placeOf, BinaryFormat.single, BinaryFormat.leastExponent, hlog,
    twoTo, hleast]
  -- The first guess at the place is right. It is zero or negative, and the two are computed
  -- differently.
  cases hzeros : 23 - n.log2 with
  | zero =>
    have hguess : (n.log2 : Int) - (0 : Nat) - (23 : Nat) = Int.ofNat 0 := by
      rw [Int.ofNat_eq_natCast]
      omega
    rw [hzeros] at hleading
    have hfits : 1 * Nat.pow 2 0 * Nat.pow 2 23 ≤ n := by simpa using hleading
    simp only [hguess, hfits, decide_true, if_true]
    decide
  | succ zeros =>
    have hguess : (n.log2 : Int) - (0 : Nat) - (23 : Nat) = Int.negSucc zeros := by
      rw [Int.negSucc_eq]
      omega
    rw [hzeros] at hleading
    have hfits : 1 * Nat.pow 2 23 ≤ n * Nat.pow 2 (zeros + 1) := by simpa using hleading
    simp only [hguess, hfits, decide_true, if_true]
    rw [Int.negSucc_eq]
    omega

theorem roundedUnits_single (zeros : Nat) : roundedUnits n 1 (-(zeros : Int)) = n * 2 ^ zeros := by
  cases zeros with
  | zero => simp [roundedUnits, twoTo, roundedQuotient_one]
  | succ zeros =>
    rw [show -((zeros + 1 : Nat) : Int) = Int.negSucc zeros from rfl, roundedUnits,
      roundedQuotient_one]
    rfl

/-- The bits that are written, with the exponent field that belongs to so many digits. -/
theorem write_single (hpos : n ≠ 0) (hn : n < 2 ^ 24) :
    BinaryFormat.single.write false n 1 = (126 + n.log2) * 8388608 + n * 2 ^ (23 - n.log2) := by
  have hdigits : n.log2 < 24 := (Nat.log2_lt hpos).mpr hn
  have hbound := (whole_bounds hpos hn).2
  have hsteps : (-(23 - n.log2 : Nat) - BinaryFormat.single.leastExponent).toNat =
      126 + n.log2 := by
    rw [show BinaryFormat.single.leastExponent = -149 by decide]
    omega
  have hinfinity : BinaryFormat.single.infinityBits = 0x7F800000 := by decide
  have hplaces : twoTo BinaryFormat.single.fractionBits = 8388608 := by decide
  simp only [BinaryFormat.write, placeOf_single hpos hn, hpos, if_false,
    roundedUnits_single, hsteps, hinfinity, hplaces, Bool.false_eq_true]
  omega

/-- The single of a natural is what its bits say. -/
theorem singleOfInt_natCast (n : Nat) :
    singleOfInt n =
      .ofModel (.pack (unpack single (BinaryFormat.single.write false n 1).toUInt32.toBitVec)) := by
  have hratio : ratioOf (n : Int).natAbs 0 = (n, 1) := by
    rw [Int.natAbs_natCast]
    exact congrArg (·, 1) (Nat.mul_one n)
  have hsign : decide ((n : Int) < 0) = false := decide_eq_false (by omega)
  rw [singleOfInt, singleOf, BinaryFormat.writeReading, hratio, hsign]
  rfl

/-- **A natural of at most 24 digits is a single exactly.** -/
theorem singleOfInt_eq_whole (hn : n < 2 ^ 24) : singleOfInt n = .ofModel (.pack (whole n)) := by
  by_cases hzero : n = 0
  · subst hzero
    decide
  · have hdigits : n.log2 < 24 := (Nat.log2_lt hzero).mpr hn
    have hbound := (whole_bounds hzero hn).2
    have hbits : (BinaryFormat.single.write false n 1).toUInt32.toBitVec =
        pack single (whole n) := by
      apply BitVec.eq_of_toNat_eq
      rw [whole, dif_neg hzero, toNat_pack_finite _ (log2_whole hzero hn) (by omega) (by omega),
        write_single hzero hn]
      simp only [UInt32.toNat_toBitVec, Nat.toUInt32_eq, UInt32.toNat_ofNat']
      omega
    rw [singleOfInt_natCast, hbits, unpack_pack_whole hn]

end Gazetteer.Number

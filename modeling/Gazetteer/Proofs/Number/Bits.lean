import Gazetteer.Number.Binary
import Mathlib

/-!
# What bits say

A finite number of a format has one mantissa and one exponent: all digits of the mantissa are used,
unless the exponent is the least one (`Canonical`). These two and the sign are the bits, and reading
the bits gives them back (`read_bits`, `eq_bits_of_read`). Reading agrees with the way in which the
logic takes the bits of a number apart (`read_toNat`), so that what the logic says of a number can
be said of its mantissa and exponent.
-/

namespace Gazetteer.Number

open Float.Model Float.Model.UnpackedFloat

theorem twoTo_eq_pow (n : Nat) : twoTo n = 2 ^ n := rfl

theorem twoTo_pos (n : Nat) : 0 < twoTo n :=
  Nat.two_pow_pos n

namespace BinaryFormat

/-- **A mantissa and an exponent as a format has them**: the digits fit, the first of them is set
except at the least exponent, and the exponent has a field of its own below that of infinity. -/
structure Canonical (f : BinaryFormat) (mantissa : Nat) (exponent : Int) : Prop where
  digits : mantissa < 2 ^ (f.fractionBits + 1)
  least : f.leastExponent ≤ exponent
  full : f.leastExponent < exponent → 2 ^ f.fractionBits ≤ mantissa
  fits : (exponent - f.leastExponent).toNat + 2 < 2 ^ f.exponentBits

/-- The bits of a number below its sign: the mantissa with its leading digit, added to one exponent
field less. -/
def magnitudeBits (f : BinaryFormat) (mantissa : Nat) (exponent : Int) : Nat :=
  (exponent - f.leastExponent).toNat * 2 ^ f.fractionBits + mantissa

/-- **The bits of a number.** -/
def bits (f : BinaryFormat) (negative : Bool) (mantissa : Nat) (exponent : Int) : Nat :=
  (if negative then f.signBit else 0) + f.magnitudeBits mantissa exponent

/-- What the bits below a sign say. -/
def readMagnitude (f : BinaryFormat) (negative : Bool) (magnitude : Nat) : Reading :=
  if magnitude = f.infinityBits then .infinite negative
  else if f.infinityBits < magnitude then .notANumber
  else if magnitude / 2 ^ f.fractionBits = 0 then
    .finite negative (magnitude % 2 ^ f.fractionBits) f.leastExponent
  else
    .finite negative (2 ^ f.fractionBits + magnitude % 2 ^ f.fractionBits)
      (f.leastExponent + (magnitude / 2 ^ f.fractionBits - 1 : Nat))

/-- Reading a pattern is reading its bits below the sign, under that sign. -/
theorem read_eq (f : BinaryFormat) (pattern : Nat) :
    f.read pattern = f.readMagnitude (decide (f.signBit ≤ pattern)) (pattern % f.signBit) := rfl

variable {f : BinaryFormat} {mantissa : Nat} {exponent : Int}

theorem infinityBits_add : f.infinityBits + 2 ^ f.fractionBits = f.signBit := by
  rw [infinityBits, signBit, twoTo_eq_pow, twoTo_eq_pow, twoTo_eq_pow, Nat.pow_add,
    Nat.sub_mul, Nat.one_mul, Nat.sub_add_cancel (Nat.le_mul_of_pos_left _ (Nat.two_pow_pos _))]

theorem infinityBits_lt_signBit : f.infinityBits < f.signBit :=
  infinityBits_add (f := f) ▸ Nat.lt_add_of_pos_right (Nat.two_pow_pos _)

/-- Finite numbers lie below infinity. -/
theorem Canonical.magnitudeBits_lt (h : f.Canonical mantissa exponent) :
    f.magnitudeBits mantissa exponent < f.infinityBits := by
  have hfield : (exponent - f.leastExponent).toNat + 2 ≤ 2 ^ f.exponentBits - 1 :=
    Nat.le_sub_one_of_lt h.fits
  have hdigits : mantissa < 2 * 2 ^ f.fractionBits := Nat.pow_succ' ▸ h.digits
  calc f.magnitudeBits mantissa exponent
      < (exponent - f.leastExponent).toNat * 2 ^ f.fractionBits + 2 * 2 ^ f.fractionBits :=
        Nat.add_lt_add_left hdigits _
    _ = ((exponent - f.leastExponent).toNat + 2) * 2 ^ f.fractionBits := (Nat.add_mul _ _ _).symm
    _ ≤ f.infinityBits := Nat.mul_le_mul_right _ hfield

/-- The bits below a sign are read back as mantissa and exponent. The leading digit tells the least
exponent from the others. -/
theorem readMagnitude_magnitudeBits (h : f.Canonical mantissa exponent) (negative : Bool) :
    f.readMagnitude negative (f.magnitudeBits mantissa exponent) =
      .finite negative mantissa exponent := by
  have hpos : 0 < 2 ^ f.fractionBits := Nat.two_pow_pos _
  have hdigits : mantissa < 2 * 2 ^ f.fractionBits := Nat.pow_succ' ▸ h.digits
  rw [readMagnitude, if_neg h.magnitudeBits_lt.ne, if_neg h.magnitudeBits_lt.not_gt, magnitudeBits]
  by_cases hleading : 2 ^ f.fractionBits ≤ mantissa
  · obtain ⟨fraction, rfl⟩ := Nat.exists_eq_add_of_le hleading
    have hfraction : fraction < 2 ^ f.fractionBits := by omega
    have hfield : (exponent - f.leastExponent).toNat * 2 ^ f.fractionBits +
      (2 ^ f.fractionBits + fraction) =
        fraction + ((exponent - f.leastExponent).toNat + 1) * 2 ^ f.fractionBits := by
      rw [Nat.succ_mul]
      omega
    rw [hfield, Nat.add_mul_div_right _ _ hpos, Nat.add_mul_mod_self_right,
      Nat.div_eq_of_lt hfraction, Nat.mod_eq_of_lt hfraction, Nat.zero_add,
      if_neg (Nat.succ_ne_zero _), Nat.add_sub_cancel,
      Int.toNat_of_nonneg (Int.sub_nonneg_of_le h.least), add_sub_cancel]
  · obtain rfl : exponent = f.leastExponent :=
      le_antisymm (not_lt.mp fun hlt => hleading (h.full hlt)) h.least
    rw [Int.sub_self, Int.toNat_zero, Nat.zero_mul, Nat.zero_add,
      Nat.div_eq_of_lt (not_le.mp hleading), if_pos rfl, Nat.mod_eq_of_lt (not_le.mp hleading)]

/-- **The bits of a number are read as the number.** Together with the lemma after the next one,
numbers of a format and their patterns correspond. -/
theorem read_bits (h : f.Canonical mantissa exponent) (negative : Bool) :
    f.read (f.bits negative mantissa exponent) = .finite negative mantissa exponent := by
  have hlt : f.magnitudeBits mantissa exponent < f.signBit :=
    h.magnitudeBits_lt.trans infinityBits_lt_signBit
  have hsign : decide (f.signBit ≤ f.bits negative mantissa exponent) = negative := by
    cases negative <;> simp [bits, hlt]
  have hmagnitude : f.bits negative mantissa exponent % f.signBit =
      f.magnitudeBits mantissa exponent := by
    cases negative <;> simp [bits, Nat.mod_eq_of_lt hlt]
  rw [read_eq, hsign, hmagnitude, readMagnitude_magnitudeBits h]

theorem Canonical.bits_lt (h : f.Canonical mantissa exponent) (negative : Bool) :
    f.bits negative mantissa exponent < 2 * f.signBit := by
  have hlt : f.magnitudeBits mantissa exponent < f.signBit :=
    h.magnitudeBits_lt.trans infinityBits_lt_signBit
  cases negative <;> simp only [bits, if_true, Bool.false_eq_true, if_false] <;> omega

/-- What is read below a sign as a number is written again as it was. That there are at least two
exponent bits leaves room for numbers below infinity. -/
theorem eq_magnitudeBits_of_readMagnitude {sign negative : Bool} {magnitude : Nat}
    (hfields : 2 ≤ f.exponentBits)
    (h : f.readMagnitude sign magnitude = .finite negative mantissa exponent) :
    sign = negative ∧ f.Canonical mantissa exponent ∧
    magnitude = f.magnitudeBits mantissa exponent := by
  have hfraction : magnitude % 2 ^ f.fractionBits < 2 ^ f.fractionBits :=
    Nat.mod_lt _ (Nat.two_pow_pos _)
  have hsplit := Nat.div_add_mod' magnitude (2 ^ f.fractionBits)
  have hsucc : 2 ^ (f.fractionBits + 1) = 2 * 2 ^ f.fractionBits := Nat.pow_succ'
  have hfour : 2 ^ 2 ≤ 2 ^ f.exponentBits := Nat.pow_le_pow_right (by decide) hfields
  rw [readMagnitude] at h
  split at h
  next => cases h
  next hne =>
    split at h
    next => cases h
    next hle =>
      have hfield : magnitude / 2 ^ f.fractionBits < 2 ^ f.exponentBits - 1 :=
        Nat.div_lt_of_lt_mul <| Nat.mul_comm .. ▸ lt_of_le_of_ne (not_lt.mp hle) hne
      -- The field of zero is that of the least exponent, where the leading digit may be missing.
      split at h
      next hzero =>
        cases h
        refine ⟨rfl, ⟨by omega, le_rfl, fun hlt => absurd hlt (lt_irrefl _), by omega⟩, ?_⟩
        rw [magnitudeBits, Int.sub_self, Int.toNat_zero, ← hzero, hsplit]
      next hzero =>
        cases h
        have hsteps :
          (f.leastExponent + (magnitude / 2 ^ f.fractionBits - 1 : Nat) - f.leastExponent).toNat =
            magnitude / 2 ^ f.fractionBits - 1 := by omega
        refine ⟨rfl, ⟨by omega, by omega, fun _ => Nat.le_add_right _ _, by omega⟩, ?_⟩
        rw [magnitudeBits, hsteps, ← Nat.add_assoc, ← Nat.succ_mul, Nat.succ_eq_add_one,
          Nat.sub_add_cancel (Nat.pos_of_ne_zero hzero), hsplit]

/-- **What is read as a number has the bits of that number**, so that a number of a format has one
pattern. -/
theorem eq_bits_of_read {pattern : Nat} {negative : Bool} (hwidth : pattern < 2 * f.signBit)
    (hfields : 2 ≤ f.exponentBits) (h : f.read pattern = .finite negative mantissa exponent) :
    f.Canonical mantissa exponent ∧ pattern = f.bits negative mantissa exponent := by
  obtain ⟨rfl, hcanonical, hmagnitude⟩ := eq_magnitudeBits_of_readMagnitude hfields h
  refine ⟨hcanonical, ?_⟩
  rw [bits, ← hmagnitude]
  by_cases hsign : f.signBit ≤ pattern
  · rw [decide_eq_true hsign, if_pos rfl, Nat.mod_eq_sub_mod hsign, Nat.mod_eq_of_lt (by omega)]
    omega
  · rw [decide_eq_false hsign, if_neg Bool.false_ne_true,
      Nat.mod_eq_of_lt (not_le.mp hsign), Nat.zero_add]

end BinaryFormat

/-! ## The logic's way to take bits apart -/

/-- Whether a sign is the negative one. -/
def isNegative : Sign → Bool
  | .positive => false
  | .negative => true

/-- What the logic's form of a number says. -/
def Reading.ofUnpacked (f : BinaryFormat) : UnpackedFloat → Reading
  | .infinity sign => .infinite (isNegative sign)
  | .notANumber => .notANumber
  | .zero sign => .finite (isNegative sign) 0 f.leastExponent
  | .finite sign mantissa exponent _ => .finite (isNegative sign) mantissa exponent

/-- The format that the logic gives the same sizes. -/
def BinaryFormat.ofFormat (spec : Format) : BinaryFormat :=
  ⟨spec.mantissaBitsWithoutImplicit, spec.exponentBits⟩

variable {spec : Format}

/-- The least exponent is the one of the logic. It is said there by a bias, and here directly. -/
theorem BinaryFormat.leastExponent_ofFormat :
    (ofFormat spec).leastExponent =
      1 - (spec.exponentBias + spec.mantissaBitsWithoutImplicit : Int) := by
  have hpow : 0 < 2 ^ (spec.exponentBits - 1) := Nat.two_pow_pos _
  simp only [leastExponent, ofFormat, twoTo_eq_pow, Format.exponentBias]
  omega

/-- The mantissa field of the logic is what is left below the exponent field. -/
theorem toNat_unpackMantissa (pattern : BitVec spec.numBits) :
    (unpackMantissa pattern).toNat =
      pattern.toNat %
        (BinaryFormat.ofFormat spec).signBit % 2 ^ spec.mantissaBitsWithoutImplicit := by
  rw [unpackMantissa_def, BitVec.extractLsb'_toNat, Nat.shiftRight_zero,
    BinaryFormat.signBit, twoTo_eq_pow, BinaryFormat.ofFormat, Nat.pow_add, Nat.mod_mul_left_mod]

theorem toNat_unpackExponent (pattern : BitVec spec.numBits) :
    (unpackExponent pattern).toNat =
      pattern.toNat %
        (BinaryFormat.ofFormat spec).signBit / 2 ^ spec.mantissaBitsWithoutImplicit := by
  rw [unpackExponent_def, BitVec.extractLsb'_toNat, Nat.shiftRight_eq_div_pow,
    BinaryFormat.signBit, twoTo_eq_pow, BinaryFormat.ofFormat, Nat.pow_add, Nat.mul_comm,
    Nat.mod_mul_right_div_self]

/-- The sign of the logic is the first bit, which is set exactly if the pattern is at least that of
negative zero. -/
theorem isNegative_unpackSign (pattern : BitVec spec.numBits) :
    isNegative (.ofBitVec (unpackSign pattern)) =
      decide ((BinaryFormat.ofFormat spec).signBit ≤ pattern.toNat) := by
  have hsign :
      (unpackSign pattern).toNat = pattern.toNat / (BinaryFormat.ofFormat spec).signBit := by
    have hwidth : pattern.toNat < (BinaryFormat.ofFormat spec).signBit * 2 := by
      have hbits : 1 + spec.exponentBits + spec.mantissaBitsWithoutImplicit =
          spec.exponentBits + spec.mantissaBitsWithoutImplicit + 1 := by omega
      exact (congrArg (2 ^ ·) hbits).trans (Nat.pow_succ ..) ▸ pattern.isLt
    rw [unpackSign_def, BitVec.extractLsb'_toNat, Nat.shiftRight_eq_div_pow,
      Nat.add_comm, Nat.pow_one]
    exact Nat.mod_eq_of_lt (Nat.div_lt_of_lt_mul hwidth)
  have hpos : 0 < (BinaryFormat.ofFormat spec).signBit := Nat.two_pow_pos _
  by_cases hle : (BinaryFormat.ofFormat spec).signBit ≤ pattern.toNat
  · have hne : unpackSign pattern ≠ 0#1 := by
      intro h
      have := Nat.div_pos hle hpos
      rw [h] at hsign
      exact absurd hsign (Nat.ne_of_lt this)
    rw [decide_eq_true hle, Sign.ofBitVec, if_neg hne]
    rfl
  · have hzero : unpackSign pattern = 0#1 :=
      BitVec.eq_of_toNat_eq (hsign.trans (Nat.div_eq_of_lt (not_le.mp hle)))
    rw [decide_eq_false hle, Sign.ofBitVec, if_pos hzero]
    rfl

/-- What an exponent field and a fraction say. These are the cases by which the logic takes a number
apart. -/
theorem BinaryFormat.readMagnitude_fields {f : BinaryFormat} {field fraction : Nat}
    (negative : Bool) (hfield : field < 2 ^ f.exponentBits)
    (hfraction : fraction < 2 ^ f.fractionBits) :
    f.readMagnitude negative (field * 2 ^ f.fractionBits + fraction) =
      if field = 2 ^ f.exponentBits - 1 then
        if fraction = 0 then .infinite negative else .notANumber
      else if field = 0 then .finite negative fraction f.leastExponent
      else .finite negative (2 ^ f.fractionBits + fraction)
        (f.leastExponent + (field - 1 : Nat)) := by
  have hpos : 0 < 2 ^ f.fractionBits := Nat.two_pow_pos _
  have hinfinity : f.infinityBits = (2 ^ f.exponentBits - 1) * 2 ^ f.fractionBits := rfl
  have hdiv : (field * 2 ^ f.fractionBits + fraction) / 2 ^ f.fractionBits = field := by
    rw [Nat.add_comm, Nat.add_mul_div_right _ _ hpos, Nat.div_eq_of_lt hfraction, Nat.zero_add]
  have hmod : (field * 2 ^ f.fractionBits + fraction) % 2 ^ f.fractionBits = fraction := by
    rw [Nat.add_comm, Nat.add_mul_mod_self_right, Nat.mod_eq_of_lt hfraction]
  rw [readMagnitude, hdiv, hmod, hinfinity]
  by_cases hlast : field = 2 ^ f.exponentBits - 1
  · rw [if_pos hlast, hlast]
    by_cases hzero : fraction = 0
    · rw [if_pos hzero, if_pos (by rw [hzero, Nat.add_zero])]
    · rw [if_neg hzero, if_neg (by omega), if_pos (by omega)]
  -- A smaller field is below infinity by a whole step, whatever the fraction is.
  · have hlt : field * 2 ^ f.fractionBits + fraction <
        (2 ^ f.exponentBits - 1) * 2 ^ f.fractionBits := by
      have hnext : (field + 1) * 2 ^ f.fractionBits ≤
          (2 ^ f.exponentBits - 1) * 2 ^ f.fractionBits :=
        Nat.mul_le_mul_right _ (by omega)
      rw [Nat.succ_mul] at hnext
      omega
    rw [if_neg hlast, if_neg hlt.ne, if_neg hlt.not_gt]

/-- **Reading bits agrees with the logic.** Both take the sign, the exponent field and the fraction,
and so they are compared field by field. -/
theorem BinaryFormat.read_toNat (pattern : BitVec spec.numBits) :
    (ofFormat spec).read pattern.toNat =
      .ofUnpacked (ofFormat spec) (UnpackedFloat.unpack spec pattern) := by
  have hsplit :=
    Nat.div_add_mod' (pattern.toNat % (ofFormat spec).signBit)
      (2 ^ spec.mantissaBitsWithoutImplicit)
  rw [← toNat_unpackExponent, ← toNat_unpackMantissa] at hsplit
  have hmantissa : (1#1 ++ unpackMantissa pattern).toNat =
      2 ^ spec.mantissaBitsWithoutImplicit + (unpackMantissa pattern).toNat := by
    rw [BitVec.toNat_append, ← Nat.shiftLeft_add_eq_or_of_lt (BitVec.isLt _)]
    simp [Nat.shiftLeft_eq]
  rw [read_eq, ← isNegative_unpackSign, ← hsplit]
  refine (readMagnitude_fields _ (unpackExponent pattern).isLt
    (unpackMantissa pattern).isLt).trans ?_
  change (if (unpackExponent pattern).toNat = 2 ^ spec.exponentBits - 1 then _ else _) = _
  have hlast : unpackExponent pattern = -1#_ ↔
      (unpackExponent pattern).toNat = 2 ^ spec.exponentBits - 1 := by
    rw [← BitVec.toNat_inj, BitVec.neg_one_eq_allOnes, BitVec.toNat_allOnes]
  have hnone {w : Nat} (v : BitVec w) : v = 0#_ ↔ v.toNat = 0 := by
    rw [← BitVec.toNat_inj, BitVec.toNat_ofNat, Nat.zero_mod]
  -- The cases are those of unpacking: infinity, what is no number, zero and subnormal numbers, and
  -- normal ones. Reading goes by the same two fields.
  fun_cases UnpackedFloat.unpack spec pattern with
  | case1 _ _ _ _ hfield hfraction =>
    rw [if_pos (hlast.mp hfield), if_pos ((hnone _).mp hfraction)]
    rfl
  | case2 _ _ hfield hfraction =>
    rw [if_pos (hlast.mp hfield), if_neg (mt (hnone _).mpr hfraction)]
    rfl
  | case3 _ _ _ _ hinfinite hfield hfraction =>
    rw [if_neg (mt hlast.mpr hinfinite), if_pos ((hnone _).mp hfield), (hnone _).mp hfraction]
    rfl
  | case4 _ _ _ _ _ hinfinite hfield hfraction =>
    rw [if_neg (mt hlast.mpr hinfinite), if_pos ((hnone _).mp hfield), leastExponent_ofFormat]
    refine congrArg (Reading.finite _ _) ?_
    change _ = ((unpackExponent pattern).toNat : Int) -
      (spec.exponentBias + spec.mantissaBitsWithoutImplicit) + 1
    have hzero : (unpackExponent pattern).toNat = 0 := (hnone _).mp hfield
    omega
  | case5 _ _ _ _ _ hinfinite hfield =>
    rw [if_neg (mt hlast.mpr hinfinite), if_neg (mt (hnone _).mpr hfield), leastExponent_ofFormat]
    refine congr (congrArg (Reading.finite _) hmantissa.symm) ?_
    change _ = ((unpackExponent pattern).toNat : Int) -
      (spec.exponentBias + spec.mantissaBitsWithoutImplicit)
    have hpos : (unpackExponent pattern).toNat ≠ 0 := mt (hnone _).mpr hfield
    omega

/-- A double is read as the logic unpacks it, and so is a single. -/
theorem readDouble_eq (x : Float) : readDouble x = .ofUnpacked .double x.toModel.unpack :=
  @BinaryFormat.read_toNat .binary64 x.toBits.toBitVec

theorem readSingle_eq (x : Float32) : readSingle x = .ofUnpacked .single x.toModel.unpack :=
  @BinaryFormat.read_toNat .binary32 x.toBits.toBitVec

/-- **A double is finite where it is read as a number**, as infinities and what is no number have
readings of their own. -/
theorem isFinite_iff (x : Float) :
    x.isFinite = true ↔
      ∃ negative mantissa exponent, readDouble x = .finite negative mantissa exponent := by
  rw [readDouble_eq, Float.isFinite, Float.Model.isFinite]
  cases x.toModel.unpack <;> simp [Reading.ofUnpacked, UnpackedFloat.isFinite]

theorem isFinite_single_iff (x : Float32) :
    x.isFinite = true ↔
      ∃ negative mantissa exponent, readSingle x = .finite negative mantissa exponent := by
  rw [readSingle_eq, Float32.isFinite, Float32.Model.isFinite]
  cases x.toModel.unpack <;> simp [Reading.ofUnpacked, UnpackedFloat.isFinite]

theorem width_single : 2 * BinaryFormat.single.signBit = UInt32.size := by decide

theorem width_double : 2 * BinaryFormat.double.signBit = UInt64.size := by decide

theorem bits_of_readSingle {x : Float32} {negative : Bool} {mantissa : Nat} {exponent : Int}
    (h : readSingle x = .finite negative mantissa exponent) :
    BinaryFormat.single.Canonical mantissa exponent ∧
      x.toBits.toNat = BinaryFormat.single.bits negative mantissa exponent :=
  BinaryFormat.eq_bits_of_read (width_single ▸ x.toBits.toNat_lt_size) (by decide) h

/-- **What is read from a double is what its bits are made of.** -/
theorem bits_of_readDouble {x : Float} {negative : Bool} {mantissa : Nat} {exponent : Int}
    (h : readDouble x = .finite negative mantissa exponent) :
    BinaryFormat.double.Canonical mantissa exponent ∧
      x.toBits.toNat = BinaryFormat.double.bits negative mantissa exponent :=
  BinaryFormat.eq_bits_of_read (width_double ▸ x.toBits.toNat_lt_size) (by decide) h

/-- Bits that are read as a number are those of a double. This is not so of what is no number, whose
patterns the logic does not tell apart. -/
theorem toBits_ofBits {pattern : UInt64} {negative : Bool} {mantissa : Nat} {exponent : Int}
    (h : BinaryFormat.double.read pattern.toNat = .finite negative mantissa exponent) :
    (Float.ofBits pattern).toBits = pattern := by
  have hread : BinaryFormat.double.read pattern.toNat =
      .ofUnpacked .double (UnpackedFloat.unpack .binary64 pattern.toBitVec) :=
    @BinaryFormat.read_toNat .binary64 pattern.toBitVec
  have hnumber : ¬ @isNaNBits .binary64 pattern.toBitVec := by
    intro hnan
    obtain ⟨hexponent, hmantissa⟩ := of_decide_eq_true hnan
    rw [UnpackedFloat.unpack, if_pos hexponent, if_neg hmantissa, h] at hread
    cases hread
  have hpack : pack .binary64 (UnpackedFloat.unpack .binary64 pattern.toBitVec) =
      pattern.toBitVec := by
    rw [pack_unpack, if_neg hnumber]
  exact congrArg UInt64.ofBitVec hpack

end Gazetteer.Number

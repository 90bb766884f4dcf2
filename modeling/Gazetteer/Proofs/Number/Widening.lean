import Gazetteer.Proofs.Number.Bits
import Gazetteer.Proofs.Number.Single

/-!
# Numbers that are written exactly

A number that a format has is written as its own bits, whatever mantissa and exponent it comes with
(`writeReading_exact`): the leading digit of its ratio fixes the place of the last digit, and
nothing is left to round. Every finite single is such a number for the format of doubles, and so **a
single that becomes a double and a single again is what it was** (`narrow_widen`).
-/

namespace Gazetteer.Number

namespace BinaryFormat

variable {f : BinaryFormat} {num places mantissa : Nat} {exponent : Int}

/-- The place of the last digit of a ratio whose denominator is a power of two. It depends on where
the leading digits are, and it is never below the least exponent. -/
theorem placeOf_twoTo (hnum : num ≠ 0) :
    f.placeOf num (twoTo places) =
      max f.leastExponent ((num.log2 : Int) - places - f.fractionBits) := by
  have hleading := Nat.log2_self_le hnum
  have hden : (twoTo places).log2 = places := Nat.log2_two_pow
  simp only [placeOf, hden]
  cases hguess : (num.log2 : Int) - places - f.fractionBits with
  | ofNat k =>
    rw [Int.ofNat_eq_natCast] at hguess
    have hfits : twoTo places * twoTo k * twoTo f.fractionBits ≤ num := by
      rw [twoTo_eq_pow, twoTo_eq_pow, twoTo_eq_pow, ← Nat.pow_add, ← Nat.pow_add,
        show places + k + f.fractionBits = num.log2 by omega]
      exact hleading
    simp only [hfits, decide_true, if_true]
  | negSucc k =>
    rw [Int.negSucc_eq] at hguess
    have hfits : twoTo places * twoTo f.fractionBits ≤ num * twoTo (k + 1) := by
      rw [twoTo_eq_pow, twoTo_eq_pow, twoTo_eq_pow, ← Nat.pow_add,
        show places + f.fractionBits = num.log2 + (k + 1) by omega, Nat.pow_add]
      exact Nat.mul_le_mul_right _ hleading
    simp only [hfits, decide_true, if_true]

/-- The leading digit of a number decides its exponent, unless that is the least one. -/
theorem Canonical.exponent_eq (h : f.Canonical mantissa exponent) (hm : mantissa ≠ 0) :
    max f.leastExponent ((mantissa.log2 : Int) + exponent - f.fractionBits) = exponent := by
  have hhigh : mantissa.log2 < f.fractionBits + 1 := (Nat.log2_lt hm).mpr h.digits
  have hleast := h.least
  by_cases hlt : f.leastExponent < exponent
  · have hlow : f.fractionBits ≤ mantissa.log2 := (Nat.le_log2 hm).mpr (h.full hlt)
    omega
  · omega

theorem roundedQuotient_mul (n : Nat) {den : Nat} (hden : 0 < den) :
    roundedQuotient (n * den) den = n := by
  simp [roundedQuotient, Nat.mul_div_cancel _ hden, hden]

/-- A ratio that is a multiple of a power of two has that many units of it. The cases are whether
the unit is greater than one or not, as the ratio is scaled up or down by it. -/
theorem roundedUnits_exact {left right : Nat} (hsame : num * 2 ^ left = mantissa * 2 ^ right)
    (hplaces : (right : Int) = exponent + places + left) :
    roundedUnits num (twoTo places) exponent = mantissa := by
  cases exponent with
  | ofNat k =>
    rw [Int.ofNat_eq_natCast] at hplaces
    have hnum : num = mantissa * (twoTo places * twoTo k) := by
      refine Nat.eq_of_mul_eq_mul_right (Nat.two_pow_pos left) (hsame.trans ?_)
      rw [twoTo_eq_pow, twoTo_eq_pow, ← Nat.pow_add, Nat.mul_assoc, ← Nat.pow_add]
      congr 2
      omega
    rw [roundedUnits, hnum, roundedQuotient_mul _ (Nat.mul_pos (twoTo_pos _) (twoTo_pos _))]
  | negSucc k =>
    rw [Int.negSucc_eq] at hplaces
    have hnum : num * twoTo (k + 1) = mantissa * twoTo places := by
      refine Nat.eq_of_mul_eq_mul_right (Nat.two_pow_pos left) ?_
      rw [Nat.mul_right_comm, hsame, twoTo_eq_pow, twoTo_eq_pow, Nat.mul_assoc, ← Nat.pow_add,
        Nat.mul_assoc, ← Nat.pow_add]
      congr 2
      omega
    rw [roundedUnits, hnum, roundedQuotient_mul _ (twoTo_pos _)]

/-- **A ratio that is a number of the format is written as that number.** The ratio is `num / 2 ^
places`. -/
theorem write_exact (h : f.Canonical mantissa exponent) (hm : mantissa ≠ 0) (negative : Bool)
    {left right : Nat} (hsame : num * 2 ^ left = mantissa * 2 ^ right)
    (hplaces : (right : Int) = exponent + places + left) :
    f.write negative num (twoTo places) = f.bits negative mantissa exponent := by
  have hnum : num ≠ 0 := by
    rintro rfl
    exact Nat.mul_ne_zero hm (Nat.two_pow_pos right).ne' (hsame.symm.trans (Nat.zero_mul _))
  have hlog : num.log2 + left = mantissa.log2 + right := by
    rw [← log2_mul_two_pow hnum, ← log2_mul_two_pow hm, hsame]
  have hplace : f.placeOf num (twoTo places) = exponent := by
    rw [placeOf_twoTo hnum, ← h.exponent_eq hm]
    congr 1
    omega
  have hmin : min f.infinityBits (f.magnitudeBits mantissa exponent) =
      f.magnitudeBits mantissa exponent :=
    Nat.min_eq_right h.magnitudeBits_lt.le
  simp only [write, hplace, roundedUnits_exact hsame hplaces, hnum, if_false]
  cases negative with
  | true => exact congrArg (f.signBit + ·) hmin
  | false => exact hmin.trans (Nat.zero_add _).symm

theorem write_zero (negative : Bool) (den : Nat) :
    f.write negative 0 den = f.bits negative 0 f.leastExponent := by
  cases negative <;> simp [write, bits, magnitudeBits]

/-- **A number of the format is written as itself**, with whatever mantissa and exponent it comes:
`given * 2 ^ other` is `mantissa * 2 ^ exponent`. The two differ by zeros behind one of the
mantissas. -/
theorem writeReading_exact (h : f.Canonical mantissa exponent) (negative : Bool)
    {given left right : Nat} {other : Int} (hsame : given * 2 ^ left = mantissa * 2 ^ right)
    (hexponents : other + right = exponent + left) :
    f.writeReading (.finite negative given other) = f.bits negative mantissa exponent := by
  by_cases hm : mantissa = 0
  · obtain rfl : given = 0 := by simpa [hm] using hsame
    obtain rfl : exponent = f.leastExponent :=
      le_antisymm (not_lt.mp fun hlt => absurd (h.full hlt) (by simp [hm])) h.least
    cases other <;> simp [writeReading, ratioOf, write_zero, hm]
  · cases other with
    | ofNat k =>
      rw [Int.ofNat_eq_natCast] at hexponents
      have hwhole : given * twoTo k * 2 ^ left = mantissa * 2 ^ (right + k) := by
        rw [Nat.mul_right_comm, hsame, twoTo_eq_pow, Nat.mul_assoc, ← Nat.pow_add]
      change f.write negative (given * twoTo k) (twoTo 0) = _
      exact write_exact h hm negative hwhole (by omega)
    | negSucc k =>
      rw [Int.negSucc_eq] at hexponents
      change f.write negative given (twoTo (k + 1)) = _
      exact write_exact h hm negative hsame (by omega)

end BinaryFormat

/-! ## Singles as doubles -/

/-- **Every number that singles have, doubles have too**: zeros are put behind its mantissa, until
all digits of a double are used. The exponents of doubles reach far enough for that. -/
theorem exists_double {mantissa : Nat} {exponent : Int}
    (h : BinaryFormat.single.Canonical mantissa exponent) :
    ∃ wide place left right, BinaryFormat.double.Canonical wide place ∧
    mantissa * 2 ^ left = wide * 2 ^ right ∧
      exponent + (right : Nat) = place + (left : Nat) := by
  have hsingle : BinaryFormat.single.leastExponent = -149 := by decide
  have hdouble : BinaryFormat.double.leastExponent = -1074 := by decide
  have hdigits : mantissa < 2 ^ 24 := h.digits
  have hlow : -149 ≤ exponent := hsingle ▸ h.least
  have hhigh := h.fits
  rw [hsingle, show BinaryFormat.single.exponentBits = 8 from rfl] at hhigh
  -- Zero has no leading digit to be moved up, and it has the least exponent of either format.
  by_cases hm : mantissa = 0
  · have hleast : exponent = -149 :=
      le_antisymm (not_lt.mp fun hlt => absurd (h.full (hsingle ▸ hlt)) (by simp [hm])) hlow
    refine ⟨0, -1074, 925, 0, ⟨Nat.two_pow_pos _, hdouble.le, fun hlt =>
      absurd hlt (by simp [hdouble]), ?_⟩, ?_, ?_⟩
    · rw [hdouble]
      decide
    · rw [hm, Nat.zero_mul, Nat.zero_mul]
    · rw [hleast]
      decide
  · have hlog : mantissa.log2 < 24 := (Nat.log2_lt hm).mpr hdigits
    have hwide : (mantissa * 2 ^ (52 - mantissa.log2)).log2 = 52 := by
      rw [log2_mul_two_pow hm]
      omega
    have hne : mantissa * 2 ^ (52 - mantissa.log2) ≠ 0 := Nat.mul_ne_zero hm (Nat.two_pow_pos _).ne'
    refine ⟨mantissa * 2 ^ (52 - mantissa.log2), exponent - (52 - mantissa.log2 : Nat),
      52 - mantissa.log2, 0,
      ⟨?_, ?_, fun _ => ?_, ?_⟩, ?_, ?_⟩
    · exact (Nat.log2_lt hne).mp (hwide.trans_lt (Nat.lt_succ_self 52))
    · rw [hdouble]
      omega
    · exact (Nat.le_log2 hne).mp hwide.ge
    · rw [hdouble]
      change _ < 2 ^ 11
      omega
    · rw [Nat.pow_zero, Nat.mul_one]
    · omega

/-- The double of a finite single has the single's number, with zeros behind its mantissa. -/
theorem readDouble_widen {x : Float32} (h : x.isFinite = true) :
    ∃ negative mantissa exponent wide place left right,
      readSingle x = .finite negative mantissa exponent ∧
      readDouble (widen x) = .finite negative wide place ∧ mantissa * 2 ^ left = wide * 2 ^ right ∧
      exponent + (right : Nat) = place + (left : Nat) := by
  obtain ⟨negative, mantissa, exponent, hread⟩ := (isFinite_single_iff x).mp h
  obtain ⟨hcanonical, -⟩ := bits_of_readSingle hread
  obtain ⟨wide, place, left, right, hwide, hsame, hexponents⟩ := exists_double hcanonical
  have hbits : (BinaryFormat.double.bits negative wide place).toUInt64.toNat =
      BinaryFormat.double.bits negative wide place :=
    UInt64.toNat_ofNat_of_lt' (width_double ▸ hwide.bits_lt negative)
  have hpattern := hbits.symm ▸ BinaryFormat.read_bits hwide negative
  refine ⟨negative, mantissa, exponent, wide, place, left, right, hread, ?_, hsame, hexponents⟩
  rw [widen, hread, doubleOf,
    BinaryFormat.writeReading_exact hwide negative hsame hexponents, readDouble,
    toBits_ofBits hpattern, hpattern]

theorem isFinite_widen {x : Float32} (h : x.isFinite = true) : (widen x).isFinite = true := by
  obtain ⟨negative, -, -, wide, place, -, -, -, hread, -⟩ := readDouble_widen h
  exact (isFinite_iff _).mpr ⟨negative, wide, place, hread⟩

/-- **A single that becomes a double and a single again is what it was**, bit by bit, negative zero
included. -/
theorem narrow_widen {x : Float32} (h : x.isFinite = true) : narrow (widen x) = x := by
  obtain ⟨negative, mantissa, exponent, wide, place, left, right, hread, hwide, hsame,
      hexponents⟩ :=
    readDouble_widen h
  obtain ⟨hcanonical, hbits⟩ := bits_of_readSingle hread
  rw [narrow, hwide, singleOf,
    BinaryFormat.writeReading_exact hcanonical negative hsame.symm hexponents.symm, ← hbits]
  simp

end Gazetteer.Number

import Gazetteer.Number.Natural

/-!
# Binary floating-point formats

The bits of the two interchange formats, single and double, as exact numbers: reading bits gives a
sign, a whole mantissa and a power of two, and writing takes any ratio of naturals and rounds it to
the nearest number of the format, a tie going to the even mantissa. Conversions between the two
formats and from decimal text are instances of the one writer.
-/

namespace Gazetteer.Number

/-- The sizes of a format's two bit fields below the sign. -/
structure BinaryFormat where
  fractionBits : Nat
  exponentBits : Nat

namespace BinaryFormat

/-- The 32-bit format. -/
def single : BinaryFormat := ⟨23, 8⟩

/-- The 64-bit format. -/
def double : BinaryFormat := ⟨52, 11⟩

/-- The exponent of the last place of the smallest numbers: -149 for singles, -1074 for doubles. -/
def leastExponent (f : BinaryFormat) : Int :=
  2 - (twoTo (f.exponentBits - 1) : Nat) - f.fractionBits

/-- The bits of positive infinity, which also bound the bits of every positive finite number. -/
def infinityBits (f : BinaryFormat) : Nat :=
  (twoTo f.exponentBits - 1) * twoTo f.fractionBits

/-- The value of the sign bit. -/
def signBit (f : BinaryFormat) : Nat :=
  twoTo (f.exponentBits + f.fractionBits)

end BinaryFormat

/-- What the bits of a number say. A finite number is `mantissa · 2 ^ exponent` under its sign. -/
inductive Reading where
  | finite (negative : Bool) (mantissa : Nat) (exponent : Int)
  | infinite (negative : Bool)
  | notANumber
deriving DecidableEq

/-- **Reading bits.** The least exponent field stands for the numbers without the implied leading
bit, and the greatest for infinity and for what is no number. -/
def BinaryFormat.read (f : BinaryFormat) (bits : Nat) : Reading :=
  let negative := decide (f.signBit ≤ bits)
  let magnitude := bits % f.signBit
  let field := magnitude / twoTo f.fractionBits
  let fraction := magnitude % twoTo f.fractionBits
  if magnitude = f.infinityBits then .infinite negative
  else if f.infinityBits < magnitude then .notANumber
  else if field = 0 then .finite negative fraction f.leastExponent
  else .finite negative (twoTo f.fractionBits + fraction) (f.leastExponent + (field - 1 : Nat))

/-- The quotient of two naturals rounded to the nearest natural, a tie to the even one. -/
def roundedQuotient (num den : Nat) : Nat :=
  let quotient := num / den
  let remainder := num % den
  if 2 * remainder < den then quotient
  else if den < 2 * remainder then quotient + 1
  else if quotient % 2 = 0 then quotient else quotient + 1

/-- `num / den` in units of `2 ^ exponent`, rounded to the nearest natural. -/
def roundedUnits (num den : Nat) (exponent : Int) : Nat :=
  match exponent with
  | .ofNat e => roundedQuotient num (den * twoTo e)
  | .negSucc e => roundedQuotient (num * twoTo (e + 1)) den

/-- The exponent of the last place of the number of the format that lies nearest to `num / den`: the
one that leaves the quotient `fractionBits + 1` digits, unless the least exponent comes first. -/
def BinaryFormat.placeOf (f : BinaryFormat) (num den : Nat) : Int :=
  let guess : Int := (Nat.log2 num : Int) - Nat.log2 den - f.fractionBits
  let fits := fun (e : Int) => match e with
    | .ofNat k => decide (den * twoTo k * twoTo f.fractionBits ≤ num)
    | .negSucc k => decide (den * twoTo f.fractionBits ≤ num * twoTo (k + 1))
  max f.leastExponent (if fits guess then guess else guess - 1)

/-- **Writing a ratio**: the bits of the number nearest to `num / den` under the sign, a tie going
to the even mantissa and a magnitude out of range to infinity. Adding the mantissa with its leading
bit to one exponent field less gives the bits of both kinds of finite number, and carries when
rounding reaches the next power of two. -/
def BinaryFormat.write (f : BinaryFormat) (negative : Bool) (num den : Nat) : Nat :=
  let place := f.placeOf num den
  let units := if num = 0 then 0 else roundedUnits num den place
  let steps := if num = 0 then 0 else (place - f.leastExponent).toNat
  let magnitude := min f.infinityBits (steps * twoTo f.fractionBits + units)
  if negative then f.signBit + magnitude else magnitude

/-- The ratio of naturals that is `mantissa · 2 ^ exponent`. -/
def ratioOf (mantissa : Nat) (exponent : Int) : Nat × Nat :=
  match exponent with
  | .ofNat e => (mantissa * twoTo e, 1)
  | .negSucc e => (mantissa, twoTo (e + 1))

/-- The bits of a reading in a format; what is no number gets the quiet bits just above infinity. -/
def BinaryFormat.writeReading (f : BinaryFormat) : Reading → Nat
  | .finite negative mantissa exponent =>
    let (num, den) := ratioOf mantissa exponent
    f.write negative num den
  | .infinite negative => if negative then f.signBit + f.infinityBits else f.infinityBits
  | .notANumber => f.infinityBits + twoTo (f.fractionBits - 1)

/-- The exact contents of a double. -/
def readDouble (x : Float) : Reading :=
  BinaryFormat.double.read x.toBits.toNat

/-- The exact contents of a single. -/
def readSingle (x : Float32) : Reading :=
  BinaryFormat.single.read x.toBits.toNat

/-- The double nearest to a reading. -/
def doubleOf (r : Reading) : Float :=
  Float.ofBits (BinaryFormat.double.writeReading r).toUInt64

/-- The single nearest to a reading. -/
def singleOf (r : Reading) : Float32 :=
  Float32.ofBits (BinaryFormat.single.writeReading r).toUInt32

/-- The double with the value of a single. -/
def widen (x : Float32) : Float :=
  doubleOf (readSingle x)

/-- The single nearest to a double. -/
def narrow (x : Float) : Float32 :=
  singleOf (readDouble x)

/-- The double nearest to an integer. -/
def doubleOfInt (i : Int) : Float :=
  doubleOf (.finite (decide (i < 0)) i.natAbs 0)

/-- The single nearest to an integer. -/
def singleOfInt (i : Int) : Float32 :=
  singleOf (.finite (decide (i < 0)) i.natAbs 0)

/-- Whether a double is neither infinite nor no number. -/
def isFiniteDouble (x : Float) : Bool :=
  match readDouble x with
  | .finite .. => true
  | _ => false

end Gazetteer.Number

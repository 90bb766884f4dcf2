import Gazetteer.Number.Shortest
import Gazetteer.Text.Digit

/-!
# Reading decimal text

The number grammar of the address extract's coordinates: an optional sign, digits with an optional
point (at least one digit in all) and an optional exponent, or one of the words for infinity and for
no number in any ASCII case. Nothing may stand around it. The value is the nearest double.
-/

namespace Gazetteer.Number

open Gazetteer.Text

/-- The double nearest to `digits · 10 ^ exponent` under a sign. Magnitudes beyond every double are
decided by the position of their leading digit, so that a long exponent costs nothing. -/
def doubleOfDecimal (negative : Bool) (digits : Nat) (exponent : Int) : Float :=
  let leading := (digitCount digits : Int) + exponent
  if digits = 0 ∨ leading < -400 then doubleOf (.finite negative 0 0)
  else if 400 < leading then doubleOf (.infinite negative)
  else
    let (num, den) := Decimal.ratio ⟨digits, exponent⟩
    Float.ofBits (BinaryFormat.double.write negative num den).toUInt64

/-- A sign and what follows it; no sign is a plus. -/
def splitSign : List Char → Bool × List Char
  | '-' :: rest => (true, rest)
  | '+' :: rest => (false, rest)
  | rest => (false, rest)

/-- A run of ASCII digits at the front, and the rest. -/
def splitDigits (cs : List Char) : List Char × List Char :=
  (cs.takeWhile isAsciiDigit, cs.dropWhile isAsciiDigit)

/-- The exponent part, which must be all that is left: nothing, or a letter e, an optional sign and
at least one digit. -/
def readExponent : List Char → Option Int
  | [] => some 0
  | c :: rest =>
    if c = 'e' ∨ c = 'E' then
      let (negative, digits) := splitSign rest
      if digits ≠ [] ∧ digits.all isAsciiDigit then
        some (if negative then -(digitsValue digits : Int) else digitsValue digits)
      else none
    else none

/-- The digits before and after the point, and what follows them. -/
def splitMantissa (cs : List Char) : List Char × List Char × List Char :=
  let (whole, rest) := splitDigits cs
  match rest with
  | '.' :: rest =>
    let (fraction, rest) := splitDigits rest
    (whole, fraction, rest)
  | _ => (whole, [], rest)

/-- The lowercase form of an ASCII letter. -/
def lowerAscii (c : Char) : Char :=
  if 'A'.toNat ≤ c.toNat ∧ c.toNat ≤ 'Z'.toNat then Char.ofNat (c.toNat + 32) else c

/-- **Reading a double** from text. -/
def readDecimalText (s : String) : Option Float :=
  let (negative, rest) := splitSign s.toList
  let word := String.ofList (rest.map lowerAscii)
  if word = "inf" ∨ word = "infinity" then some (doubleOf (.infinite negative))
  else if word = "nan" then some (doubleOf .notANumber)
  else
    let (whole, fraction, rest) := splitMantissa rest
    if whole = [] ∧ fraction = [] then none
    else
      (readExponent rest).map fun e =>
        doubleOfDecimal negative (digitsValue (whole ++ fraction)) (e - fraction.length)

end Gazetteer.Number

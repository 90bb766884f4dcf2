import Gazetteer.Number.Binary

/-!
# Text with a fixed number of decimals

A floating-point number written with a given number of decimals, rounded from its exact binary
value. The sign of a negative number stays even when every digit is zero.
-/

namespace Gazetteer.Number

/-- A natural in decimal, filled with zeros on the left up to a width. -/
def paddedDigits (width n : Nat) : String :=
  let digits := Nat.toDigits 10 n
  String.ofList (List.replicate (width - digits.length) '0' ++ digits)

/-- The text of `units` tenths, hundredths and so on, by the number of decimals. -/
def fixedUnits (places units : Nat) : String :=
  let whole := toString (units / tenTo places)
  if places = 0 then whole else whole ++ "." ++ paddedDigits places (units % tenTo places)

/-- **The text of a number with fixed decimals**: the nearest multiple of the last decimal, a tie to
the even one. -/
def fixedText (places : Nat) : Reading → String
  | .finite negative mantissa exponent =>
    let (num, den) := ratioOf mantissa exponent
    let text := fixedUnits places (roundedQuotient (num * tenTo places) den)
    if negative then "-" ++ text else text
  | .infinite negative => if negative then "-inf" else "inf"
  | .notANumber => "NaN"

end Gazetteer.Number

import Gazetteer.Number.Binary

/-!
# The shortest decimal that reads back

A finite number is written with the fewest significant digits that lead a reader, who rounds to the
nearest number of the format, back to it; among decimals of that length the nearest one is taken.
Then a layout decides between positional and exponent notation.
-/

namespace Gazetteer.Number

/-- A decimal: `digits · 10 ^ exponent`. -/
structure Decimal where
  digits : Nat
  exponent : Int
deriving DecidableEq

/-- The ratio of naturals that a decimal is. -/
def Decimal.ratio (d : Decimal) : Nat × Nat :=
  match d.exponent with
  | .ofNat e => (d.digits * tenTo e, 1)
  | .negSucc e => (d.digits, tenTo (e + 1))

/-- The number of decimal digits of a natural. -/
def digitCount (n : Nat) : Nat :=
  (Nat.toDigits 10 n).length

/-- The position of the leading decimal digit of `num / den`: `10 ^ k ≤ num / den < 10 ^ (k +
1)`. -/
def leadingPlace (num den : Nat) : Int :=
  if den ≤ num then (digitCount (num / den) : Int) - 1
  else -(digitCount ((den - 1) / num) : Int)

/-- The two decimals on the grid `10 ^ exponent` around `num / den`, the nearer one first and of two
equally near the one with even digits. -/
def gridNeighbours (num den : Nat) (exponent : Int) : Decimal × Decimal :=
  let (n, d) := match exponent with
    | .ofNat e => (num, den * tenTo e)
    | .negSucc e => (num * tenTo (e + 1), den)
  let below := n / d
  let near := roundedQuotient n d
  let far := if near = below then below + 1 else below
  (⟨near, exponent⟩, ⟨far, exponent⟩)

/-- Whether a decimal is read as the number with the given bits. -/
def Decimal.readsAs (d : Decimal) (f : BinaryFormat) (bits : Nat) : Bool :=
  let (n, m) := d.ratio
  f.write false n m == bits

/-- The first decimal of at most `count + fuel` digits that reads back, tried with `count` digits
first; seventeen digits always do, for either format. Near a power of two the nearer neighbour may
read as the number below, and the farther one not. -/
def shortestFrom (f : BinaryFormat) (bits num den : Nat) (leading : Int) : Nat → Nat → Decimal
  | 0, count => (gridNeighbours num den (leading - (count - 1 : Nat))).1
  | fuel + 1, count =>
    let (near, far) := gridNeighbours num den (leading - (count - 1 : Nat))
    if near.readsAs f bits then near
    else if far.readsAs f bits then far
    else shortestFrom f bits num den leading fuel (count + 1)

/-- A decimal without trailing zeros in its digits. -/
def Decimal.stripZeros : Nat → Decimal → Decimal
  | 0, d => d
  | fuel + 1, d =>
    if d.digits ≠ 0 ∧ d.digits % 10 = 0 then Decimal.stripZeros fuel ⟨d.digits / 10, d.exponent + 1⟩
    else d

/-- **The shortest decimal** that reads back as `mantissa · 2 ^ exponent`. -/
def shortestDecimal (f : BinaryFormat) (mantissa : Nat) (exponent : Int) : Decimal :=
  let (num, den) := ratioOf mantissa exponent
  if num = 0 then ⟨0, 0⟩
  else Decimal.stripZeros 20
    (shortestFrom f (f.write false num den) num den (leadingPlace num den) 16 1)

/-- Where positional notation ends: the decimal point may stand at most `most` digits after the
first digit, and strictly fewer than `zeros` places before it. -/
structure Layout where
  most : Int
  zeros : Int

/-- The text of a decimal: positional with at least one decimal, or with an exponent. -/
def Layout.text (layout : Layout) (d : Decimal) : String :=
  let digits := Nat.toDigits 10 d.digits
  let point : Int := digits.length + d.exponent
  if 0 ≤ d.exponent ∧ point ≤ layout.most then
    String.ofList (digits ++ List.replicate d.exponent.toNat '0') ++ ".0"
  else if 0 < point ∧ point ≤ layout.most then
    String.ofList (digits.take point.toNat) ++ "." ++ String.ofList (digits.drop point.toNat)
  else if -layout.zeros < point ∧ point ≤ 0 then
    "0." ++ String.ofList (List.replicate (-point).toNat '0' ++ digits)
  else
    let fraction := if digits.length ≤ 1 then "" else "." ++ String.ofList (digits.drop 1)
    String.ofList (digits.take 1) ++ fraction ++ "e" ++ toString (point - 1)

/-- Doubles are positional below 10^16 and from 10^-5. -/
def doubleLayout : Layout := ⟨16, 5⟩

/-- Singles are positional below 10^13 and from 10^-6. -/
def singleLayout : Layout := ⟨13, 6⟩

/-- The text of a number, or nothing for one that is not finite. -/
def shortestText? (f : BinaryFormat) (layout : Layout) : Reading → Option String
  | .finite negative mantissa exponent =>
    let text :=
      if mantissa = 0 then "0.0" else layout.text (shortestDecimal f mantissa exponent)
    some (if negative then "-" ++ text else text)
  | _ => none

/-- The shortest text of a finite double. -/
def doubleText? (x : Float) : Option String :=
  shortestText? .double doubleLayout (readDouble x)

/-- The shortest text of a finite single. -/
def singleText? (x : Float32) : Option String :=
  shortestText? .single singleLayout (readSingle x)

end Gazetteer.Number

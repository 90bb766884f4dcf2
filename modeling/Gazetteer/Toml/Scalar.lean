import Gazetteer.Json
import Gazetteer.Number.DecimalText
import Gazetteer.Text.Hex

/-!
# TOML scalars

The values without parts: four kinds of strings, integers in four bases, decimal numbers, truth
values, and dates and times. Each reader takes the characters from the value on and gives back those
that follow it. A date or time has no JSON value of its own and is kept as an object with its text.
-/

namespace Gazetteer.Toml

/-- The two blanks of a line. -/
def isBlank (c : Char) : Bool :=
  c == ' ' || c == '\t'

/-- The characters from the first that is not blank. -/
def skipBlank (cs : List Char) : List Char :=
  cs.dropWhile isBlank

/-- A character that may stand in a text as it is. -/
def isPlain (c : Char) : Bool :=
  c == '\t' || (32 ≤ c.toNat && c.toNat != 127)

/-- What follows the line break at the front. -/
def newline? : List Char → Option (List Char)
  | '\n' :: rest => some rest
  | '\r' :: '\n' :: rest => some rest
  | _ => none

/-! ## Strings -/

/-- The character of a code point. -/
def scalarChar? (n : Nat) : Option Char :=
  if n < 0xD800 ∨ (0xDFFF < n ∧ n < 0x110000) then some (Char.ofNat n) else none

/-- The character of a code in hexadecimal. -/
def codedChar (digits rest : List Char) : Option (Char × List Char) :=
  ((Text.hexNumber? digits).bind scalarChar?).map (·, rest)

/-- What stands after a backslash. -/
def escape? : List Char → Option (Char × List Char)
  | 'b' :: rest => some (Char.ofNat 8, rest)
  | 't' :: rest => some ('\t', rest)
  | 'n' :: rest => some ('\n', rest)
  | 'f' :: rest => some (Char.ofNat 12, rest)
  | 'r' :: rest => some ('\r', rest)
  | 'e' :: rest => some (Char.ofNat 27, rest)
  | '"' :: rest => some ('"', rest)
  | '\\' :: rest => some ('\\', rest)
  | 'x' :: a :: b :: rest => codedChar [a, b] rest
  | 'u' :: a :: b :: c :: d :: rest => codedChar [a, b, c, d] rest
  | 'U' :: a :: b :: c :: d :: e :: f :: g :: h :: rest => codedChar [a, b, c, d, e, f, g, h] rest
  | _ => none

/-- The characters of a string, last first, and what follows it. -/
def finished (done rest : List Char) : Option (String × List Char) :=
  some (String.ofList done.reverse, rest)

/-- The rest of a string in double quotes. -/
def basicString : Nat → List Char → List Char → Option (String × List Char)
  | 0, _, _ => none
  | _ + 1, _, [] => none
  | _ + 1, done, '"' :: rest => finished done rest
  | fuel + 1, done, '\\' :: rest =>
    match escape? rest with
    | some (c, rest) => basicString fuel (c :: done) rest
    | none => none
  | fuel + 1, done, c :: rest => if isPlain c then basicString fuel (c :: done) rest else none

/-- The rest of a string in single quotes. -/
def literalString : List Char → List Char → Option (String × List Char)
  | _, [] => none
  | done, '\'' :: rest => finished done rest
  | done, c :: rest => if isPlain c then literalString (c :: done) rest else none

/-- The end of a string of several lines, after three quotes: up to two quotes before them belong to
it. -/
def closeLines (quote : Char) (done rest : List Char) : Option (String × List Char) :=
  match rest with
  | c :: d :: more =>
    if c = quote then
      if d = quote then finished (quote :: quote :: done) more
        else finished (quote :: done) (d :: more)
    else finished done rest
  | [c] => if c = quote then finished (quote :: done) [] else finished done rest
  | [] => finished done rest

/-- What follows all blanks and line breaks. -/
def skipLines : Nat → List Char → List Char
  | 0, cs => cs
  | fuel + 1, cs =>
    match newline? (skipBlank cs) with
    | some rest => skipLines fuel rest
    | none => skipBlank cs

/-- The rest of a string of several lines in double quotes. A backslash at the end of a line joins
it to the next character that is not blank. -/
def basicLines : Nat → List Char → List Char → Option (String × List Char)
  | 0, _, _ => none
  | _ + 1, _, [] => none
  | _ + 1, done, '"' :: '"' :: '"' :: rest => closeLines '"' done rest
  | fuel + 1, done, '\\' :: rest =>
    match newline? (skipBlank rest) with
    | some rest => basicLines fuel done (skipLines rest.length rest)
    | none =>
      match escape? rest with
      | some (c, rest) => basicLines fuel (c :: done) rest
      | none => none
  | fuel + 1, done, '\r' :: '\n' :: rest => basicLines fuel ('\n' :: '\r' :: done) rest
  | fuel + 1, done, c :: rest =>
    if isPlain c || c == '\n' then basicLines fuel (c :: done) rest else none

/-- The rest of a string of several lines in single quotes. -/
def literalLines : List Char → List Char → Option (String × List Char)
  | _, [] => none
  | done, '\'' :: '\'' :: '\'' :: rest => closeLines '\'' done rest
  | done, '\r' :: '\n' :: rest => literalLines ('\n' :: '\r' :: done) rest
  | done, c :: rest => if isPlain c || c == '\n' then literalLines (c :: done) rest else none

/-- The text without the line break at its front. -/
def dropFirstBreak (cs : List Char) : List Char :=
  (newline? cs).getD cs

/-- A string of one line. -/
def lineString? : List Char → Option (String × List Char)
  | '"' :: rest => basicString (rest.length + 1) [] rest
  | '\'' :: rest => literalString [] rest
  | _ => none

/-- **A string.** -/
def string? : List Char → Option (String × List Char)
  | '"' :: '"' :: '"' :: rest => basicLines (rest.length + 1) [] (dropFirstBreak rest)
  | '\'' :: '\'' :: '\'' :: rest => literalLines [] (dropFirstBreak rest)
  | cs => lineString? cs

/-! ## Numbers -/

/-- Digits without the underscores that stand between two of them. -/
def ungrouped? (isDigit : Char → Bool) : List Char → Option (List Char)
  | [] => none
  | [c] => if isDigit c then some [c] else none
  | c :: '_' :: rest => if isDigit c then (ungrouped? isDigit rest).map (c :: ·) else none
  | c :: rest => if isDigit c then (ungrouped? isDigit rest).map (c :: ·) else none

/-- A run of digits and underscores. -/
def digitRun? (isDigit : Char → Bool) (cs : List Char) : Option (List Char × List Char) :=
  let inRun := fun c => isDigit c || c == '_'
  (ungrouped? isDigit (cs.takeWhile inRun)).map (·, cs.dropWhile inRun)

/-- An integer that a word of 128 bits holds, signed or unsigned. -/
def integer? (i : Int) : Option Json :=
  if -(Number.twoTo 127 : Int) ≤ i ∧ i < Number.twoTo 128 then some (.number (.integer i)) else none

/-- An integer in a base that its front names. -/
def basedInteger? (base : Nat) (cs : List Char) : Option (Json × List Char) := do
  let (digits, rest) ← digitRun? (fun c => (Text.hexValue? c).any (· < base)) cs
  let n ← Text.numberInBase? base 0 digits
  return (← integer? n, rest)

/-- The digits after a decimal point. -/
def fraction? : List Char → Option (List Char × List Char)
  | '.' :: rest => digitRun? Text.isAsciiDigit rest
  | rest => some ([], rest)

/-- The power of ten after a letter e. -/
def exponent? : List Char → Option (Int × List Char)
  | c :: rest =>
    if c = 'e' ∨ c = 'E' then
      let (negative, rest) := Number.splitSign rest
      (digitRun? Text.isAsciiDigit rest).map fun (digits, rest) =>
        (if negative then -(Text.digitsValue digits : Int) else Text.digitsValue digits, rest)
    else some (0, c :: rest)
  | [] => some (0, [])

/-- A number in base ten after its sign. A leading zero stands alone, and a number beyond every
double is refused. -/
def decimal? (negative : Bool) (cs : List Char) : Option (Json × List Char) := do
  let (whole, afterWhole) ← digitRun? Text.isAsciiDigit cs
  if whole.head? = some '0' ∧ whole ≠ ['0'] then none
  else
    let (fraction, afterFraction) ← fraction? afterWhole
    let (exponent, rest) ← exponent? afterFraction
    if rest.length = afterWhole.length then
      let n : Int := Text.digitsValue whole
      return (← integer? (if negative then -n else n), rest)
    else
      let x := Number.doubleOfDecimal negative (Text.digitsValue (whole ++ fraction))
        (exponent - fraction.length)
      if Number.isFiniteDouble x then some (.number (.real x), rest) else none

/-- What follows a word at the front. -/
def word? (word cs : List Char) : Option (List Char) :=
  if word.isPrefixOf cs then some (cs.drop word.length) else none

/-- A number after its sign: infinity, no number, or digits. -/
def signedNumber? (negative : Bool) (cs : List Char) : Option (Json × List Char) :=
  match word? ['i', 'n', 'f'] cs with
  | some rest => some (.number (.real (Number.doubleOf (.infinite negative))), rest)
  | none =>
    match word? ['n', 'a', 'n'] cs with
    | some rest => some (.number (.real (Number.doubleOf .notANumber)), rest)
    | none => decimal? negative cs

/-- **A number.** Only numbers in base ten have signs. -/
def number? : List Char → Option (Json × List Char)
  | '0' :: 'x' :: rest => basedInteger? 16 rest
  | '0' :: 'o' :: rest => basedInteger? 8 rest
  | '0' :: 'b' :: rest => basedInteger? 2 rest
  | '-' :: rest => signedNumber? true rest
  | '+' :: rest => signedNumber? false rest
  | rest => signedNumber? false rest

/-! ## Dates and times -/

/-- A number of so many digits. -/
def fixedDigits? (count : Nat) (cs : List Char) : Option (Nat × List Char) :=
  let digits := cs.take count
  if digits.length = count ∧ digits.all Text.isAsciiDigit then
    some (Text.digitsValue digits, cs.drop count)
  else none

/-- What follows a character at the front. -/
def char? (c : Char) : List Char → Option (List Char)
  | d :: rest => if c = d then some rest else none
  | [] => none

/-- A year with a day more. -/
def isLeapYear (year : Nat) : Bool :=
  (year % 4 == 0 && year % 100 != 0) || year % 400 == 0

/-- The days of a month. -/
def daysOf (year month : Nat) : Nat :=
  if month = 2 then (if isLeapYear year then 29 else 28)
  else if month = 4 ∨ month = 6 ∨ month = 9 ∨ month = 11 then 30
  else 31

/-- What follows a date. -/
def date? (cs : List Char) : Option (List Char) := do
  let (year, rest) ← fixedDigits? 4 cs
  let rest ← char? '-' rest
  let (month, rest) ← fixedDigits? 2 rest
  let rest ← char? '-' rest
  let (day, rest) ← fixedDigits? 2 rest
  if 1 ≤ month ∧ month ≤ 12 ∧ 1 ≤ day ∧ day ≤ daysOf year month then some rest else none

/-- What follows an hour and a minute. -/
def clock? (cs : List Char) : Option (List Char) := do
  let (hour, rest) ← fixedDigits? 2 cs
  let rest ← char? ':' rest
  let (minute, rest) ← fixedDigits? 2 rest
  if hour ≤ 23 ∧ minute ≤ 59 then some rest else none

/-- What follows the seconds of a time, which may be left out, and their fraction. -/
def seconds? : List Char → Option (List Char)
  | ':' :: cs => do
    let (second, rest) ← fixedDigits? 2 cs
    if 60 < second then none
    else
      match rest with
      | '.' :: c :: rest =>
        if Text.isAsciiDigit c then some (rest.dropWhile Text.isAsciiDigit) else none
      | rest => some rest
  | cs => some cs

/-- What follows a time. -/
def time? (cs : List Char) : Option (List Char) :=
  (clock? cs).bind seconds?

/-- What follows the distance of a time from universal time, which may be left out. -/
def offset? : List Char → Option (List Char)
  | 'Z' :: rest => some rest
  | 'z' :: rest => some rest
  | '+' :: rest => clock? rest
  | '-' :: rest => clock? rest
  | rest => some rest

/-- What follows a date and, where there is one, the time after it. -/
def dateTime? (cs : List Char) : Option (List Char) := do
  match ← date? cs with
  | 'T' :: rest => (time? rest).bind offset?
  | 't' :: rest => (time? rest).bind offset?
  | ' ' :: c :: rest =>
    if Text.isAsciiDigit c then (time? (c :: rest)).bind offset? else some (' ' :: c :: rest)
  | rest => some rest

/-- Whether a value begins as a date or as a time. -/
def beginsMoment (cs : List Char) : Bool :=
  ((fixedDigits? 4 cs).bind fun (_, rest) => char? '-' rest).isSome ||
    ((fixedDigits? 2 cs).bind fun (_, rest) => char? ':' rest).isSome

/-- **A date, a time or both.** -/
def moment? (cs : List Char) : Option (Json × List Char) := do
  let rest ← if ((fixedDigits? 2 cs).bind fun (_, rest) => char? ':' rest).isSome then time? cs
    else dateTime? cs
  some (.object [("moment", .string (String.ofList (cs.take (cs.length - rest.length))))], rest)

/-- **A value without parts.** -/
def scalar? (cs : List Char) : Option (Json × List Char) :=
  match cs with
  | '"' :: _ => (string? cs).map fun (s, rest) => (.string s, rest)
  | '\'' :: _ => (string? cs).map fun (s, rest) => (.string s, rest)
  | 't' :: rest => (word? ['r', 'u', 'e'] rest).map (.bool true, ·)
  | 'f' :: rest => (word? ['a', 'l', 's', 'e'] rest).map (.bool false, ·)
  | _ => if beginsMoment cs then moment? cs else number? cs

end Gazetteer.Toml

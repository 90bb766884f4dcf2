import Gazetteer.Json
import Gazetteer.Number.DecimalText
import Gazetteer.Text.Hex

/-!
# Reading JSON

A recursive-descent reader over characters. Every step returns the characters it left; the nesting
depth and the number of items are bounded by fuel, which the wrapper takes from the length of the
text. A name that an object repeats keeps its last value.
-/

namespace Gazetteer.Json

/-- The four characters that may stand between tokens. -/
def isGap (c : Char) : Bool :=
  c == ' ' || c == '\n' || c == '\r' || c == '\t'

/-- The text from its next token on. -/
def skipGap (cs : List Char) : List Char :=
  cs.dropWhile isGap

/-- The first half of a pair of code units. -/
def isHighUnit (n : Nat) : Bool :=
  0xD800 ≤ n && n < 0xDC00

/-- The second half of a pair of code units. -/
def isLowUnit (n : Nat) : Bool :=
  0xDC00 ≤ n && n < 0xE000

/-- The character of the letter after a backslash. -/
def escapeOf? (c : Char) : Option Char :=
  match c with
  | '"' => some '"'
  | '\\' => some '\\'
  | '/' => some '/'
  | 'b' => some (Char.ofNat 8)
  | 'f' => some (Char.ofNat 12)
  | 'n' => some '\n'
  | 'r' => some '\r'
  | 't' => some '\t'
  | _ => none

/-- The characters up to the closing quote, and what follows it. A code unit of a pair must stand in
one. -/
def readQuoted : Nat → List Char → List Char → Option (String × List Char)
  | 0, _, _ => none
  | _ + 1, done, '"' :: rest => some (String.ofList done.reverse, rest)
  | fuel + 1, done, '\\' :: 'u' :: a :: b :: c :: d :: rest =>
    match Text.hexNumber? [a, b, c, d] with
    | none => none
    | some unit =>
      if isLowUnit unit then none
      else if isHighUnit unit then
        match rest with
        | '\\' :: 'u' :: a :: b :: c :: d :: rest =>
          match Text.hexNumber? [a, b, c, d] with
          | none => none
          | some low =>
            if isLowUnit low then
              let code := 0x10000 + (unit - 0xD800) * 0x400 + (low - 0xDC00)
              readQuoted fuel (Char.ofNat code :: done) rest
            else none
        | _ => none
      else readQuoted fuel (Char.ofNat unit :: done) rest
  | fuel + 1, done, '\\' :: c :: rest =>
    match escapeOf? c with
    | some e => readQuoted fuel (e :: done) rest
    | none => none
  | fuel + 1, done, c :: rest => if c.toNat < 32 then none else readQuoted fuel (c :: done) rest
  | _ + 1, _, [] => none

/-- The number of a text that has neither point nor exponent: an integer if a signed or an unsigned
word of 64 bits holds it. A negative zero is no integer. -/
def wholeNumber (negative : Bool) (magnitude : Nat) : JsonNumber :=
  if negative then
    if magnitude = 0 ∨ Number.twoTo 63 < magnitude then
      .real (Number.doubleOfDecimal true magnitude 0)
    else .integer (-(magnitude : Int))
  else if Number.twoTo 64 ≤ magnitude then .real (Number.doubleOfDecimal false magnitude 0)
  else .integer magnitude

/-- A number and what follows it. A leading zero stands alone, a point needs a digit after it, and a
number beyond every double is refused. -/
def readNumber (cs : List Char) : Option (JsonNumber × List Char) :=
  let (negative, rest) := match cs with
    | '-' :: rest => (true, rest)
    | rest => (false, rest)
  let (whole, rest) := Number.splitDigits rest
  if whole = [] ∨ (whole.head? = some '0' ∧ whole ≠ ['0']) then none
  else
    let (fraction?, rest) := match rest with
      | '.' :: rest =>
        let (fraction, rest) := Number.splitDigits rest
        (if fraction = [] then none else some fraction, rest)
      | rest => (some [], rest)
    match fraction? with
    | none => none
    | some fraction =>
      let isExponent := fun (c : Char) => c == 'e' || c == 'E'
      match rest with
      | c :: more =>
        if isExponent c then
          let sign := more.takeWhile (fun c => c == '-' || c == '+')
          let (digits, rest) := Number.splitDigits (more.drop sign.length)
          if digits = [] ∨ 1 < sign.length then none
          else
            let e : Int := if sign = ['-'] then -(Text.digitsValue digits : Int)
              else Text.digitsValue digits
            let x := Number.doubleOfDecimal negative (Text.digitsValue (whole ++ fraction))
              (e - fraction.length)
            if Number.isFiniteDouble x then some (.real x, rest) else none
        else if fraction = [] then some (wholeNumber negative (Text.digitsValue whole), rest)
        else
          some (.real (Number.doubleOfDecimal negative (Text.digitsValue (whole ++ fraction))
            (-(fraction.length : Int))), rest)
      | [] =>
        if fraction = [] then some (wholeNumber negative (Text.digitsValue whole), [])
        else
          some (.real (Number.doubleOfDecimal negative (Text.digitsValue (whole ++ fraction))
            (-(fraction.length : Int))), [])

/-- The members with one more, which takes the place of an earlier one of its name. -/
def putMember (name : String) (value : Json) : List (String × Json) → List (String × Json)
  | [] => [(name, value)]
  | (other, old) :: rest =>
    if other = name then (name, value) :: rest else (other, old) :: putMember name value rest

/-- The word at the front of a text, and what follows it. -/
def dropWord? (word cs : List Char) : Option (List Char) :=
  if word.isPrefixOf cs then some (cs.drop word.length) else none

mutual

/-- A value and what follows it. -/
def readValue : Nat → List Char → Option (Json × List Char)
  | 0, _ => none
  | fuel + 1, cs =>
    match skipGap cs with
    | '"' :: rest => (readQuoted fuel [] rest).map fun (s, rest) => (.string s, rest)
    | '[' :: rest =>
      match skipGap rest with
      | ']' :: rest => some (.array [], rest)
      | rest => (readItems fuel [] rest).map fun (items, rest) => (.array items, rest)
    | '\x7b' :: rest =>
      match skipGap rest with
      | '\x7d' :: rest => some (.object [], rest)
      | rest => (readMembers fuel [] rest).map fun (members, rest) => (.object members, rest)
    | 't' :: rest => (dropWord? ['r', 'u', 'e'] rest).map fun rest => (.bool true, rest)
    | 'f' :: rest => (dropWord? ['a', 'l', 's', 'e'] rest).map fun rest => (.bool false, rest)
    | 'n' :: rest => (dropWord? ['u', 'l', 'l'] rest).map fun rest => (.null, rest)
    | rest => (readNumber rest).map fun (n, rest) => (.number n, rest)

/-- The items of an array from the next one on, and what follows the closing bracket. -/
def readItems : Nat → List Json → List Char → Option (List Json × List Char)
  | 0, _, _ => none
  | fuel + 1, done, cs =>
    match readValue fuel cs with
    | none => none
    | some (item, rest) =>
      match skipGap rest with
      | ',' :: rest => readItems fuel (item :: done) rest
      | ']' :: rest => some ((item :: done).reverse, rest)
      | _ => none

/-- The members of an object from the next one on, and what follows the closing brace. -/
def readMembers : Nat → List (String × Json) → List Char → Option (List (String × Json) × List Char)
  | 0, _, _ => none
  | fuel + 1, done, cs =>
    match skipGap cs with
    | '"' :: rest =>
      match readQuoted fuel [] rest with
      | none => none
      | some (name, rest) =>
        match skipGap rest with
        | ':' :: rest =>
          match readValue fuel rest with
          | none => none
          | some (value, rest) =>
            match skipGap rest with
            | ',' :: rest => readMembers fuel (putMember name value done) rest
            | '\x7d' :: rest => some (putMember name value done, rest)
            | _ => none
        | _ => none
    | _ => none

end

/-- **Reading a text** that is one value, with gaps around it. -/
def read? (s : String) : Option Json :=
  let cs := s.toList
  match readValue (2 * cs.length + 2) cs with
  | some (value, rest) => if skipGap rest = [] then some value else none
  | none => none

end Gazetteer.Json

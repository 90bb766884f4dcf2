import Gazetteer.Text.Casing

/-!
# Lowercase text

The lowercase form of a character, and of a text. The two differ at one letter: a capital sigma that
ends a word becomes `ς` in a text, and `σ` everywhere else and on its own.
-/

namespace Gazetteer.Text

/-- The counterpart of a code point in the first run that holds it, or the code point itself. -/
def lowerCode : List CaseRun → Nat → Nat
  | [], n => n
  | run :: rest, n =>
    if n < run.first then n
    else if n ≤ run.last && (n - run.first) % run.step == 0 then (n + run.shift).toNat
    else lowerCode rest n

/-- The capital I with a dot above, whose lowercase form is an i and a combining dot. -/
def dottedCapitalI : Char := 'İ'

/-- The capital sigma. -/
def capitalSigma : Char := 'Σ'

/-- **Lowercase of one character** on its own. -/
def lowerChar (c : Char) : List Char :=
  if c = dottedCapitalI then ['i', Char.ofNat 0x307] else [Char.ofNat (lowerCode caseRuns c.toNat)]

/-- Whether the next character that is not passed over has case. -/
def casedAhead (cs : List Char) : Bool :=
  match cs.dropWhile isCaseIgnorable with
  | [] => false
  | c :: _ => isCased c

/-- Lowercase of the rest of a text; `casedBehind` says whether the last character before it that is
not passed over has case. A capital sigma with a cased letter behind it and none ahead ends a
word. -/
def lowerFrom (casedBehind : Bool) : List Char → List Char
  | [] => []
  | c :: rest =>
    let behind := if isCaseIgnorable c then casedBehind else isCased c
    if c = capitalSigma then
      (if casedBehind && !casedAhead rest then 'ς' else 'σ') :: lowerFrom behind rest
    else lowerChar c ++ lowerFrom behind rest

/-- **Lowercase of a text.** -/
def lowercase (s : String) : String :=
  String.ofList (lowerFrom false s.toList)

end Gazetteer.Text

import Gazetteer.Address
import Gazetteer.Query.SortSpec
import Gazetteer.Score
import Gazetteer.Text.Order

/-!
# Ranking of candidates

The order in which candidates are returned: by the sort keys, then by descending score, then by id.
A number key is the number that the leading ASCII digits of a value write; values that do not begin
with a digit, or whose number no 64-bit word holds, come after all that have one and tie among
themselves. Street names are compared in lowercase.
-/

namespace Gazetteer.Index

/-- The greatest number key. -/
def greatestKey : Nat := 18446744073709551615

/-- **The number key** of a value. -/
def numberKey (value : String) : Option Nat :=
  let digits := (Text.trimChars value.toList).takeWhile Text.isAsciiDigit
  if digits = [] then none
  else
    let n := Text.digitsValue digits
    if n ≤ greatestKey then some n else none

/-- The order of naturals. -/
def compareNat (a b : Nat) : Ordering :=
  if a < b then .lt else if b < a then .gt else .eq

/-- The order of number keys: a missing one comes last. -/
def compareKeys : Option Nat → Option Nat → Ordering
  | some a, some b => compareNat a b
  | some _, none => .lt
  | none, some _ => .gt
  | none, none => .eq

/-- The ascending order of a sort field. -/
def compareField (field : SortField) (a b : Address) : Ordering :=
  match field with
  | .streetNumber => compareKeys (numberKey a.numberFirst) (numberKey b.numberFirst)
  | .flatNumber => compareKeys (numberKey a.flatNumber) (numberKey b.flatNumber)
  | .streetName => Text.compareText (Text.lowercase a.streetName) (Text.lowercase b.streetName)

/-- The order of one sort key. -/
def compareKey (key : SortKey) (a b : Address) : Ordering :=
  match key.direction with
  | .ascending => compareField key.field a b
  | .descending => (compareField key.field a b).swap

/-- An address with its score. -/
abbrev Candidate := Score × Address

/-- The order where all keys tie: higher scores first, then by id. -/
def compareRest (a b : Candidate) : Ordering :=
  (Score.compareTotal b.1 a.1).then (Text.compareText a.2.id b.2.id)

/-- **The order of candidates** under sort keys: the first key that tells them apart decides. -/
def compareCandidates : SortSpec → Candidate → Candidate → Ordering
  | [], a, b => compareRest a b
  | key :: rest, a, b => (compareKey key a.2 b.2).then (compareCandidates rest a b)

/-- **Ranking**: the candidates in order, ties as they came. -/
def rank (spec : SortSpec) (candidates : List Candidate) : List Candidate :=
  candidates.mergeSort fun a b => (compareCandidates spec a b).isLE

end Gazetteer.Index

/-!
# Tables of code-point ranges

A character property is a table of ranges of code points, ends included, in rising order. The order
lets a lookup stop at the first range above the character.
-/

namespace Gazetteer.Text

/-- Ranges of code points, each with its first and last member, in rising order. -/
abbrev RangeTable := List (Nat × Nat)

/-- **Membership**: some range of the table holds the code point. A range that starts above it ends
the search, because the ranges rise. -/
def RangeTable.covers : RangeTable → Nat → Bool
  | [], _ => false
  | (first, last) :: rest, n => if n < first then false else n ≤ last || RangeTable.covers rest n

end Gazetteer.Text

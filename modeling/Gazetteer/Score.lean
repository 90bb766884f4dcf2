import Gazetteer.Number.Binary

/-!
# Relevance scores

A score is an IEEE single. Two orders of scores are in use and they differ at the edges: the numeric
order, in which both zeros are equal and what is no number compares with nothing, decides which of
two hits is better; the total order, in which every bit pattern has its place, sorts lists.
-/

namespace Gazetteer

/-- A relevance score. -/
abbrev Score := Float32

namespace Score

/-- The bits below the sign, which rise with the magnitude. -/
def magnitude (x : Score) : Nat :=
  x.toBits.toNat % 2147483648

/-- Whether the sign bit is set. -/
def negative (x : Score) : Bool :=
  decide (2147483648 ≤ x.toBits.toNat)

/-- Not a number: the magnitude lies above infinity. -/
def unordered (x : Score) : Bool :=
  decide (0x7F800000 < magnitude x)

/-- The place of a number in the numeric order; both zeros share one. -/
def numericRank (x : Score) : Int :=
  if negative x then -(magnitude x : Int) else magnitude x

/-- The place of a bit pattern in the total order: negative ones from the greatest magnitude up to
the negative zero, then the others. -/
def totalRank (x : Score) : Int :=
  if negative x then -(magnitude x : Int) - 1 else magnitude x

/-- **The numeric order**: `x` is the greater number. False whenever one of the two is no number. -/
def exceeds (x y : Score) : Bool :=
  !unordered x && !unordered y && decide (numericRank y < numericRank x)

/-- **The total order** of bit patterns. -/
def compareTotal (x y : Score) : Ordering :=
  if totalRank x < totalRank y then .lt else if totalRank y < totalRank x then .gt else .eq

end Score

end Gazetteer

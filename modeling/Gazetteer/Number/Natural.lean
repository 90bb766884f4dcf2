/-!
# Powers and sums

Powers of the two bases that numbers are written in, and the sum of a list.
-/

namespace Gazetteer.Number

/-- A power of two. -/
def twoTo (n : Nat) : Nat :=
  Nat.pow 2 n

/-- A power of ten. -/
def tenTo (n : Nat) : Nat :=
  Nat.pow 10 n

/-- The sum of a list. -/
def total : List Nat → Nat
  | [] => 0
  | n :: rest => n + total rest

end Gazetteer.Number

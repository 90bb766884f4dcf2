/-!
# Edit distance

The distance between two terms counts characters put in, left out or replaced, and neighbours
swapped, where no character is edited twice (optimal string alignment). `distance` is its recursion,
`withinEdits` decides a bound on it and looks no further than the bound allows.
-/

namespace Gazetteer.Index

/-- **The distance** of two character lists: the cheapest way to align their fronts, and the rest.
Fronts of two characters that are each other's swap may be aligned as one edit. -/
def distance : List Char → List Char → Nat
  | [], bs => bs.length
  | as, [] => as.length
  | a :: as, b :: bs =>
    let plain := min (distance as bs + if a = b then 0 else 1)
      (min (distance as (b :: bs)) (distance (a :: as) bs) + 1)
    match as, bs with
    | c :: as, d :: bs => if a = d ∧ c = b then min plain (distance as bs + 1) else plain
    | _, _ => plain
termination_by as bs => as.length + bs.length

/-- Whether one character list becomes the other by at most `budget` edits. -/
def withinEdits : Nat → List Char → List Char → Bool
  | budget, [], bs => bs.length ≤ budget
  | budget, as, [] => as.length ≤ budget
  | 0, a :: as, b :: bs => a == b && withinEdits 0 as bs
  | budget + 1, a :: as, b :: bs =>
    (a == b && withinEdits (budget + 1) as bs) || withinEdits budget as bs ||
      withinEdits budget as (b :: bs) || withinEdits budget (a :: as) bs ||
      (match as, bs with
        | c :: as, d :: bs => a == d && c == b && withinEdits budget as bs
        | _, _ => false)
termination_by _ as bs => as.length + bs.length

end Gazetteer.Index

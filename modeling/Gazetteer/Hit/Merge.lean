import Gazetteer.Hit

/-!
# Merging two lists of hits

The structured hits and the completions become one list in which each address appears once, with its
better hit. The list is ordered by score; hits of equal score keep the order in which their
addresses first appeared, so that the structured path's order survives.
-/

namespace Gazetteer.Hit

/-- Adds a hit to a list of distinct addresses. The first hit of an address stays at its place
unless the new one's score exceeds it; then the new one takes that place. -/
def absorb (hit : Hit) : List Hit → List Hit
  | [] => [hit]
  | seen :: rest =>
    if seen.identity = hit.identity then
      (if Score.exceeds hit.score seen.score then hit else seen) :: rest
    else seen :: absorb hit rest

/-- One hit for each address, at the place where the address first appeared. -/
def distinct (hits : List Hit) : List Hit :=
  hits.foldl (fun kept hit => absorb hit kept) []

/-- Whether a hit may stand before another in a list by descending score. -/
def ranksBefore (a b : Hit) : Bool :=
  Score.compareTotal b.score a.score != .gt

/-- **The merged list.** -/
def merge (structured suggested : List Hit) : List Hit :=
  (distinct (structured ++ suggested)).mergeSort ranksBefore

end Gazetteer.Hit

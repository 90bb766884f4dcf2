/-!
# The order of texts

Texts are ordered by their characters' code points, a text before every longer one that it begins.
Their UTF-8 forms have the same order byte by byte.
-/

namespace Gazetteer.Text

/-- **The order of character lists.** -/
def compareChars : List Char → List Char → Ordering
  | [], [] => .eq
  | [], _ :: _ => .lt
  | _ :: _, [] => .gt
  | a :: as, b :: bs =>
    if a.toNat < b.toNat then .lt
    else if b.toNat < a.toNat then .gt
    else compareChars as bs

/-- **The order of texts.** -/
def compareText (a b : String) : Ordering :=
  compareChars a.toList b.toList

end Gazetteer.Text

/-!
# Runs of characters

The longest runs of characters that a test accepts, in the order of the text. Words are the runs of
characters that are not blank, index terms the runs of letters and numbers.
-/

namespace Gazetteer.Text

/-- **The longest runs** of accepted characters. A character that is not accepted ends a run and is
in none; an accepted one opens a run of its own or joins the run after it. -/
def runs (accepts : Char → Bool) : List Char → List (List Char)
  | [] => []
  | c :: rest =>
    if accepts c then
      match rest with
      | [] => [[c]]
      | d :: _ =>
        if accepts d then (runs accepts rest).modifyHead (c :: ·) else [c] :: runs accepts rest
    else runs accepts rest

end Gazetteer.Text

/-!
# Pieces between separators

A text cut at every occurrence of one character. There is one piece more than there are separators.
-/

namespace Gazetteer.Text

/-- The pieces of a character list. -/
def pieces (separator : Char) : List Char → List (List Char)
  | [] => [[]]
  | c :: rest =>
    if c = separator then [] :: pieces separator rest
    else
      match pieces separator rest with
      | [] => [[c]]
      | piece :: others => (c :: piece) :: others

end Gazetteer.Text

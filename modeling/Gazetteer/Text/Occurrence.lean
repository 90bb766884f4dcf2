/-!
# Occurrences of a word in a text

Where a word first stands in a text, and the text cut there.
-/

namespace Gazetteer.Text

/-- **The first occurrence**: the number of characters in front of the earliest place at which the
word stands in the text. -/
def occurrence? (word : List Char) : List Char → Option Nat
  | [] => if word = [] then some 0 else none
  | c :: rest =>
    if word.isPrefixOf (c :: rest) then some 0 else (occurrence? word rest).map (· + 1)

/-- The text before and after the first occurrence of a word. -/
def splitAtWord (word text : List Char) : Option (List Char × List Char) :=
  (occurrence? word text).map fun n => (text.take n, text.drop (n + word.length))

end Gazetteer.Text

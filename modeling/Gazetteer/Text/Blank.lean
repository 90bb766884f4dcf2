import Gazetteer.Text.CodeRange
import Gazetteer.Text.Runs

/-!
# White space

Blank characters (the property `White_Space`), the two ends of a text, and its words: the longest
runs without a blank, which one space each joins again.
-/

namespace Gazetteer.Text

/-- The ranges of `White_Space`. -/
def blankRanges : RangeTable :=
  [(0x9, 0xD), (0x20, 0x20), (0x85, 0x85), (0xA0, 0xA0), (0x1680, 0x1680), (0x2000, 0x200A),
   (0x2028, 0x2029), (0x202F, 0x202F), (0x205F, 0x205F), (0x3000, 0x3000)]

/-- A white-space character. -/
def isBlank (c : Char) : Bool :=
  blankRanges.covers c.toNat

/-- The characters from the first that is not blank. -/
def trimStart (cs : List Char) : List Char :=
  cs.dropWhile isBlank

/-- The characters up to the last that is not blank. -/
def trimEnd (cs : List Char) : List Char :=
  (cs.reverse.dropWhile isBlank).reverse

/-- The characters without the blanks at either end. -/
def trimChars (cs : List Char) : List Char :=
  trimEnd (trimStart cs)

/-- A text without the blanks at either end. -/
def trim (s : String) : String :=
  String.ofList (trimChars s.toList)

/-- A text of blanks only, or none. -/
def isBlankText (s : String) : Bool :=
  s.toList.all isBlank

/-- The words of a character list. -/
def wordsOf (cs : List Char) : List (List Char) :=
  runs (fun c => !isBlank c) cs

/-- The words of a text. -/
def words (s : String) : List String :=
  (wordsOf s.toList).map String.ofList

/-- Words with one space between them. -/
def joinWords : List (List Char) → List Char
  | [] => []
  | [word] => word
  | word :: rest => word ++ ' ' :: joinWords rest

/-- The text of the words with one space between them. -/
def unwords (ws : List String) : String :=
  String.ofList (joinWords (ws.map String.toList))

end Gazetteer.Text

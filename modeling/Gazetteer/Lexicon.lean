import Gazetteer.Lexicon.StreetTypes
import Gazetteer.Text.Blank
import Gazetteer.Text.Lowercase
import Gazetteer.Text.Occurrence
import Gazetteer.Text.Order

/-!
# The lexicon of street-type words

A lexicon holds lowercase words in the order in which they are looked for: longer ones first, by the
bytes of their UTF-8 form, and words of one length in the order of their text. `Lexicon.find?` scans
a text for them and stops as soon as nothing longer is left.
-/

namespace Gazetteer

/-- The words that may end a street name, in scan order. -/
structure Lexicon where
  words : List String
deriving DecidableEq

namespace Lexicon

/-- The lowercase form of a word without blanks around it. -/
def normalWord (word : String) : String :=
  Text.lowercase (Text.trim word)

/-- **Scan order**: longer words first, then by text. -/
def scansBefore (a b : String) : Bool :=
  if a.utf8ByteSize = b.utf8ByteSize then (Text.compareText a b).isLE
  else decide (b.utf8ByteSize < a.utf8ByteSize)

/-- The list with one of each run of equal words. -/
def dropRepeats : List String → List String
  | first :: second :: rest =>
    if first = second then dropRepeats (second :: rest) else first :: dropRepeats (second :: rest)
  | words => words

/-- **The lexicon of a list of words**, each in its normal form. Words that are blank are left out,
and so are repetitions, which scan order brings together. -/
def ofWords (ws : List String) : Lexicon :=
  ⟨dropRepeats (((ws.map normalWord).filter (· ≠ "")).mergeSort scansBefore)⟩

/-- The street types in common use and the given words. -/
def withExtra (extra : List String) : Lexicon :=
  ofWords (streetTypes ++ extra)

/-- The street types in common use. -/
def standard : Lexicon :=
  withExtra []

/-- The number of words. -/
def size (lexicon : Lexicon) : Nat :=
  lexicon.words.length

/-- Whether the text is one of the words. -/
def contains (lexicon : Lexicon) (word : String) : Bool :=
  lexicon.words.contains word

/-- The scan of the words that are left: the best word so far with its place gives way to a word of
the same length that starts strictly earlier, and a shorter word ends the scan. -/
def scan (text : List Char) : Option (String × Nat) → List String → Option (String × Nat)
  | best, [] => best
  | none, word :: rest =>
    scan text ((Text.occurrence? word.toList text).map (word, ·)) rest
  | some (found, place), word :: rest =>
    if word.utf8ByteSize < found.utf8ByteSize then some (found, place)
    else
      match Text.occurrence? word.toList text with
      | some earlier =>
        if earlier < place then scan text (some (word, earlier)) rest
        else scan text (some (found, place)) rest
      | none => scan text (some (found, place)) rest

/-- **The word found in a text**: of the words that occur in it the longest, among these the one
that starts first. -/
def find? (lexicon : Lexicon) (text : String) : Option String :=
  (scan text.toList none lexicon.words).map (·.1)

end Lexicon

end Gazetteer

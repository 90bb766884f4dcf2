import Gazetteer.Lexicon
import Gazetteer.Text.Digit

/-!
# The slots of a query

A typed address falls into five slots, each of which may be empty:

[flat]/[number] [street name] [street type] [suburb]

`Slots.ofText` fills them from a query. The digits at the head of the query are the street number,
or the flat when a slash follows them; then the digits after the slash are the street number. The
rest is cut at the street-type word that the lexicon finds: before it stands the street name, after
it the suburb. With nothing before it the word itself is the name, since a name may begin like a
street type.
-/

namespace Gazetteer

/-- What a query says of each part of an address. -/
structure Slots where
  flat : String := ""
  number : String := ""
  name : String := ""
  streetType : String := ""
  suburb : String := ""
deriving DecidableEq

namespace Slots

/-- No slot is filled. -/
def isEmpty (s : Slots) : Bool :=
  s.flat == "" && s.number == "" && s.name == "" && s.streetType == "" && s.suburb == ""

/-- The head of a query: the digits of the flat, the digits of the street number, and what follows
them.
-/
structure Head where
  flat : List Char
  number : List Char
  rest : List Char
deriving DecidableEq

/-- One blank taken off the front, if there is one. -/
def dropBlank : List Char → List Char
  | [] => []
  | c :: rest => if Text.isBlank c then rest else c :: rest

/-- **The head of a query**: the longest run of digits, then a slash and the longest run of digits
after it, if a slash is there; and one blank. -/
def splitHead (cs : List Char) : Head :=
  let lead := cs.takeWhile Text.isDecimalDigit
  match cs.dropWhile Text.isDecimalDigit with
  | '/' :: rest =>
    ⟨lead, rest.takeWhile Text.isDecimalDigit, dropBlank (rest.dropWhile Text.isDecimalDigit)⟩
  | rest => ⟨[], lead, dropBlank rest⟩

/-- The name, type and suburb in the rest of a query, where the lexicon found a word or none. -/
def splitTail (found : Option String) (rest : List Char) : List Char × List Char × List Char :=
  match found with
  | none => (rest, [], [])
  | some word =>
    let (before, after) := (Text.splitAtWord word.toList rest).getD (rest, [])
    if before.all Text.isBlank then (word.toList, [], after) else (before, word.toList, after)

/-- **Filling the slots** from a query, read in lowercase and without blanks around it. The lexicon
looks at all of the query, the head included. -/
def ofText (lexicon : Lexicon) (raw : String) : Slots :=
  let query := Text.lowercase (Text.trim raw)
  let head := splitHead query.toList
  let (name, streetType, suburb) := splitTail (lexicon.find? query) head.rest
  { flat := String.ofList (Text.trimChars head.flat)
    number := String.ofList (Text.trimChars head.number)
    name := String.ofList (Text.trimChars name)
    streetType := String.ofList (Text.trimChars streetType)
    suburb := String.ofList (Text.trimChars suburb) }

end Slots

end Gazetteer

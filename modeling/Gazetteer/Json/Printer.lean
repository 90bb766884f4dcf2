import Gazetteer.Json
import Gazetteer.Number.Shortest

/-!
# Writing JSON

Two layouts of one grammar: compact, without any blank, and spread, with a line for each item and
member, two spaces deeper at each level. A real number is written with the shortest decimal that
reads back.
-/

namespace Gazetteer.Json

/-- The lowercase hexadecimal digit of a number below sixteen. -/
def hexDigit (n : Nat) : Char :=
  if n < 10 then Char.ofNat ('0'.toNat + n) else Char.ofNat ('a'.toNat + n - 10)

/-- A character inside quotes: a quote and a backslash get a backslash before them, control
characters their short form or their code. -/
def escapeChar (c : Char) : List Char :=
  if c = '"' then ['\\', '"']
  else if c = '\\' then ['\\', '\\']
  else if c = '\n' then ['\\', 'n']
  else if c = '\r' then ['\\', 'r']
  else if c = '\t' then ['\\', 't']
  else if c.toNat = 8 then ['\\', 'b']
  else if c.toNat = 12 then ['\\', 'f']
  else if c.toNat < 32 then ['\\', 'u', '0', '0', hexDigit (c.toNat / 16), hexDigit (c.toNat % 16)]
  else [c]

/-- A text in quotes. -/
def quoted (s : String) : String :=
  "\"" ++ String.ofList (s.toList.flatMap escapeChar) ++ "\""

/-- The text of a number. -/
def numberText : JsonNumber → String
  | .integer i => toString i
  | .real x => (Number.doubleText? x).getD "null"

/-- The parts with a separator between them. -/
def joined (separator : String) : List String → String
  | [] => ""
  | [part] => part
  | part :: rest => part ++ separator ++ joined separator rest

mutual

/-- **The compact text** of a value. -/
def compact : Json → String
  | .null => "null"
  | .bool true => "true"
  | .bool false => "false"
  | .number n => numberText n
  | .string s => quoted s
  | .array items => "[" ++ joined "," (compactItems items) ++ "]"
  | .object members => "\x7b" ++ joined "," (compactMembers members) ++ "\x7d"

/-- The compact texts of items. -/
def compactItems : List Json → List String
  | [] => []
  | item :: rest => compact item :: compactItems rest

/-- The compact texts of members. -/
def compactMembers : List (String × Json) → List String
  | [] => []
  | (name, value) :: rest => (quoted name ++ ":" ++ compact value) :: compactMembers rest

end

/-- A line break and the blanks of a level. -/
def lineBreak (level : Nat) : String :=
  String.ofList ('\n' :: List.replicate (2 * level) ' ')

/-- Lines between brackets, or the brackets alone where there is no line. -/
def block (opening closing : String) (level : Nat) : List String → String
  | [] => opening ++ closing
  | lines =>
    opening ++ lineBreak (level + 1) ++ joined ("," ++ lineBreak (level + 1)) lines ++
      lineBreak level ++ closing

mutual

/-- The text of a value at a level, spread over lines. -/
def spreadAt (level : Nat) : Json → String
  | .array items => block "[" "]" level (spreadItems (level + 1) items)
  | .object members => block "\x7b" "\x7d" level (spreadMembers (level + 1) members)
  | .null => "null"
  | .bool true => "true"
  | .bool false => "false"
  | .number n => numberText n
  | .string s => quoted s

/-- The texts of items at a level. -/
def spreadItems (level : Nat) : List Json → List String
  | [] => []
  | item :: rest => spreadAt level item :: spreadItems level rest

/-- The texts of members at a level. -/
def spreadMembers (level : Nat) : List (String × Json) → List String
  | [] => []
  | (name, value) :: rest =>
    (quoted name ++ ": " ++ spreadAt level value) :: spreadMembers level rest

end

/-- **The text of a value, spread over lines.** -/
def spread (j : Json) : String :=
  spreadAt 0 j

end Gazetteer.Json

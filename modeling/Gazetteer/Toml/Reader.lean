import Gazetteer.Toml.Scalar
import Gazetteer.Toml.Table

/-!
# Reading TOML

A document, line by line: headers, keys with their values, and comments. The result is the JSON
object of the whole document. Arrays and tables in braces may run over lines, with comments in
between and a comma at their ends, and nest up to a fixed depth.
-/

namespace Gazetteer.Toml

/-! ## Between tokens -/

/-- What follows a comment, its line break included. Without a comment there has to be a line break
too, or the end. -/
def lineEnd? (cs : List Char) : Option (List Char) :=
  let cs := match skipBlank cs with
    | '#' :: rest => rest.dropWhile isPlain
    | cs => cs
  match cs with
  | [] => some []
  | cs => newline? cs

/-- What follows blanks, line breaks and comments. -/
def skipGaps? : Nat → List Char → Option (List Char)
  | 0, cs => some cs
  | fuel + 1, cs =>
    match skipBlank cs with
    | '#' :: rest => (lineEnd? ('#' :: rest)).bind (skipGaps? fuel)
    | cs =>
      match newline? cs with
      | some rest => skipGaps? fuel rest
      | none => some cs

/-- What follows the gaps at the front. -/
def afterGaps? (cs : List Char) : Option (List Char) :=
  skipGaps? cs.length cs

/-! ## Keys -/

/-- A character of a key without quotes. -/
def isKeyChar (c : Char) : Bool :=
  Text.isAsciiDigit c || ('a'.toNat ≤ c.toNat && c.toNat ≤ 'z'.toNat) ||
    ('A'.toNat ≤ c.toNat && c.toNat ≤ 'Z'.toNat) || c == '-' || c == '_'

/-- One part of a key. -/
def keyPart? (cs : List Char) : Option (String × List Char) :=
  match cs with
  | '"' :: _ => lineString? cs
  | '\'' :: _ => lineString? cs
  | _ =>
    if cs.takeWhile isKeyChar = [] then none
    else some (String.ofList (cs.takeWhile isKeyChar), cs.dropWhile isKeyChar)

/-- The parts of a key from one on: those before the last, and the last. -/
def keyFrom? : Nat → List Char → Option ((List String × String) × List Char)
  | 0, _ => none
  | fuel + 1, cs => do
    let (part, rest) ← keyPart? (skipBlank cs)
    match skipBlank rest with
    | '.' :: rest =>
      let ((path, last), rest) ← keyFrom? fuel rest
      some ((part :: path, last), rest)
    | rest => some (([], part), rest)

/-- **A key**, and what follows it and its blanks. -/
def key? (cs : List Char) : Option ((List String × String) × List Char) :=
  keyFrom? (cs.length + 1) cs

/-! ## Values -/

/-- How a value is read. -/
abbrev ValueReader := List Char → Option (Json × List Char)

/-- A key, an equals sign and a value. -/
def pair? (value? : ValueReader) (cs : List Char) :
    Option (((List String × String) × Json) × List Char) := do
  let (key, rest) ← key? cs
  let rest ← char? '=' rest
  let (json, rest) ← value? (skipBlank rest)
  some ((key, json), rest)

/-- The items of an array from the next one on, last first. -/
def items? (value? : ValueReader) : Nat → List Json → List Char → Option (Json × List Char)
  | 0, _, _ => none
  | fuel + 1, done, cs => do
    match ← afterGaps? cs with
    | ']' :: rest => some (.array done.reverse, rest)
    | cs =>
      let (item, rest) ← value? cs
      match ← afterGaps? rest with
      | ']' :: rest => some (.array (item :: done).reverse, rest)
      | ',' :: rest => items? value? fuel (item :: done) rest
      | _ => none

/-- The members of a table in braces from the next one on. -/
def inlineMembers? (value? : ValueReader) : Nat → Members → List Char → Option (Json × List Char)
  | 0, _, _ => none
  | fuel + 1, members, cs => do
    match ← afterGaps? cs with
    | '\x7d' :: rest => some (.object (membersJson members), rest)
    | cs =>
      let (((path, key), json), rest) ← pair? value? cs
      let members ← members.assign path key json .stated
      match ← afterGaps? rest with
      | '\x7d' :: rest => some (.object (membersJson members), rest)
      | ',' :: rest => inlineMembers? value? fuel members rest
      | _ => none

/-- A value whose parts nest at most so deep. -/
def valueTo? : Nat → ValueReader
  | 0, cs =>
    match cs with
    | '[' :: _ => none
    | '\x7b' :: _ => none
    | cs => scalar? cs
  | depth + 1, cs =>
    match cs with
    | '[' :: rest => items? (valueTo? depth) (rest.length + 1) [] rest
    | '\x7b' :: rest => inlineMembers? (valueTo? depth) (rest.length + 1) [] rest
    | cs => scalar? cs

/-- The depth to which values nest. -/
def greatestDepth : Nat := 80

/-- **A value.** -/
def value? : ValueReader :=
  valueTo? greatestDepth

/-! ## Lines -/

/-- What has been read of a document: its root, and the path of the table that is being filled. -/
structure Draft where
  root : Members := []
  current : List String := []

/-- A header in single brackets, after its opening one. -/
def tableHeader? (draft : Draft) (cs : List Char) : Option (Draft × List Char) := do
  let ((path, key), rest) ← key? cs
  let rest ← char? ']' rest
  let root ← Members.within false (fun _ => Members.state key) path .stated draft.root
  some (⟨root, path ++ [key]⟩, rest)

/-- A header in double brackets, after its opening ones. -/
def arrayHeader? (draft : Draft) (cs : List Char) : Option (Draft × List Char) := do
  let ((path, key), rest) ← key? cs
  let rest ← char? ']' rest
  let rest ← char? ']' rest
  let root ← Members.within false (fun _ => Members.append key) path .stated draft.root
  some (⟨root, path ++ [key]⟩, rest)

/-- A key and its value in the current table. -/
def assignment? (draft : Draft) (cs : List Char) : Option (Draft × List Char) := do
  let (((path, key), json), rest) ← pair? value? cs
  let root ← Members.within false (Members.assign path key json) draft.current .stated draft.root
  some ({ draft with root }, rest)

/-- The lines of a document from one on. -/
def lines? : Nat → Draft → List Char → Option Draft
  | 0, draft, cs => if cs = [] then some draft else none
  | fuel + 1, draft, cs =>
    match skipBlank cs with
    | [] => some draft
    | '[' :: '[' :: rest => do
      let (draft, rest) ← arrayHeader? draft rest
      lines? fuel draft (← lineEnd? rest)
    | '[' :: rest => do
      let (draft, rest) ← tableHeader? draft rest
      lines? fuel draft (← lineEnd? rest)
    | c :: rest =>
      match lineEnd? (c :: rest) with
      | some rest => lines? fuel draft rest
      | none => do
        let (draft, rest) ← assignment? draft (c :: rest)
        lines? fuel draft (← lineEnd? rest)

/-- The text without the byte-order mark at its front. -/
def dropMark : List Char → List Char
  | '\uFEFF' :: rest => rest
  | cs => cs

/-- **Reading a document.** -/
def read? (s : String) : Option Json :=
  let cs := dropMark s.toList
  (lines? (cs.length + 1) {} cs).map fun draft => .object (membersJson draft.root)

end Gazetteer.Toml

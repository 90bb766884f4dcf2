import Gazetteer.Index.Document

/-!
# Completion patterns

Lines are looked for by a regular expression: a text with its signs escaped, and then whatever may
follow on the line. Of regular expressions there is what such patterns are written in: characters,
escaped signs, the dot, and the star behind any of these. A pattern has to match the whole line.
-/

namespace Gazetteer.Index

/-! ## Writing -/

/-- The characters that do not, or not everywhere, stand for themselves in a regular expression. -/
def patternSigns : List Char :=
  ['\\', '.', '+', '*', '?', '(', ')', '|', '[', ']', '\x7b', '\x7d', '^', '$', '#', '&', '-', '~']

/-- A character in a pattern that stands for it. -/
def escapeChar (c : Char) : List Char :=
  if c ∈ patternSigns then ['\\', c] else [c]

/-- **The pattern that stands for a text.** -/
def escape (text : String) : String :=
  String.ofList (text.toList.flatMap escapeChar)

/-! ## Reading -/

/-- What stands for one character. -/
inductive Atom where
  | only (c : Char)
  | dot
deriving DecidableEq

/-- A part of a pattern as it is written. -/
inductive PatternToken where
  | atom (atom : Atom)
  | star
deriving DecidableEq

/-- A part of a pattern as it is meant: an atom once, or any number of times. -/
inductive PatternPiece where
  | once (atom : Atom)
  | repeated (atom : Atom)
deriving DecidableEq

/-- The parts of a pattern as it is written; none where a sign stands that is not read here. -/
def tokens? : List Char → Option (List PatternToken)
  | [] => some []
  | '\\' :: c :: rest =>
    if c ∈ patternSigns then (tokens? rest).map (.atom (.only c) :: ·) else none
  | '.' :: rest => (tokens? rest).map (.atom .dot :: ·)
  | '*' :: rest => (tokens? rest).map (.star :: ·)
  | c :: rest => if c ∈ patternSigns then none else (tokens? rest).map (.atom (.only c) :: ·)

/-- The pieces that the parts are; a star needs an atom before it. -/
def pieces? : List PatternToken → Option (List PatternPiece)
  | [] => some []
  | .atom atom :: .star :: rest => (pieces? rest).map (.repeated atom :: ·)
  | .atom atom :: rest => (pieces? rest).map (.once atom :: ·)
  | .star :: _ => none

/-- **Reading a pattern.** -/
def readPattern? (pattern : String) : Option (List PatternPiece) :=
  (tokens? pattern.toList).bind pieces?

/-! ## Matching -/

/-- Whether an atom stands for a character. The dot stands for all but the end of a line. -/
def Atom.admits : Atom → Char → Bool
  | .only c, d => d == c
  | .dot, d => d != '\n'

/-- Any number of characters for which an atom stands, and then what is accepted after them. -/
def acceptsRepeated (atom : Atom) (acceptsRest : List Char → Bool) : List Char → Bool
  | [] => acceptsRest []
  | c :: cs => acceptsRest (c :: cs) || (atom.admits c && acceptsRepeated atom acceptsRest cs)

/-- **Whether pieces match a whole text.** -/
def acceptsPieces : List PatternPiece → List Char → Bool
  | [], cs => cs.isEmpty
  | .once _ :: _, [] => false
  | .once atom :: pieces, c :: cs => atom.admits c && acceptsPieces pieces cs
  | .repeated atom :: pieces, cs => acceptsRepeated atom (acceptsPieces pieces) cs

/-! ## Completion queries -/

/-- What is asked of the line of a document. -/
inductive CompletionQuery where
  | everything
  | pattern (pieces : List PatternPiece)
deriving DecidableEq

/-- The pattern of the lines that begin with a text. -/
def completionPattern (start : String) : String :=
  escape start ++ ".*"

/-- **The query for the lines that begin with a text**, if its pattern can be read. -/
def CompletionQuery.of? (start : String) : Option CompletionQuery :=
  if start = "" then some .everything else (readPattern? (completionPattern start)).map .pattern

/-- **Whether a document is asked for.** -/
def CompletionQuery.accepts (query : CompletionQuery) (d : Document) : Bool :=
  match query with
  | .everything => true
  | .pattern pieces => acceptsPieces pieces d.completion.toList

end Gazetteer.Index

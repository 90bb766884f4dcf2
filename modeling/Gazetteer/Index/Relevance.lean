import Gazetteer.Index.Document
import Gazetteer.Index.EditDistance

/-!
# Matching and relevance

A clause is matched term by term: every term of its value has to meet some term of the field. The
relevance of a document is the sum over the clauses of the weight of each term; terms met exactly
weigh by how rare they are and how short the field is, all others by the boost of their clause
alone. A value without terms is met by every document. Singles are rounded at every addition, so the
order of a sum is part of it: what fewer documents meet comes first.
-/

namespace Gazetteer.Index

/-- Whether a term of a value meets a term of a field. -/
def meets (mode : MatchMode) (wanted term : String) : Bool :=
  match mode with
  | .leading => wanted.toList.isPrefixOf term.toList
  | .exact => wanted == term
  | .near tolerance => withinEdits (tolerance.budget wanted) wanted.toList term.toList

/-- Whether some term of the field is met. -/
def meetsSome (mode : MatchMode) (wanted : String) (fieldTerms : List String) : Bool :=
  fieldTerms.any (meets mode wanted)

/-- What the weight of an exact term depends on: how many documents there are, how many have the
term, and how many terms the field has in all of them. -/
structure TermStatistics where
  documents : Nat
  withTerm : Nat
  fieldTerms : Nat

/-- A natural as a score. -/
def scoreOfNat (n : Nat) : Score :=
  Number.singleOfInt n

/-- How rare a term is: `ln (1 + (N - n + 1/2) / (n + 1/2))`. -/
def rarity (s : TermStatistics) : Score :=
  (1 + (scoreOfNat (s.documents - s.withTerm) + 0.5) / (scoreOfNat s.withTerm + 0.5)).log

/-- A field's number of terms as the index keeps it: exact up to forty, and beyond that with the
count above 24 cut to its four leading binary digits. -/
def keptLength (length : Nat) : Nat :=
  if length < 40 then length
  else
    let excess := length - 24
    let step := Number.twoTo (Nat.log2 excess - 3)
    24 + excess / step * step

/-- How much the length of a field dampens a term that occurs in it once. -/
def dampening (s : TermStatistics) (length : Nat) : Score :=
  let average := scoreOfNat s.fieldTerms / scoreOfNat s.documents
  let norm : Score := 1.2 * (1 - 0.75 + 0.75 * scoreOfNat (keptLength length) / average)
  1 / (1 + norm)

/-- **The weight of an exact term** in a field of a given length. -/
def exactWeight (boost : Score) (s : TermStatistics) (length : Nat) : Score :=
  rarity s * (1 + 1.2) * boost * dampening s length

/-- What is added up for a document: how many documents meet a condition, and its score for this
one. -/
abbrev Share := Nat × Score

/-- The sum of scores: of the first two, and of that and the sum of the others. -/
def sumScores : List Score → Score
  | [] => 0
  | [a] => a
  | [a, b] => a + b
  | a :: b :: rest => a + b + rest.foldl (· + ·) 0

/-- **The sum of shares**, those of the rarer conditions first. -/
def sumShares (shares : List Share) : Score :=
  sumScores ((shares.mergeSort fun a b => decide (a.1 ≤ b.1)).map (·.2))

/-- A clause made ready for many documents: its terms, each with its statistics, and how many
documents match it. -/
structure Probe where
  clause : Clause
  terms : List (String × TermStatistics)
  matching : Nat

/-- The statistics of a wanted term in a field of some documents. -/
def statisticsOf (documents : List Document) (mode : MatchMode) (field : Field) (wanted : String) :
    TermStatistics where
  documents := documents.length
  withTerm := documents.countP fun d => meetsSome mode wanted (d.terms.of field)
  fieldTerms := Number.total (documents.map fun d => (d.terms.of field).length)

/-- Whether a document has what the wanted terms meet. -/
def meetsAll (clause : Clause) (wanted : List String) (d : Document) : Bool :=
  wanted.all fun term => meetsSome clause.mode term (d.terms.of clause.field)

/-- Making a clause ready. -/
def Probe.of (documents : List Document) (clause : Clause) : Probe where
  clause
  terms := (Index.terms clause.value).map fun term =>
    (term, statisticsOf documents clause.mode clause.field term)
  matching := documents.countP (meetsAll clause (Index.terms clause.value))

/-- The weight of a term for a document that meets it. -/
def Probe.weight (p : Probe) (d : Document) (statistics : TermStatistics) : Score :=
  match p.clause.mode with
  | .exact => exactWeight p.clause.boost statistics (d.terms.of p.clause.field).length
  | _ => p.clause.boost

/-- **The score of a clause** for a document that matches it. -/
def Probe.score? (p : Probe) (d : Document) : Option Score :=
  if meetsAll p.clause (p.terms.map (·.1)) d then
    match p.terms with
    | [] => some 1
    | terms => some <| sumShares <| terms.map fun (_, statistics) =>
        (statistics.withTerm, p.weight d statistics)
  else none

/-- A plan made ready for many documents. -/
inductive Matcher where
  | everything
  | probes (probes : List Probe)

/-- Making a plan ready. -/
def Matcher.of (documents : List Document) : Plan → Matcher
  | .everything => .everything
  | .single clause => .probes [Probe.of documents clause]
  | .conjunction clauses => .probes (clauses.map (Probe.of documents))

/-- The share of a clause in the score of a document. -/
def Probe.share? (p : Probe) (d : Document) : Option Share :=
  (p.score? d).map (p.matching, ·)

/-- **The score of a plan** for a document that matches it. -/
def Matcher.score? (m : Matcher) (d : Document) : Option Score :=
  match m with
  | .everything => some 1
  | .probes [] => none
  | .probes (first :: rest) =>
    ((first :: rest).mapM fun p : Probe => p.share? d).map sumShares

end Gazetteer.Index

import Gazetteer.Index.Document
import Gazetteer.Index.EditDistance

/-!
# Which documents a plan is about

The meaning of plans, said without any search: a clause wants every term of its value to meet some
term of its field, and a plan wants its clauses. A value without terms wants nothing, and a
conjunction of no clauses is about no document.
-/

namespace Gazetteer

/-- **A wanted term meets a term of a field**: it begins it, is equal to it, or lies within the
allowed edits of it. -/
def MatchMode.Meets (mode : MatchMode) (wanted term : String) : Prop :=
  match mode with
  | .leading => wanted.toList <+: term.toList
  | .exact => wanted = term
  | .near tolerance => Index.distance wanted.toList term.toList ≤ tolerance.budget wanted

/-- **A document matches a clause.** -/
def Clause.Matches (clause : Clause) (document : Index.Document) : Prop :=
  ∀ wanted ∈ Index.terms clause.value,
    ∃ term ∈ document.terms.of clause.field, clause.mode.Meets wanted term

/-- **A document matches a plan.** -/
def Plan.Matches (plan : Plan) (document : Index.Document) : Prop :=
  match plan with
  | .everything => True
  | .single clause => clause.Matches document
  | .conjunction clauses => clauses ≠ [] ∧ ∀ clause ∈ clauses, clause.Matches document

end Gazetteer

import Gazetteer.Score

/-!
# Search plans

A plan says which addresses a query is about: every address, or those that meet a clause or all of
several clauses. A clause compares a value with one field, term by term, under a match mode and with
a weight.
-/

namespace Gazetteer

/-- The searchable fields. -/
inductive Field where
  | flatNumber
  | streetNumber
  | streetName
  | streetType
  | suburb
deriving DecidableEq

namespace Field

/-- Every field. -/
def all : List Field :=
  [.flatNumber, .streetNumber, .streetName, .streetType, .suburb]

/-- The name of a field in the index. -/
def name : Field → String
  | .flatNumber => "flat_number"
  | .streetNumber => "number_first"
  | .streetName => "street_name"
  | .streetType => "street_type_code"
  | .suburb => "locality_name"

/-- The field of a name. -/
def ofName? (s : String) : Option Field :=
  all.find? (·.name == s)

end Field

/-- How many edits a near match allows. -/
inductive Tolerance where
  | auto
  | edits (count : UInt8)
deriving DecidableEq

/-- **The edits allowed for a term**: by its length, none up to two characters, one up to five and
two beyond; or a fixed number, of which no more than two count. -/
def Tolerance.budget (t : Tolerance) (term : String) : Nat :=
  match t with
  | .auto =>
    let length := term.toList.length
    if length ≤ 2 then 0 else if length ≤ 5 then 1 else 2
  | .edits count => min count.toNat 2

/-- How the terms of a clause meet the terms of its field: as their beginnings, as themselves, or
within a number of edits. -/
inductive MatchMode where
  | leading
  | exact
  | near (tolerance : Tolerance)
deriving DecidableEq

/-- One condition on a field. -/
structure Clause where
  field : Field
  mode : MatchMode
  boost : Score
  value : String

namespace Clause

/-- The weight of a clause that says nothing of its weight. -/
def plainBoost : Score := 1

/-- The terms of the value begin terms of the field. -/
def leading (field : Field) (value : String) : Clause :=
  ⟨field, .leading, plainBoost, value⟩

/-- The terms of the value are terms of the field. -/
def exact (field : Field) (value : String) : Clause :=
  ⟨field, .exact, plainBoost, value⟩

/-- The terms of the value are near terms of the field, by their length. -/
def near (field : Field) (value : String) : Clause :=
  ⟨field, .near .auto, plainBoost, value⟩

/-- The clause with another weight. -/
def boosted (c : Clause) (boost : Score) : Clause :=
  { c with boost }

end Clause

/-- **A search plan.** A conjunction of no clauses is a plan of its own, which no address meets. -/
inductive Plan where
  | everything
  | single (clause : Clause)
  | conjunction (clauses : List Clause)

namespace Plan

/-- **The plan that asks for all the clauses**: no clause is no condition, and one needs no
conjunction. -/
def ofClauses : List Clause → Plan
  | [] => .everything
  | [clause] => .single clause
  | clauses => .conjunction clauses

/-- The clauses of a plan, in order. -/
def clauses : Plan → List Clause
  | .everything => []
  | .single clause => [clause]
  | .conjunction clauses => clauses

/-- The first clause on a field. -/
def clause? (plan : Plan) (field : Field) : Option Clause :=
  plan.clauses.find? (·.field == field)

end Plan

end Gazetteer

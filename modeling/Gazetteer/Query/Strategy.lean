import Gazetteer.Query.Plan
import Gazetteer.Query.SortSpec

/-!
# Strategies

Which slots a query fills decides how they are searched. Numbers are always matched by their
beginning, so that typing on narrows the result; street types and suburbs are matched nearly. A
street name is matched by its beginning too, except in a query of exactly name, type and suburb,
where it is matched nearly. Names always weigh double, and so do street numbers beside a flat and a
name, or beside a type and a suburb.
-/

namespace Gazetteer

/-- Which slots are filled. -/
structure Presence where
  flat : Bool
  number : Bool
  name : Bool
  streetType : Bool
  suburb : Bool
deriving DecidableEq

/-- The slots that a query fills. -/
def Slots.presence (s : Slots) : Presence where
  flat := s.flat != ""
  number := s.number != ""
  name := s.name != ""
  streetType := s.streetType != ""
  suburb := s.suburb != ""

/-- The ways to search, named for the slots they use. -/
inductive Strategy where
  | everything
  | number
  | flat
  | name
  | streetType
  | suburb
  | flatNumber
  | numberName
  | flatName
  | nameType
  | nameTypeSuburb
  | flatNameType
  | numberNameType
  | flatNumberName
  | flatNumberNameType
  | numberNameTypeSuburb
  | flatNameTypeSuburb
  | full
  | composite
deriving DecidableEq

namespace Strategy

/-- Every strategy. -/
def all : List Strategy :=
  [.everything, .number, .flat, .name, .streetType, .suburb, .flatNumber, .numberName, .flatName,
   .nameType, .nameTypeSuburb, .flatNameType, .numberNameType, .flatNumberName, .flatNumberNameType,
   .numberNameTypeSuburb, .flatNameTypeSuburb, .full, .composite]

/-- The name of a strategy. -/
def label : Strategy → String
  | .everything => "match_all"
  | .number => "street_number"
  | .flat => "flat_number"
  | .name => "street_name"
  | .streetType => "street_type"
  | .suburb => "suburb"
  | .flatNumber => "flat_number_street_number"
  | .numberName => "number_name"
  | .flatName => "flat_name"
  | .nameType => "name_type"
  | .nameTypeSuburb => "name_type_suburb"
  | .flatNameType => "flat_name_type"
  | .numberNameType => "number_name_type"
  | .flatNumberName => "flat_number_name"
  | .flatNumberNameType => "flat_number_name_type"
  | .numberNameTypeSuburb => "number_name_type_suburb"
  | .flatNameTypeSuburb => "flat_name_type_suburb"
  | .full => "full"
  | .composite => "composite"

/-- **The strategy for the slots that are filled.** Combinations without a strategy of their own are
composite. -/
def select (p : Presence) : Strategy :=
  match p.flat, p.number, p.name, p.streetType, p.suburb with
  | true, true, true, true, true => .full
  | true, true, true, true, false => .flatNumberNameType
  | false, true, true, true, true => .numberNameTypeSuburb
  | true, false, true, true, true => .flatNameTypeSuburb
  | true, true, true, false, false => .flatNumberName
  | true, false, true, true, false => .flatNameType
  | false, true, true, true, false => .numberNameType
  | false, false, true, true, true => .nameTypeSuburb
  | true, true, false, false, false => .flatNumber
  | false, true, true, false, false => .numberName
  | true, false, true, false, false => .flatName
  | false, false, true, true, false => .nameType
  | false, true, false, false, false => .number
  | true, false, false, false, false => .flat
  | false, false, true, false, false => .name
  | false, false, false, true, false => .streetType
  | false, false, false, false, true => .suburb
  | false, false, false, false, false => .everything
  | _, _, _, _, _ => .composite

/-- The weight of street names and of street numbers in fuller queries. -/
def strongBoost : Score := 2

/-- The clause on the flat number. -/
def flatClause (s : Slots) : Clause :=
  .leading .flatNumber s.flat

/-- The clause on the street number. -/
def numberClause (s : Slots) : Clause :=
  .leading .streetNumber s.number

/-- The clause on the street number where it weighs double. -/
def strongNumberClause (s : Slots) : Clause :=
  (numberClause s).boosted strongBoost

/-- The clause on the street name. -/
def nameClause (s : Slots) : Clause :=
  (Clause.leading .streetName s.name).boosted strongBoost

/-- The clause on the street name that forgives misspellings. -/
def nearNameClause (s : Slots) : Clause :=
  (Clause.near .streetName s.name).boosted strongBoost

/-- The clause on the street type. -/
def typeClause (s : Slots) : Clause :=
  .near .streetType s.streetType

/-- The clause on the suburb. -/
def suburbClause (s : Slots) : Clause :=
  .near .suburb s.suburb

/-- The clauses of the slots that are filled, in the order of the full strategy. -/
def filledClauses (s : Slots) : List Clause :=
  (if s.presence.flat then [flatClause s] else []) ++
  (if s.presence.number then [strongNumberClause s] else []) ++
  (if s.presence.name then [nameClause s] else []) ++
  (if s.presence.streetType then [typeClause s] else []) ++
  (if s.presence.suburb then [suburbClause s] else [])

/-- The clauses that a strategy asks for. -/
def clauses (strategy : Strategy) (s : Slots) : List Clause :=
  match strategy with
  | .everything => []
  | .number => [numberClause s]
  | .flat => [flatClause s]
  | .name => [nameClause s]
  | .streetType => [typeClause s]
  | .suburb => [suburbClause s]
  | .flatNumber => [flatClause s, numberClause s]
  | .numberName => [numberClause s, nameClause s]
  | .flatName => [flatClause s, nameClause s]
  | .nameType => [nameClause s, typeClause s]
  | .nameTypeSuburb => [nearNameClause s, typeClause s, suburbClause s]
  | .flatNameType => [flatClause s, nameClause s, typeClause s]
  | .numberNameType => [numberClause s, nameClause s, typeClause s]
  | .flatNumberName => [flatClause s, strongNumberClause s, nameClause s]
  | .flatNumberNameType => [flatClause s, strongNumberClause s, nameClause s, typeClause s]
  | .numberNameTypeSuburb => [strongNumberClause s, nameClause s, typeClause s, suburbClause s]
  | .flatNameTypeSuburb => [flatClause s, nameClause s, typeClause s, suburbClause s]
  | .full =>
    [flatClause s, strongNumberClause s, nameClause s, typeClause s, suburbClause s]
  | .composite => filledClauses s

/-- **The plan of a strategy** for the values in the slots. -/
def plan (strategy : Strategy) (s : Slots) : Plan :=
  .ofClauses (strategy.clauses s)

end Strategy

/-- A query with its strategy, its plan and its sort. -/
structure PlannedQuery where
  strategy : Strategy
  plan : Plan
  sort : SortSpec

/-- **Planning**: the strategy for the slots that are filled, and what it makes of their values. -/
def Slots.planned (s : Slots) : PlannedQuery :=
  let strategy := Strategy.select s.presence
  ⟨strategy, strategy.plan s, s.sortSpec⟩

/-- A query with everything that was read from it. -/
structure Interpretation where
  raw : String
  slots : Slots
  planned : PlannedQuery

/-- **Interpreting a query.** -/
def interpret (lexicon : Lexicon) (raw : String) : Interpretation :=
  let slots := Slots.ofText lexicon raw
  ⟨raw, slots, slots.planned⟩

end Gazetteer

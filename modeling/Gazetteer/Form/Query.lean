import Gazetteer.Form
import Gazetteer.Query.Strategy

/-!
# JSON forms of queries

Slots, plans, sorts and strategies.
-/

namespace Gazetteer

instance : JsonForm Field where
  toJson f := .string f.name
  ofJson? j := j.choice?.bind Field.ofName?

instance : JsonForm Tolerance where
  toJson | .auto => .string "auto"
         | .edits count => .object [("edits", toJson count)]
  ofJson? | .object [("edits", count)] => (ofJson? count).map .edits
          | j => if j.choice? = some "auto" then some .auto else none

instance : JsonForm MatchMode where
  toJson | .leading => .string "prefix"
         | .exact => .string "exact"
         | .near tolerance => .object [("fuzzy", toJson tolerance)]
  ofJson? | .object [("fuzzy", tolerance)] => (ofJson? tolerance).map .near
          | j => if j.choice? = some "prefix" then some .leading
                 else if j.choice? = some "exact" then some .exact else none

instance : JsonForm Clause where
  toJson c := .object
    [("field", toJson c.field), ("mode", toJson c.mode), ("boost", toJson c.boost),
     ("value", toJson c.value)]
  ofJson? j := do
    match ← j.fields? ["field", "mode", "boost", "value"] with
    | (_, [field, mode, boost, value]) =>
      some ⟨← Json.required field, ← Json.required mode, ← Json.required boost,
        ← Json.required value⟩
    | _ => none

namespace Json

mutual

/-- The value in which every object of one name and an empty object has null for the latter. -/
def bareChoices : Json → Json
  | .object [(name, .object [])] => .object [(name, .null)]
  | .object members => .object (bareMembers members)
  | .array items => .array (bareItems items)
  | j => j

/-- Items with their choices bare. -/
def bareItems : List Json → List Json
  | [] => []
  | item :: rest => bareChoices item :: bareItems rest

/-- Members with their choices bare. -/
def bareMembers : List (String × Json) → List (String × Json)
  | [] => []
  | (name, value) :: rest => (name, bareChoices value) :: bareMembers rest

end

/-- The contents of a plan. In an object, though not in an array, a choice without contents may have
an empty object instead of null. -/
def planContents (byPlace : Bool) (contents : Option Json) : Option Json :=
  if byPlace then contents else contents.map bareChoices

end Json

instance : JsonForm Plan where
  toJson | .everything => .object [("type", .string "match_all")]
         | .single clause => .object [("type", .string "single"), ("clauses", toJson clause)]
         | .conjunction clauses => .object [("type", .string "and"), ("clauses", toJson clauses)]
  ofJson? j := do
    match ← j.fields? ["type", "clauses"] with
    | (byPlace, [some type, contents]) =>
      match type.choice? with
      | some "match_all" =>
        match contents with
        | some .null => some .everything
        | some _ => none
        | none => if byPlace then none else some .everything
      | some "single" => (Json.required (Json.planContents byPlace contents)).map .single
      | some "and" => (Json.required (Json.planContents byPlace contents)).map .conjunction
      | _ => none
    | _ => none

instance : JsonForm SortField where
  toJson f := .string f.name
  ofJson? j := j.choice?.bind SortField.ofName?

instance : JsonForm Direction where
  toJson | .ascending => .string "asc"
         | .descending => .string "desc"
  ofJson? j := if j.choice? = some "asc" then some .ascending
    else if j.choice? = some "desc" then some .descending else none

instance : JsonForm SortKey where
  toJson k := .object [("field", toJson k.field), ("direction", toJson k.direction)]
  ofJson? j := do
    match ← j.fields? ["field", "direction"] with
    | (_, [field, direction]) => some ⟨← Json.required field, ← Json.required direction⟩
    | _ => none

instance : JsonForm Presence where
  toJson p := .object
    [("flat", toJson p.flat), ("number", toJson p.number), ("name", toJson p.name),
     ("street_type", toJson p.streetType), ("suburb", toJson p.suburb)]
  ofJson? j := do
    match ← j.fields? ["flat", "number", "name", "street_type", "suburb"] with
    | (_, [flat, number, name, streetType, suburb]) =>
      some ⟨← Json.required flat, ← Json.required number, ← Json.required name,
        ← Json.required streetType, ← Json.required suburb⟩
    | _ => none

/-- The strategy of a name. -/
def Strategy.ofLabel? (s : String) : Option Strategy :=
  Strategy.all.find? (·.label == s)

instance : JsonForm Strategy where
  toJson s := .string s.label
  ofJson? j := j.choice?.bind Strategy.ofLabel?

instance : JsonForm PlannedQuery where
  toJson p := .object
    [("strategy", toJson p.strategy), ("query", toJson p.plan), ("sort", toJson p.sort)]
  ofJson? j := do
    match ← j.fields? ["strategy", "query", "sort"] with
    | (_, [strategy, plan, sort]) =>
      some ⟨← Json.required strategy, ← Json.required plan, ← Json.required sort⟩
    | _ => none

instance : JsonForm Slots where
  toJson s := .object
    [("flat_number", toJson s.flat), ("street_number", toJson s.number),
     ("street_name", toJson s.name), ("street_type", toJson s.streetType),
     ("suburb", toJson s.suburb)]
  ofJson? j := do
    match ← j.fields? ["flat_number", "street_number", "street_name", "street_type", "suburb"] with
    | (_, [flat, number, name, streetType, suburb]) =>
      some ⟨← Json.required flat, ← Json.required number, ← Json.required name,
        ← Json.required streetType, ← Json.required suburb⟩
    | _ => none

/-- An interpretation is only written. -/
def Interpretation.toJson (i : Interpretation) : Json :=
  .object [("raw", JsonForm.toJson i.raw), ("tokens", JsonForm.toJson i.slots),
    ("planned", JsonForm.toJson i.planned)]

end Gazetteer

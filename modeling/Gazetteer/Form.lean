import Gazetteer.Json

/-!
# JSON forms

A type with a JSON form is written as one JSON value for each of its values and read from JSON
values. A record is read from an object by the names of its fields, of which it ignores those it
does not know, or from an array by their places. A choice without contents is its name, or an object
with that one name and null. Reading accepts an integer for a real number, and for an integer
nothing else.
-/

namespace Gazetteer

/-- Types with a JSON form. -/
class JsonForm (α : Type) where
  toJson : α → Json
  ofJson? : Json → Option α

export JsonForm (toJson ofJson?)

namespace Json

/-- A natural number up to a bound. -/
def naturalUpTo? (bound : Nat) : Json → Option Nat
  | .number (.integer i) => if 0 ≤ i ∧ i ≤ bound then some i.toNat else none
  | _ => none

/-- A double. -/
def double? : Json → Option Float
  | .number (.integer i) => some (Number.doubleOfInt i)
  | .number (.real x) => some x
  | _ => none

/-- A single, rounded from the number. -/
def single? : Json → Option Float32
  | .number (.integer i) => some (Number.singleOfInt i)
  | .number (.real x) => some (Number.narrow x)
  | _ => none

/-- The name of a choice without contents. -/
def choice? : Json → Option String
  | .string s => some s
  | .object [(name, .null)] => some name
  | _ => none

/-- The members of a record with the given field names, as far as they are there, and whether they
were found by place. An array may not have more items than there are fields. -/
def fields? (names : List String) : Json → Option (Bool × List (Option Json))
  | .object members =>
    some (false, names.map fun name => (members.find? (·.1 == name)).map (·.2))
  | .array items =>
    if items.length ≤ names.length then
      some (true, items.map some ++ List.replicate (names.length - items.length) none)
    else none
  | _ => none

end Json

instance : JsonForm String where
  toJson s := .string s
  ofJson? | .string s => some s
          | _ => none

instance : JsonForm Bool where
  toJson b := .bool b
  ofJson? | .bool b => some b
          | _ => none

instance : JsonForm Float where
  toJson := .double
  ofJson? := Json.double?

instance : JsonForm Float32 where
  toJson := .single
  ofJson? := Json.single?

/-- Words of one width: the naturals up to the greatest of them. -/
class FixedWidth (α : Type) where
  greatest : Nat
  toNat : α → Nat
  ofNat : Nat → α
  toNat_le (a : α) : toNat a ≤ greatest
  ofNat_toNat (a : α) : ofNat (toNat a) = a

instance : FixedWidth UInt8 where
  greatest := 255
  toNat := UInt8.toNat
  ofNat := Nat.toUInt8
  toNat_le n := Nat.le_of_lt_succ n.toNat_lt
  ofNat_toNat _ := UInt8.ofNat_toNat

instance : FixedWidth UInt32 where
  greatest := 4294967295
  toNat := UInt32.toNat
  ofNat := Nat.toUInt32
  toNat_le n := Nat.le_of_lt_succ n.toNat_lt
  ofNat_toNat _ := UInt32.ofNat_toNat

instance : FixedWidth UInt64 where
  greatest := 18446744073709551615
  toNat := UInt64.toNat
  ofNat := Nat.toUInt64
  toNat_le n := Nat.le_of_lt_succ n.toNat_lt
  ofNat_toNat _ := UInt64.ofNat_toNat

/-- A word is written as its number, and of numbers those are read that it can hold. -/
instance {α : Type} [FixedWidth α] : JsonForm α where
  toJson a := .natural (FixedWidth.toNat a)
  ofJson? j := (j.naturalUpTo? (FixedWidth.greatest α)).map FixedWidth.ofNat

instance {α : Type} [JsonForm α] : JsonForm (Option α) where
  toJson | some a => toJson a
         | none => .null
  ofJson? | .null => some none
          | j => (ofJson? j).map some

instance {α : Type} [JsonForm α] : JsonForm (List α) where
  toJson xs := .array (xs.map toJson)
  ofJson? | .array items => items.mapM ofJson?
          | _ => none

namespace Json

/-- A field that must be there. -/
def required {α : Type} [JsonForm α] : Option Json → Option α
  | some j => ofJson? j
  | none => none

/-- A field that has a value of its own where it is missing. -/
def orElse {α : Type} [JsonForm α] (value : α) : Option Json → Option α
  | some j => ofJson? j
  | none => some value

/-- A field that may be missing from an object, though not from an array. -/
def optional {α : Type} [JsonForm α] (byPlace : Bool) : Option Json → Option (Option α)
  | some j => ofJson? j
  | none => if byPlace then none else some none

end Json

end Gazetteer

import Gazetteer.Number.Binary

/-!
# JSON values

The values that requests, results and settings are written in. A number is an integer where its text
has neither point nor exponent and a 64-bit word holds it, and a double otherwise. An object keeps
its members in the order in which they are written, each name once.
-/

namespace Gazetteer

/-- A JSON number. -/
inductive JsonNumber where
  | integer (value : Int)
  | real (value : Float)

/-- A JSON value. -/
inductive Json where
  | null
  | bool (value : Bool)
  | number (value : JsonNumber)
  | string (value : String)
  | array (items : List Json)
  | object (members : List (String × Json))

instance : Inhabited Json := ⟨.null⟩

namespace Json

/-- A natural number. -/
def natural (n : Nat) : Json :=
  .number (.integer n)

/-- A double; what is not finite has no number and becomes null. -/
def double (x : Float) : Json :=
  if Number.isFiniteDouble x then .number (.real x) else .null

/-- A single, as the double with its value. -/
def single (x : Float32) : Json :=
  double (Number.widen x)

/-- The text, or null. -/
def stringOrNull : Option String → Json
  | some s => .string s
  | none => .null

/-- The value of a member of an object. -/
def member? (j : Json) (name : String) : Option Json :=
  match j with
  | .object members => (members.find? (·.1 == name)).map (·.2)
  | _ => none

end Json

end Gazetteer

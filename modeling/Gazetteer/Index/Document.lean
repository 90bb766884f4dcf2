import Gazetteer.Address
import Gazetteer.Index.Terms
import Gazetteer.Query.Plan

/-!
# Documents

What the index keeps of an address: stored values, from which the address is read back; the terms of
the searchable fields; and the normal form of the address's line, by whose beginnings it is
completed. Empty texts and missing coordinates are not stored.
-/

namespace Gazetteer.Index

/-- The stored texts of a document. -/
inductive TextSlot where
  | id
  | buildingName
  | flatType
  | flatNumber
  | numberFirst
  | numberLast
  | streetName
  | streetType
  | locality
  | state
  | postcode
  | line
deriving DecidableEq

/-- The stored numbers of a document. -/
inductive NumberSlot where
  | latitude
  | longitude
deriving DecidableEq

/-- The terms of each searchable field. -/
structure FieldTerms where
  flatNumber : List String
  streetNumber : List String
  streetName : List String
  streetType : List String
  suburb : List String

/-- The terms of one field. -/
def FieldTerms.of (t : FieldTerms) : Field → List String
  | .flatNumber => t.flatNumber
  | .streetNumber => t.streetNumber
  | .streetName => t.streetName
  | .streetType => t.streetType
  | .suburb => t.suburb

/-- An indexed address. -/
structure Document where
  texts : List (TextSlot × String)
  numbers : List (NumberSlot × Float)
  terms : FieldTerms
  completion : String

/-- The value of an address in a searchable field. -/
def fieldValue (a : Address) : Field → String
  | .flatNumber => a.flatNumber
  | .streetNumber => a.numberFirst
  | .streetName => a.streetName
  | .streetType => a.streetType
  | .suburb => a.locality

namespace Document

/-- The texts of an address by their slots, empty ones included. -/
def textsOf (a : Address) : List (TextSlot × String) :=
  [(.id, a.id), (.buildingName, a.buildingName), (.flatType, a.flatType),
   (.flatNumber, a.flatNumber), (.numberFirst, a.numberFirst), (.numberLast, a.numberLast),
   (.streetName, a.streetName), (.streetType, a.streetType), (.locality, a.locality),
   (.state, a.state), (.postcode, a.postcode)]

/-- **Indexing an address.** -/
def ofAddress (a : Address) : Document where
  texts := (textsOf a).filter (·.2 ≠ "") ++ [(.line, a.oneLine)]
  numbers :=
    (a.latitude.map (NumberSlot.latitude, ·)).toList ++
      (a.longitude.map (NumberSlot.longitude, ·)).toList
  terms :=
    { flatNumber := Index.terms a.flatNumber
      streetNumber := Index.terms a.numberFirst
      streetName := Index.terms a.streetName
      streetType := Index.terms a.streetType
      suburb := Index.terms a.locality }
  completion := normalLine a.oneLine

/-- A stored text; one that is not stored is empty. -/
def text (d : Document) (slot : TextSlot) : String :=
  ((d.texts.find? (·.1 == slot)).map (·.2)).getD ""

/-- A stored number. -/
def number? (d : Document) (slot : NumberSlot) : Option Float :=
  (d.numbers.find? (·.1 == slot)).map (·.2)

/-- **Reading an address back** from what is stored. -/
def address (d : Document) : Address where
  id := d.text .id
  buildingName := d.text .buildingName
  flatType := d.text .flatType
  flatNumber := d.text .flatNumber
  numberFirst := d.text .numberFirst
  numberLast := d.text .numberLast
  streetName := d.text .streetName
  streetType := d.text .streetType
  locality := d.text .locality
  state := d.text .state
  postcode := d.text .postcode
  latitude := d.number? .latitude
  longitude := d.number? .longitude

end Document

end Gazetteer.Index

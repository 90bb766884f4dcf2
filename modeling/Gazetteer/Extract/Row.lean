import Gazetteer.Address

/-!
# Rows of an extract

A row gives an address if it has an id and a street name and its coordinates, where it has any, lie
on the globe. All texts lose the blanks at their ends.
-/

namespace Gazetteer.Extract

/-- The columns that a row is read from. -/
inductive Column where
  | id
  | buildingName
  | flatType
  | flatNumber
  | numberFirst
  | numberLast
  | streetName
  | streetType
  | locality
  | state
  | postcode
  | latitude
  | longitude
deriving DecidableEq

namespace Column

/-- Every column, in the order that counts where the header names none. -/
def all : List Column :=
  [.id, .buildingName, .flatType, .flatNumber, .numberFirst, .numberLast, .streetName, .streetType,
   .locality, .state, .postcode, .latitude, .longitude]

/-- The name of a column in the header. -/
def name : Column → String
  | .id => "address_detail_pid"
  | .buildingName => "building_name"
  | .flatType => "flat_type"
  | .flatNumber => "flat_number"
  | .numberFirst => "number_first"
  | .numberLast => "number_last"
  | .streetName => "street_name"
  | .streetType => "street_type_code"
  | .locality => "locality_name"
  | .state => "state_abbreviation"
  | .postcode => "postcode"
  | .latitude => "latitude"
  | .longitude => "longitude"

/-- The column of a name. -/
def ofName? (s : String) : Option Column :=
  all.find? (·.name == s)

/-- Whether the column holds a number. -/
def isCoordinate : Column → Bool
  | .latitude => true
  | .longitude => true
  | _ => false

end Column

/-- A row with its texts as they stand. -/
structure Row where
  id : String
  buildingName : String := ""
  flatType : String := ""
  flatNumber : String := ""
  numberFirst : String := ""
  numberLast : String := ""
  streetName : String := ""
  streetType : String := ""
  locality : String := ""
  state : String := ""
  postcode : String := ""
  latitude : Option Float := none
  longitude : Option Float := none

/-- A coordinate lies between two bounds of one size; what is not a number lies nowhere. -/
def withinDegrees (bound : Float) (x : Float) : Bool :=
  decide (-bound ≤ x) && decide (x ≤ bound)

/-- A coordinate that is there has to lie within its bound. -/
def coordinateFits (bound : Float) : Option Float → Bool
  | none => true
  | some x => withinDegrees bound x

/-- The greatest latitude. -/
def greatestLatitude : Float := 90

/-- The greatest longitude. -/
def greatestLongitude : Float := 180

namespace Row

/-- Whether a row gives an address. -/
def isUsable (r : Row) : Bool :=
  Text.trim r.id != "" && Text.trim r.streetName != "" &&
    coordinateFits greatestLatitude r.latitude && coordinateFits greatestLongitude r.longitude

/-- The address of a row that gives one. -/
def toAddress (r : Row) : Address where
  id := Text.trim r.id
  buildingName := Text.trim r.buildingName
  flatType := Text.trim r.flatType
  flatNumber := Text.trim r.flatNumber
  numberFirst := Text.trim r.numberFirst
  numberLast := Text.trim r.numberLast
  streetName := Text.trim r.streetName
  streetType := Text.trim r.streetType
  locality := Text.trim r.locality
  state := Text.trim r.state
  postcode := Text.trim r.postcode
  latitude := r.latitude
  longitude := r.longitude

/-- **The address of a row**, if it gives one. -/
def address? (r : Row) : Option Address :=
  if r.isUsable then some r.toAddress else none

end Row

end Gazetteer.Extract

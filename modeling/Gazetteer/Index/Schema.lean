import Gazetteer.Index.Document
import Gazetteer.Text.Order

/-!
# The fields of an index

The names under which the texts and numbers of an address are stored. The searchable fields are five
of them. Completions have a field of their own.
-/

namespace Gazetteer.Index

/-- The name of a stored text. -/
def TextSlot.name : TextSlot → String
  | .id => "id"
  | .buildingName => "building_name"
  | .flatType => "flat_type"
  | .flatNumber => "flat_number"
  | .numberFirst => "number_first"
  | .numberLast => "number_last"
  | .streetName => "street_name"
  | .streetType => "street_type_code"
  | .locality => "locality_name"
  | .state => "state_abbreviation"
  | .postcode => "postcode"
  | .line => "address"

/-- Every stored text. -/
def TextSlot.all : List TextSlot :=
  [.id, .buildingName, .flatType, .flatNumber, .numberFirst, .numberLast, .streetName, .streetType,
   .locality, .state, .postcode, .line]

/-- The name of a stored number. -/
def NumberSlot.name : NumberSlot → String
  | .latitude => "latitude"
  | .longitude => "longitude"

/-- Every stored number. -/
def NumberSlot.all : List NumberSlot :=
  [.latitude, .longitude]

/-- The name of the field by whose beginnings lines are completed. -/
def completionName : String := "address_suggest"

/-- **The names of all fields**, in the order of their text. -/
def fieldNames : List String :=
  (TextSlot.all.map TextSlot.name ++ NumberSlot.all.map NumberSlot.name ++
    [completionName]).mergeSort fun a b => (Text.compareText a b).isLE

end Gazetteer.Index

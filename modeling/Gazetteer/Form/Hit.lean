import Gazetteer.Form
import Gazetteer.Hit

/-!
# JSON forms of addresses and hits

The fields of an address other than its id and street name may be left out.
-/

namespace Gazetteer

instance : JsonForm Address where
  toJson a := .object
    [("id", toJson a.id), ("building_name", toJson a.buildingName),
      ("flat_type", toJson a.flatType),
     ("flat_number", toJson a.flatNumber), ("number_first", toJson a.numberFirst),
     ("number_last", toJson a.numberLast), ("street_name", toJson a.streetName),
     ("street_type", toJson a.streetType), ("locality_name", toJson a.locality),
     ("state", toJson a.state), ("postcode", toJson a.postcode), ("latitude", toJson a.latitude),
     ("longitude", toJson a.longitude)]
  ofJson? j := do
    match ← j.fields? ["id", "building_name", "flat_type", "flat_number", "number_first",
        "number_last", "street_name", "street_type", "locality_name", "state", "postcode",
        "latitude", "longitude"] with
    | (_, [id, buildingName, flatType, flatNumber, numberFirst, numberLast, streetName, streetType,
        locality, state, postcode, latitude, longitude]) =>
      some
        { id := ← Json.required id
          buildingName := ← Json.orElse "" buildingName
          flatType := ← Json.orElse "" flatType
          flatNumber := ← Json.orElse "" flatNumber
          numberFirst := ← Json.orElse "" numberFirst
          numberLast := ← Json.orElse "" numberLast
          streetName := ← Json.required streetName
          streetType := ← Json.orElse "" streetType
          locality := ← Json.orElse "" locality
          state := ← Json.orElse "" state
          postcode := ← Json.orElse "" postcode
          latitude := ← Json.orElse none latitude
          longitude := ← Json.orElse none longitude }
    | _ => none

instance : JsonForm Origin where
  toJson | .structured => .string "structured"
         | .suggest => .string "suggest"
  ofJson? j := if j.choice? = some "structured" then some .structured
    else if j.choice? = some "suggest" then some .suggest else none

instance : JsonForm Hit where
  toJson h := .object
    [("id", toJson h.id), ("address", toJson h.address), ("record", toJson h.record),
     ("score", toJson h.score), ("origin", toJson h.origin)]
  ofJson? j := do
    match ← j.fields? ["id", "address", "record", "score", "origin"] with
    | (byPlace, [id, address, record, score, origin]) =>
      some ⟨← Json.optional byPlace id, ← Json.required address, ← Json.optional byPlace record,
        ← Json.required score, ← Json.required origin⟩
    | _ => none

end Gazetteer

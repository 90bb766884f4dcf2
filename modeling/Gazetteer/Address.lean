import Gazetteer.Text.Blank
import Gazetteer.Text.Lowercase

/-!
# Addresses

An address as the extract gives it, its rendering as one postal line, and the normal form under
which lines are compared: lowercase words with one space between them.
-/

namespace Gazetteer

/-- One address. Every text may be empty; coordinates are in degrees. -/
structure Address where
  id : String
  buildingName : String := ""
  flatType : String := ""
  flatNumber : String := ""
  numberFirst : String := ""
  numberLast : String := ""
  streetName : String := ""
  streetType : String := ""
  locality : String := ""
  state : String := ""
  postcode : String := ""
  latitude : Option Float := none
  longitude : Option Float := none

namespace Address

/-- The number part of a line: `[flat/]first[-last]`. -/
def numberPart (a : Address) : String :=
  (if a.flatNumber = "" then "" else a.flatNumber ++ "/") ++ a.numberFirst ++
    (if a.numberLast = "" then "" else "-" ++ a.numberLast)

/-- The parts of a line in order, each without blanks at its ends. -/
def lineParts (a : Address) : List String :=
  [a.numberPart, a.streetName, a.streetType, a.locality, a.state, a.postcode].map Text.trim

/-- **The postal line**: the parts that are not blank, one space between them. -/
def oneLine (a : Address) : String :=
  Text.unwords (a.lineParts.filter (· ≠ ""))

end Address

/-- **The normal form of a line**: each word in lowercase on its own, one space between them. -/
def normalLine (line : String) : String :=
  Text.unwords ((Text.words line).map Text.lowercase)

end Gazetteer

import Gazetteer.Query.Slots

/-!
# Sort keys

What orders the addresses that a plan finds equally well: a list of keys, the most significant
first.
-/

namespace Gazetteer

/-- What an address is sorted by: a number at the head of a text, or the street name in
lowercase. -/
inductive SortField where
  | streetNumber
  | flatNumber
  | streetName
deriving DecidableEq

namespace SortField

/-- Every sort field. -/
def all : List SortField :=
  [.streetNumber, .flatNumber, .streetName]

/-- The name of a sort field. -/
def name : SortField → String
  | .streetNumber => "number_first_sort"
  | .flatNumber => "flat_number_sort"
  | .streetName => "street_name_sort"

/-- The sort field of a name. -/
def ofName? (s : String) : Option SortField :=
  all.find? (·.name == s)

end SortField

/-- Smallest first, or largest first. -/
inductive Direction where
  | ascending
  | descending
deriving DecidableEq

/-- One sort key. -/
structure SortKey where
  field : SortField
  direction : Direction
deriving DecidableEq

/-- Sort keys, the most significant first. -/
abbrev SortSpec := List SortKey

/-- A key with the smallest first. -/
def SortKey.ascending (field : SortField) : SortKey :=
  ⟨field, .ascending⟩

/-- **The sort of a query**: by street number, then by flat if the query names one, then by street
name. -/
def Slots.sortSpec (s : Slots) : SortSpec :=
  if s.flat = "" then [.ascending .streetNumber, .ascending .streetName]
  else [.ascending .streetNumber, .ascending .flatNumber, .ascending .streetName]

end Gazetteer

import Gazetteer.Extract.Csv
import Gazetteer.Extract.Row
import Gazetteer.Number.DecimalText

/-!
# Reading an extract

The first row of an extract names the columns; the others are read by these names. A row is
malformed if one of its fields is not UTF-8, if it ends before a column that holds text, if the
header names a column twice or the id not at all, or if a coordinate is no number. Malformed rows
and rows that give no address are counted and passed over. Where the header itself is not UTF-8 it
names nothing, and columns go by their order.
-/

namespace Gazetteer.Extract

/-- The text of a field without the blanks at its ends, if it is UTF-8. -/
def fieldText? (field : RawField) : Option String :=
  (String.fromUTF8? ⟨field.toArray⟩).map Text.trim

/-- The texts of a row, if all of them are UTF-8. -/
def rowTexts? (row : RawRow) : Option (List String) :=
  row.mapM fieldText?

/-- The values of columns, the last one read first. -/
abbrev Cells := List (Column × String)

/-- Pairs the columns of a header with the fields of a row. Fields without a column are passed over.
Past the end of the row, a coordinate is missing and every other column is an error, and so is a
column that comes twice. -/
def pairCells : Cells → List (Option Column) → List String → Option Cells
  | cells, [], _ => some cells
  | cells, none :: columns, _ :: fields => pairCells cells columns fields
  | _, none :: _, [] => none
  | cells, some column :: columns, field :: fields =>
    if cells.any (·.1 == column) then none else pairCells ((column, field) :: cells) columns fields
  | cells, some column :: columns, [] =>
    if cells.any (·.1 == column) ∨ !column.isCoordinate then none
    else pairCells ((column, "") :: cells) columns []

/-- Pairs the columns in their order with the fields of a row, as far as the row goes. -/
def placeCells (fields : List String) : Cells :=
  Column.all.zip fields

/-- The value of a column. -/
def cell? (cells : Cells) (column : Column) : Option String :=
  (cells.find? (·.1 == column)).map (·.2)

/-- A text column, empty where it is missing. -/
def textCell (cells : Cells) (column : Column) : String :=
  (cell? cells column).getD ""

/-- A coordinate column: nothing where it is missing or empty, and a number otherwise. -/
def numberCell? (cells : Cells) (column : Column) : Option (Option Float) :=
  match cell? cells column with
  | none => some none
  | some text => if text = "" then some none else (Number.readDecimalText text).map some

/-- The row of some cells. Only the id has to be there. -/
def Row.ofCells? (cells : Cells) : Option Row := do
  let id ← cell? cells .id
  let latitude ← numberCell? cells .latitude
  let longitude ← numberCell? cells .longitude
  some
    { id
      buildingName := textCell cells .buildingName
      flatType := textCell cells .flatType
      flatNumber := textCell cells .flatNumber
      numberFirst := textCell cells .numberFirst
      numberLast := textCell cells .numberLast
      streetName := textCell cells .streetName
      streetType := textCell cells .streetType
      locality := textCell cells .locality
      state := textCell cells .state
      postcode := textCell cells .postcode
      latitude
      longitude }

/-- Reads a row under a header, if it is well formed. -/
def readRow? (header : Option (List String)) (row : RawRow) : Option Row := do
  let fields ← rowTexts? row
  match header with
  | some names =>
    let cells ← pairCells [] (names.map Column.ofName?) fields
    Row.ofCells? cells
  | none => Row.ofCells? (placeCells fields)

/-- **The rows of an extract**, each well formed or not. -/
def rows (bytes : List UInt8) : List (Option Row) :=
  match rawRows bytes with
  | [] => []
  | header :: rest => rest.map (readRow? (rowTexts? header))

/-- What an extract gives: its addresses, and the number of rows that were passed over. -/
structure Yield where
  addresses : List Address
  skipped : Nat

/-- The address of a row that may be malformed. -/
def addressOf? (row : Option Row) : Option Address :=
  row.bind Row.address?

/-- **What rows give**: the address of each row that has one, in order, and the number of the
others. -/
def Yield.ofRows (rows : List (Option Row)) : Yield where
  addresses := rows.filterMap addressOf?
  skipped := rows.countP fun row => (addressOf? row).isNone

/-- **Reading an extract.** -/
def read (bytes : List UInt8) : Yield :=
  .ofRows (rows bytes)

/-- The bytes of a text. -/
def bytesOf (s : String) : List UInt8 :=
  s.toUTF8.toList

/-- Reading an extract that is given as text. -/
def readText (s : String) : Yield :=
  read (bytesOf s)

end Gazetteer.Extract

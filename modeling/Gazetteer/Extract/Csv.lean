/-!
# Comma-separated rows

The grammar of an extract, byte by byte. Fields are separated by commas and rows end with a carriage
return, a line feed or both; blank lines between rows are passed over. A field that begins with a
quote runs to the next quote that stands alone, and a quote is written twice inside it; what follows
the closing quote still belongs to the field. Rows may have any number of fields.
-/

namespace Gazetteer.Extract

/-- The bytes of a field. -/
abbrev RawField := List UInt8

/-- A row of fields. -/
abbrev RawRow := List RawField

/-- The comma. -/
def comma : UInt8 := 44

/-- The double quote. -/
def quote : UInt8 := 34

/-- A carriage return or a line feed. -/
def endsRow (b : UInt8) : Bool :=
  b == 13 || b == 10

/-- Where the reader stands in a row. -/
inductive Place where
  | betweenRows
  | fieldStart
  | plain
  | quoted
  | quoteSeen
deriving DecidableEq

/-- What has been read: the place, the bytes of the field and the fields of the row, both last
first. -/
structure Cursor where
  place : Place
  field : RawField
  row : RawRow

namespace Cursor

/-- Before the first row. -/
def start : Cursor := ⟨.betweenRows, [], []⟩

/-- One byte more in the field. -/
def push (c : Cursor) (place : Place) (b : UInt8) : Cursor :=
  { c with place, field := b :: c.field }

/-- The field ends, and another begins. -/
def nextField (c : Cursor) : Cursor :=
  ⟨.fieldStart, [], c.field.reverse :: c.row⟩

/-- The row as it is if it ends here. -/
def finished (c : Cursor) : RawRow :=
  (c.field.reverse :: c.row).reverse

/-- **One byte**: the new place, and the row that the byte ends. -/
def step (c : Cursor) (b : UInt8) : Cursor × Option RawRow :=
  let outside (c : Cursor) : Cursor × Option RawRow :=
    if b = comma then (c.nextField, none)
    else if endsRow b then (start, some c.finished)
    else (c.push .plain b, none)
  match c.place with
  | .betweenRows =>
    if endsRow b then (c, none)
    else if b = quote then ({ c with place := .quoted }, none)
    else outside c
  | .fieldStart => if b = quote then ({ c with place := .quoted }, none) else outside c
  | .plain => outside c
  | .quoted =>
    if b = quote then ({ c with place := .quoteSeen }, none) else (c.push .quoted b, none)
  | .quoteSeen => if b = quote then (c.push .quoted b, none) else outside c

/-- The rows from a place on. The end of the bytes ends a row that has begun. -/
def rowsFrom (c : Cursor) : List UInt8 → List RawRow
  | [] => if c.place = .betweenRows then [] else [c.finished]
  | b :: rest =>
    match c.step b with
    | (c, none) => rowsFrom c rest
    | (c, some row) => row :: rowsFrom c rest

end Cursor

/-- The bytes without the byte-order mark at their front. -/
def dropMark (bytes : List UInt8) : List UInt8 :=
  match bytes with
  | 0xEF :: 0xBB :: 0xBF :: rest => rest
  | bytes => bytes

/-- **The rows of an extract**, its header included. -/
def rawRows (bytes : List UInt8) : List RawRow :=
  Cursor.rowsFrom .start (dropMark bytes)

end Gazetteer.Extract

import Gazetteer.CommandLine.Run
import Gazetteer.Json.Reader

/-!
# The program

The command line on the machine's own files. A catalogue is kept as the JSON list of its addresses,
from which the documents are made again.
-/

namespace Gazetteer.Machine

open Storage (Disk cataloguePath)

/-- The failure of a file operation of the machine. -/
def failureOf : IO.Error → FileFailure
  | .noFileOrDirectory .. => .notFound
  | .inappropriateType .. => .notFolder
  | error => .other (toString error)

/-- An operation of the machine with its failure as a value. -/
def attempt {α : Type} (action : IO α) : IO (Except FileFailure α) := do
  try return .ok (← action) catch error => return .error (failureOf error)

/-- Whether there is something to open at a path. -/
def has (path : String) : IO Bool := do
  try
    let _ ← IO.FS.Handle.mk path .read
    return true
  catch
    | .noFileOrDirectory .. => return false
    | .inappropriateType .. => return false
    | _ => return true

/-- The text of a catalogue. -/
def catalogueText (documents : List Index.Document) : String :=
  (toJson (documents.map (·.address))).compact

/-- The documents of the text of a catalogue. -/
def catalogueOf? (text : String) : Option (List Index.Document) := do
  let addresses : List Address ← ofJson? (← Json.read? text)
  return addresses.map .ofAddress

/-- The catalogue of a folder. -/
def loadCatalogue? (folder : String) : IO (Option (List Index.Document)) := do
  try return catalogueOf? (← IO.FS.readFile (cataloguePath folder)) catch _ => return none

/-- The length of the catalogue of a folder. -/
def size (folder : String) : IO Nat := do
  try return (← IO.FS.readBinFile (cataloguePath folder)).size catch _ => return 0

/-- The machine's disk. -/
def disk : Disk IO where
  has := has
  read path := attempt do return (← IO.FS.readBinFile path).toList
  removeTree path := attempt (IO.FS.removeDirAll path)
  makeFolders path := attempt (IO.FS.createDirAll path)
  saveCatalogue folder documents :=
    attempt (IO.FS.writeFile (cataloguePath folder) (catalogueText documents))
  loadCatalogue? := loadCatalogue?
  size := size
  seconds := do return (← IO.monoNanosNow).toFloat / 1000000000

end Gazetteer.Machine

/-- Runs the command line and leaves its exit code. -/
def main (args : List String) : IO UInt32 := do
  let folder ← IO.getEnv "ADDRESS_LOOKUP_INDEX_DIR"
  let outcome ← Gazetteer.CommandLine.run Gazetteer.Machine.disk args folder
  IO.print outcome.output
  IO.eprint outcome.complaint
  return outcome.code

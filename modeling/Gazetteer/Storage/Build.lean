import Gazetteer.Extract.Parse
import Gazetteer.Extract.Sample
import Gazetteer.Index.Search
import Gazetteer.Settings
import Gazetteer.Storage.Disk

/-!
# Building and opening an index

Building replaces whatever the folder held by an empty index before it looks at the extract. It then
works through the extract row by row (`writingOf`): an address is written, counted and reported
before the next row is read, and what was written becomes the index of the folder at the end.
Opening gives the index of the last catalogue that was saved.
-/

namespace Gazetteer.Storage

variable {m : Type → Type} [Monad m]

/-- Where an extract comes from. -/
inductive ExtractSource where
  | sample
  | file (path : String)
deriving DecidableEq

/-- The name of an extract. -/
def ExtractSource.name : ExtractSource → String
  | .sample => "the sample extract"
  | .file path => path

/-- What is heard of a build while it goes on. -/
inductive Progress where
  | message (text : String)
  | advanced (count : Nat)
  | finished (text : String)
deriving DecidableEq

/-- What was heard of a build, and how it ended. -/
structure BuildRun where
  progress : List Progress
  result : Except IndexFailure BuildReport

/-- The least memory that the writer of an index accepts. -/
def leastWriterMemory : Nat := 15000000

/-- The most memory that each of the writer's eight threads accepts, and one byte more. -/
def threadMemoryLimit : Nat := 4293967295

/-- Whether the writer accepts an amount of memory. -/
def acceptsMemory (bytes : Nat) : Bool :=
  decide (leastWriterMemory ≤ bytes) && decide (bytes / 8 < threadMemoryLimit)

/-- **Whether a folder holds an index.** -/
def isAvailable (disk : Disk m) (folder : String) : m Bool := do
  if ← disk.has folder then disk.has (cataloguePath folder) else return false

/-- **Opening the index of a folder.** -/
def openIndex (disk : Disk m) (folder : String) : m (Except IndexFailure AddressIndex) := do
  if ← disk.has folder then
    match ← disk.loadCatalogue? folder with
    | some documents => return .ok ⟨documents, AddressIndex.standardWindow⟩
    | none => return .error (.engine (.noCatalogue folder))
  else return .error (.notFound folder)

/-- The bytes of an extract. A folder has none. -/
def readExtract (disk : Disk m) : ExtractSource → m (Except IndexFailure (List UInt8))
  | .sample => return .ok (Extract.bytesOf Extract.sampleText)
  | .file path => do
    if ← disk.has path then
      match ← disk.read path with
      | .ok bytes => return .ok bytes
      | .error .isFolder => return .ok []
      | .error cause => return .error (.extract (.file path cause))
    else return .error (.extract (.notFound path))

/-- An operation on files as a step of a build. -/
def onFiles (operation : m (Except FileFailure Unit)) : ExceptT IndexFailure m Unit :=
  ExceptT.mk do return (← operation).mapError .file

/-- Removing what stands at a path, if anything does. -/
def clearFolder (disk : Disk m) (folder : String) : ExceptT IndexFailure m Unit := do
  if ← disk.has folder then onFiles (disk.removeTree folder)

/-- Refusing a folder that holds an index. -/
def requireNoIndex (disk : Disk m) (folder : String) : ExceptT IndexFailure m Unit := do
  if ← disk.has (cataloguePath folder) then throw (.engine (.catalogueExists folder))

/-- Replacing what a folder holds by an empty index. There still is an index where the path leads
through folders that were not there when the folder was cleared. -/
def emptyIndex (disk : Disk m) (folder : String) : ExceptT IndexFailure m Unit := do
  clearFolder disk folder
  onFiles (disk.makeFolders folder)
  requireNoIndex disk folder
  onFiles (disk.saveCatalogue folder [])

/-- What a build has done with the addresses that it was given one by one. -/
structure Writing where
  documents : List Index.Document := []
  total : Nat := 0
  progress : List Progress := []

/-- One address more: it is written, counted and heard of. -/
def Writing.add (writing : Writing) (address : Address) : Writing where
  documents := writing.documents ++ [.ofAddress address]
  total := writing.total + 1
  progress := writing.progress ++ [.advanced 1]

/-- **The loop of a build**: what it has done, and what it has counted, when it has worked through
an extract row by row. -/
def writingOf (bytes : List UInt8) : Extract.ParseCounts × Writing :=
  Extract.parse Writing.add {} bytes

/-- How far an index has been filled: what has been counted and written until then, and how it
ended. -/
structure Filling where
  counts : Extract.ParseCounts := {}
  writing : Writing := {}
  result : Except IndexFailure Unit

/-- Filling an empty index with the addresses of an extract, which become its documents when all are
written. -/
def fillIndex (disk : Disk m) (folder : String) (source : ExtractSource) : m Filling := do
  match ← readExtract disk source with
  | .error failure => return { result := .error failure }
  | .ok bytes =>
    let (counts, writing) := writingOf bytes
    let result ← (onFiles (disk.saveCatalogue folder writing.documents)).run
    return { counts, writing, result }

/-- How much further a build is for what is heard of it. -/
def Progress.advance : Progress → Nat
  | .advanced count => count
  | _ => 0

/-- **Building an index** from an extract, with so much memory for its writer. -/
def buildIndex (disk : Disk m) (folder : String) (source : ExtractSource) (memory : Nat) :
    m BuildRun := do
  let started ← disk.seconds
  match ← (emptyIndex disk folder).run with
  | .error failure => return ⟨[], .error failure⟩
  | .ok () =>
    if acceptsMemory memory then
      let filling ← fillIndex disk folder source
      let progress := .message ("Indexing " ++ source.name) :: filling.writing.progress
      match filling.result with
      | .error failure => return ⟨progress, .error failure⟩
      | .ok () =>
        let documents := filling.writing.total
        let bytes ← disk.size folder
        let ended ← disk.seconds
        return ⟨progress ++ [.finished ("Indexed " ++ toString documents ++ " addresses")],
          .ok ⟨documents.toUInt64, filling.counts.skipped.toUInt64, bytes.toUInt64,
            ended - started⟩⟩
    else return ⟨[], .error (.engine .memoryBudget)⟩

end Gazetteer.Storage

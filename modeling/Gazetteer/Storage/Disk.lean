import Gazetteer.Failure
import Gazetteer.Index.Document

/-!
# Disks

What building, opening and loading need of a file system, as operations in any monad. An index is
kept in a folder as a catalogue, the list of its documents, under a fixed name; how a catalogue is
written is the disk's own affair.
-/

namespace Gazetteer.Storage

/-- The operations of a disk. Paths are texts; a relative one begins at the working folder. -/
structure Disk (m : Type → Type) where
  has : String → m Bool
  read : String → m (Except FileFailure (List UInt8))
  removeTree : String → m (Except FileFailure Unit)
  makeFolders : String → m (Except FileFailure Unit)
  saveCatalogue : String → List Index.Document → m (Except FileFailure Unit)
  loadCatalogue? : String → m (Option (List Index.Document))
  size : String → m Nat
  seconds : m Float

/-- The name of the catalogue in the folder of an index. -/
def catalogueName : String := "meta.json"

/-- The path of the catalogue in a folder. -/
def cataloguePath (folder : String) : String :=
  folder ++ "/" ++ catalogueName

end Gazetteer.Storage

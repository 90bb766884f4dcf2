import Gazetteer.Storage.Disk
import Gazetteer.Text.Pieces

/-!
# File trees

A file system as a value: files and folders by their paths from the root. A path is followed name by
name, so that every name but the last has to be a folder's; an empty name and a single dot stay
where they are, and two dots go up. `FileTree.disk` is the disk whose state is such a tree.
-/

namespace Gazetteer.Storage

/-- The names that lead from the root to a file or folder. -/
abbrev Path := List String

/-- What a file holds. -/
inductive File where
  | bytes (content : List UInt8)
  | catalogue (documents : List Index.Document)

/-- The length of a file; a catalogue is never empty. -/
def File.size : File → Nat
  | .bytes content => content.length
  | .catalogue documents => documents.length + 1

/-- What stands at a path. -/
inductive Entry where
  | file (file : File)
  | folder

/-- Files and folders, and the folder at which relative paths begin. The root needs no entry. -/
structure FileTree where
  entries : List (Path × Entry)
  working : Path

namespace FileTree

/-- What stands at a path, if anything does. -/
def entry? (tree : FileTree) (path : Path) : Option Entry :=
  if path = [] then some .folder else (tree.entries.find? (·.1 == path)).map (·.2)

/-- The tree in which an entry stands at a path. -/
def put (tree : FileTree) (path : Path) (entry : Entry) : FileTree :=
  { tree with entries := (path, entry) :: tree.entries.filter (·.1 != path) }

/-- The entries below a path. -/
def isBelow (path : Path) (entry : Path × Entry) : Bool :=
  path.isPrefixOf entry.1 && path != entry.1

/-- The tree without everything below a path. -/
def clear (tree : FileTree) (path : Path) : FileTree :=
  { tree with entries := tree.entries.filter (!isBelow path ·) }

/-- The tree without a path and everything below it. -/
def remove (tree : FileTree) (path : Path) : FileTree :=
  { tree with entries := tree.entries.filter (!path.isPrefixOf ·.1) }

/-- The names of a path as it is written. -/
def namesOf (path : String) : List String :=
  (Text.pieces '/' path.toList).map String.ofList

/-- Where a path as it is written begins. -/
def startOf (tree : FileTree) (path : String) : Path :=
  if path.toList.head? = some '/' then [] else tree.working

/-- The path that a name leads to. -/
def next (path : Path) (name : String) : Path :=
  if name = "" ∨ name = "." then path
  else if name = ".." then path.dropLast
  else path ++ [name]

/-- One name further, from a folder. -/
def enter (tree : FileTree) (path : Path) (name : String) : Except FileFailure Path :=
  match tree.entry? path with
  | some .folder => .ok (next path name)
  | some (.file _) => .error .notFolder
  | none => .error .notFound

/-- Following names. -/
def follow (tree : FileTree) : Path → List String → Except FileFailure Path
  | path, [] => .ok path
  | path, name :: names =>
    match tree.enter path name with
    | .ok path => follow tree path names
    | .error failure => .error failure

/-- **The path that a text means.** It need not have an entry. -/
def locate (tree : FileTree) (path : String) : Except FileFailure Path :=
  if path = "" then .error .notFound else tree.follow (tree.startOf path) (namesOf path)

/-- What stands where a text says. -/
def at? (tree : FileTree) (path : String) : Except FileFailure (Path × Entry) :=
  match tree.locate path with
  | .error failure => .error failure
  | .ok path =>
    match tree.entry? path with
    | some entry => .ok (path, entry)
    | none => .error .notFound

/-- Whether anything stands there. -/
def has (tree : FileTree) (path : String) : Bool :=
  (tree.at? path).isOk

/-- The bytes of a file. A catalogue has none of its own. -/
def read (tree : FileTree) (path : String) : Except FileFailure (List UInt8) :=
  match tree.at? path with
  | .ok (_, .file (.bytes content)) => .ok content
  | .ok (_, .file (.catalogue _)) => .ok []
  | .ok (_, .folder) => .error .isFolder
  | .error failure => .error failure

/-- Having a folder at a path, made if there is nothing. -/
def ensure (tree : FileTree) (path : Path) : Except FileFailure Unit × FileTree :=
  match tree.entry? path with
  | some .folder => (.ok (), tree)
  | some (.file _) => (.error .notFolder, tree)
  | none => (.ok (), tree.put path .folder)

/-- Following names, with folders made where there is nothing. -/
def makeFrom (tree : FileTree) (path : Path) : List String → Except FileFailure Unit × FileTree
  | [] => tree.ensure path
  | name :: names =>
    match tree.ensure path with
    | (.ok (), tree) => makeFrom tree (next path name) names
    | (.error failure, tree) => (.error failure, tree)

/-- Making a folder and those on the way to it. -/
def makeFolders (tree : FileTree) (path : String) : Except FileFailure Unit × FileTree :=
  if path = "" then (.error .notFound, tree) else tree.makeFrom (tree.startOf path) (namesOf path)

/-- Removing a folder with everything in it. A path that ends in dots loses what is in it but not
itself. -/
def removeTree (tree : FileTree) (path : String) : Except FileFailure Unit × FileTree :=
  match tree.at? path with
  | .error failure => (.error failure, tree)
  | .ok (_, .file _) => (.error .notFolder, tree)
  | .ok (place, .folder) =>
    match (namesOf path).getLast? with
    | some "." => (.error .invalidPath, tree.clear place)
    | some ".." => (.error .invalidPath, tree.clear place)
    | _ => (.ok (), tree.remove place)

/-- Writing a file into a folder. -/
def write (tree : FileTree) (path : String) (file : File) : Except FileFailure Unit × FileTree :=
  match tree.locate path with
  | .error failure => (.error failure, tree)
  | .ok place =>
    match tree.entry? place with
    | some .folder => (.error .isFolder, tree)
    | _ => (.ok (), tree.put place (.file file))

/-- The catalogue in a folder. -/
def catalogue? (tree : FileTree) (folder : String) : Option (List Index.Document) :=
  match tree.at? (cataloguePath folder) with
  | .ok (_, .file (.catalogue documents)) => some documents
  | _ => none

/-- The length of all files in a folder. -/
def size (tree : FileTree) (folder : String) : Nat :=
  match tree.at? folder with
  | .ok (place, .folder) =>
    Number.total <| (tree.entries.filter (isBelow place)).map fun
      | (_, .file file) => file.size
      | (_, .folder) => 0
  | _ => 0

/-- **The disk of file trees.** No time passes on it. -/
def disk : Disk (StateM FileTree) where
  has path := fun tree => (tree.has path, tree)
  read path := fun tree => (tree.read path, tree)
  removeTree path := fun tree => tree.removeTree path
  makeFolders path := fun tree => tree.makeFolders path
  saveCatalogue folder documents := fun tree =>
    tree.write (cataloguePath folder) (.catalogue documents)
  loadCatalogue? folder := fun tree => (tree.catalogue? folder, tree)
  size folder := fun tree => (tree.size folder, tree)
  seconds := fun tree => (0, tree)

end FileTree

end Gazetteer.Storage

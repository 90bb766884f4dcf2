import Gazetteer.Proofs.Index.Document
import Gazetteer.Proofs.Storage.Build

/-!
# Failed builds

A build clears its folder before it asks for memory and looks at the extract. So a build that fails
for want of either **leaves an empty index in the place of whatever was there**
(`failed_build_leaves_empty_index`): the folder is available, and all searches in it succeed and
find nothing. What was there is not kept, and nothing says afterwards that the build has failed
(`failed_build_replaces_index`).
-/

namespace Gazetteer

namespace AddressIndex

/-- Without documents there is no room for candidates, and the collector is never asked. -/
theorem room?_ofAddresses_nil (limit : Nat) : (ofAddresses []).room? limit = none :=
  room?_eq_none_iff.mpr (Nat.min_zero _)

/-- Without documents there is nothing to be found, whatever is asked for. -/
theorem search_ofAddresses_nil (plan : Plan) (sort : SortSpec) (limit : Nat) :
    (ofAddresses []).search plan sort limit = [] := by
  apply search_of_trySearch_eq_ok
  rw [trySearch, room?_ofAddresses_nil]
  split <;> rfl

theorem suggest_ofAddresses_nil (text : String) (limit : Nat) :
    (ofAddresses []).suggest text limit = .ok [] := by
  rw [suggest, room?_ofAddresses_nil]
  split <;> rfl

end AddressIndex

namespace Storage

open FileTree

/-- A build that fails for want of memory or of an extract has emptied its folder. These are the
failures that come after that step and leave the tree as it is then. -/
theorem holds_of_buildIndex_error {reads : Reading} {tree after : FileTree} {folder : String}
    {source : ExtractSource} {memory : Nat} {run : BuildRun} {failure : IndexFailure}
    (hbuild : buildIndex (diskReading reads) folder source memory tree = (run, after))
    (hfailed : run.result = .error failure)
    (hcause : failure = .engine .memoryBudget ∨ ∃ cause, failure = .extract cause) :
    Holds after folder [] := by
  rcases buildIndex_error hbuild hfailed with
    hemptying | ⟨emptied, hemptied, ⟨-, rfl⟩ | ⟨filling, hfilling, hunfilled⟩⟩
  · -- what keeps a folder from being emptied is neither of the two causes
    exfalso
    rcases of_emptyIndex_eq_error hemptying with ⟨_, rfl⟩ | rfl <;> simp at hcause
  · exact holds_of_emptyIndex hemptied
  · rcases of_fillIndex_eq_error hfilling hunfilled with ⟨rfl, -⟩ | ⟨_, rfl⟩
    · exact holds_of_emptyIndex hemptied
    · simp at hcause

/-- Opening a folder gives an empty index exactly where the folder holds one. -/
theorem openIndex_eq_empty_iff {reads : Reading} {tree : FileTree} {folder : String} :
    (openIndex (diskReading reads) folder tree).1 = .ok (.ofAddresses []) ↔
      tree.has folder = true ∧ tree.catalogue? folder = some [] := by
  rw [openIndex_apply]
  cases tree.has folder with
  | false => simp
  | true => cases tree.catalogue? folder <;> simp [AddressIndex.ofAddresses]

/-! ## A tree with one folder -/

/-- A tree with nothing but an empty folder. -/
def bareTree : FileTree :=
  ⟨[(["index"], .folder)], []⟩

/-- The tree in which the folder holds the index of some addresses. -/
def indexedTree (addresses : List Address) : FileTree :=
  bareTree.put ["index", "meta.json"] (.file (.catalogue (addresses.map Index.Document.ofAddress)))

theorem namesOf_index : namesOf "index" = ["index"] := by decide

theorem enterable_bareTree : Enterable bareTree "index" ["index"] := by
  have hlocate : bareTree.locate "index" = .ok ["index"] := by
    simp [locate, namesOf_index, bareTree, startOf, follow, enter, FileTree.entry?, next]
  exact ⟨hlocate, rfl⟩

theorem write_bareTree (addresses : List Address) :
    bareTree.write (cataloguePath "index") (.catalogue (addresses.map Index.Document.ofAddress)) =
      (.ok (), indexedTree addresses) := by
  rw [write, enterable_bareTree.locate_cataloguePath]
  rfl

theorem holds_indexedTree (addresses : List Address) :
    Holds (indexedTree addresses) "index" (addresses.map Index.Document.ofAddress) :=
  holds_of_write enterable_bareTree (write_bareTree addresses)

theorem has_index_nothing : has ⟨[], []⟩ "index" = false := by
  simp [has, at?, locate, namesOf_index, startOf, follow, enter, FileTree.entry?, next]
  rfl

/-- The folder of an index is cleared, catalogue and all, and the tree has nothing left. -/
theorem clearFolder_indexedTree (addresses : List Address) :
    (clearFolder (diskReading FileTree.read) "index").run (indexedTree addresses) =
      (.ok (), ⟨[], []⟩) := by
  have henterable : Enterable (indexedTree addresses) "index" ["index"] :=
    enterable_bareTree.of_keepsFolders <| keepsFolders_put <| by simp [bareTree, FileTree.entry?]
  rw [run_clearFolder, if_pos (holds_indexedTree addresses).has_eq, run_onFiles_eq_ok_iff]
  show (indexedTree addresses).removeTree "index" = _
  rw [removeTree, henterable.at?_eq]
  simp only [namesOf_index]
  rfl

theorem clearFolder_nothing :
    (clearFolder (diskReading FileTree.read) "index").run ⟨[], []⟩ = (.ok (), ⟨[], []⟩) := by
  rw [run_clearFolder, has_index_nothing]
  rfl

/-- Once the folder has been cleared it is made again, with the catalogue of no documents. -/
theorem emptyIndex_of_cleared {tree : FileTree}
    (hcleared : (clearFolder (diskReading FileTree.read) "index").run tree = (.ok (), ⟨[], []⟩)) :
    (emptyIndex (diskReading FileTree.read) "index").run tree = (.ok (), indexedTree []) := by
  have hmade : (onFiles ((diskReading FileTree.read).makeFolders "index")).run ⟨[], []⟩ =
      (.ok (), bareTree) := by
    rw [run_onFiles_eq_ok_iff]
    show makeFolders ⟨[], []⟩ "index" = _
    simp [makeFolders, namesOf_index, startOf, makeFrom, ensure, FileTree.entry?, next,
      put, bareTree]
  have hrequired : (requireNoIndex (diskReading FileTree.read) "index").run bareTree =
      (.ok (), bareTree) := by
    have hfree : bareTree.has (cataloguePath "index") = false := by
      rw [has, at?, enterable_bareTree.locate_cataloguePath]
      rfl
    rw [run_requireNoIndex, hfree]
    rfl
  have hsaved : (onFiles ((diskReading FileTree.read).saveCatalogue "index" [])).run bareTree =
      (.ok (), indexedTree []) :=
    run_onFiles_eq_ok_iff.mpr (write_bareTree [])
  simp only [emptyIndex, run_bind, hcleared, hmade, hrequired, hsaved]

/-- Filling an index from an extract that is not there changes nothing. -/
theorem fillIndex_missing :
    fillIndex (diskReading FileTree.read) "index" (.file "none.csv") (indexedTree []) =
      ({ result := .error (.extract (.notFound "none.csv")) }, indexedTree []) := by
  have hnames : namesOf "none.csv" = ["none.csv"] := by decide
  have hmissing : (indexedTree []).has "none.csv" = false := by
    simp [has, at?, locate, hnames, indexedTree, bareTree, put, startOf, follow, enter,
      FileTree.entry?, next]
    rfl
  rw [fillIndex_apply, readExtract_file, hmissing]
  rfl

/-- Without its extract, a build that has cleared its folder ends with an empty index. What was in
the folder no longer matters then. -/
theorem buildIndex_of_cleared {tree : FileTree}
    (hcleared : (clearFolder (diskReading FileTree.read) "index").run tree = (.ok (), ⟨[], []⟩)) :
    buildIndex disk "index" (.file "none.csv") leastWriterMemory tree =
      (⟨[.message "Indexing none.csv"], .error (.extract (.notFound "none.csv"))⟩,
        indexedTree []) := by
  rw [← diskReading_read, buildIndex_apply, emptyIndex_of_cleared hcleared]
  simp only [fillIndex_missing]
  rfl

/-! ## Failed builds -/

/-- **A failed build leaves an empty index in the place of what was there.** Whatever stands where
an index is to be built, an extract that is missing or cannot be read and memory that is refused
leave a folder that is available and opens as the index of no addresses, in which every search and
every completion succeeds and finds nothing. So opening gives what it gave before exactly where an
empty index was there before.

What reading the extract gives is a parameter, so that the causes of its failure need not be told
apart. Failures of the files themselves are not included: a folder that cannot be removed or written
to is left in whatever state the files have left it. -/
theorem failed_build_leaves_empty_index (reads : Reading) (tree : FileTree) (folder : String)
    (source : ExtractSource) (memory : Nat) {run : BuildRun} {after : FileTree}
    {failure : IndexFailure}
    (hbuild : buildIndex (diskReading reads) folder source memory tree = (run, after))
    (hfailed : run.result = .error failure)
    (hcause : failure = .engine .memoryBudget ∨ ∃ cause, failure = .extract cause) :
    isAvailable (diskReading reads) folder after = (true, after) ∧
    openIndex (diskReading reads) folder after = (.ok (.ofAddresses []), after) ∧
    (∀ plan sort limit, (AddressIndex.ofAddresses []).search plan sort limit = []) ∧
    (∀ text limit, (AddressIndex.ofAddresses []).suggest text limit = .ok []) ∧
    ((openIndex (diskReading reads) folder after).1 =
      (openIndex (diskReading reads) folder tree).1 ↔
      tree.has folder = true ∧ tree.catalogue? folder = some []) := by
  have hholds := holds_of_buildIndex_error hbuild hfailed hcause
  refine ⟨hholds.isAvailable_eq, hholds.openIndex_eq, AddressIndex.search_ofAddresses_nil,
    AddressIndex.suggest_ofAddresses_nil, ?_⟩
  rw [hholds.openIndex_eq, ← openIndex_eq_empty_iff]
  exact eq_comm

/-- The index of three addresses is gone after a build without its extract. -/
theorem failed_build_leaves_empty_index_neighbours :
    buildIndex (diskReading FileTree.read) "index" (.file "none.csv") leastWriterMemory
        (indexedTree neighbours) =
      (⟨[.message "Indexing none.csv"], .error (.extract (.notFound "none.csv"))⟩, indexedTree []) ∧
    isAvailable (diskReading FileTree.read) "index" (indexedTree []) = (true, indexedTree []) ∧
    openIndex (diskReading FileTree.read) "index" (indexedTree []) =
      (.ok (.ofAddresses []), indexedTree []) := by
  have hbuild := buildIndex_of_cleared (clearFolder_indexedTree neighbours)
  rw [← diskReading_read] at hbuild
  have hempty := failed_build_leaves_empty_index FileTree.read (indexedTree neighbours) "index"
    (.file "none.csv") leastWriterMemory hbuild rfl (Or.inr ⟨.notFound "none.csv", rfl⟩)
  exact ⟨hbuild, hempty.1, hempty.2.1⟩

/-- **A failed build replaces the index that was there, and makes one where there was none.**
Without its extract, a build over the index of three addresses fails, and opening gives the index of
none. Where nothing was available before it, an empty index is available after it. -/
theorem failed_build_replaces_index :
    (openIndex disk "index" (indexedTree neighbours)).1 = .ok (.ofAddresses neighbours) ∧
    buildIndex disk "index" (.file "none.csv") leastWriterMemory (indexedTree neighbours) =
      (⟨[.message "Indexing none.csv"], .error (.extract (.notFound "none.csv"))⟩, indexedTree []) ∧
    (openIndex disk "index" (indexedTree [])).1 = .ok (.ofAddresses []) ∧
    AddressIndex.ofAddresses neighbours ≠ .ofAddresses [] ∧
    (isAvailable disk "index" ⟨[], []⟩).1 = false ∧
    buildIndex disk "index" (.file "none.csv") leastWriterMemory ⟨[], []⟩ =
      (⟨[.message "Indexing none.csv"], .error (.extract (.notFound "none.csv"))⟩, indexedTree []) ∧
    (isAvailable disk "index" (indexedTree [])).1 = true := by
  refine ⟨?_, buildIndex_of_cleared (clearFolder_indexedTree neighbours), ?_, ?_, ?_,
    buildIndex_of_cleared clearFolder_nothing, ?_⟩
  · rw [← diskReading_read, (holds_indexedTree neighbours).openIndex_eq]
    rfl
  · rw [← diskReading_read, (holds_indexedTree []).openIndex_eq]
    rfl
  · simp [AddressIndex.ofAddresses, neighbours]
  · rw [← diskReading_read, isAvailable_apply, has_index_nothing]
    rfl
  · rw [← diskReading_read, (holds_indexedTree []).isAvailable_eq]

end Storage

end Gazetteer

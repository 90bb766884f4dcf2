import Gazetteer.Proofs.Extract.Parse
import Gazetteer.Proofs.Storage.FailedBuild
import Gazetteer.Proofs.Storage.Frame

/-!
# Building from an extract

An index can be had from an extract in two ways. A build works through a file, writes, counts and
reports each address as it comes, and opening its folder reads what was written; or the addresses
are collected in memory and indexed as a list. **Both give one index** (`build_opens_as_collected`),
whatever the folder held before, and so does a second build over the first. What a build reports is
what it has counted, and what it has counted is what the index holds.

Nothing of this says that a build succeeds. It does over a folder that can be removed, if the
extract is found without it and the writer accepts its memory (`Rebuildable.buildIndex_succeeds`).
-/

namespace Gazetteer.Storage

open FileTree

/-! ## The loop of a build -/

/-- Addresses that come one by one are written, counted and heard of in order. The induction is on
the addresses, after whatever has been written before them. -/
theorem foldl_add (addresses : List Address) (writing : Writing) :
    addresses.foldl Writing.add writing =
      ⟨writing.documents ++ addresses.map Index.Document.ofAddress,
        writing.total + addresses.length,
        writing.progress ++ List.replicate addresses.length (.advanced 1)⟩ := by
  induction addresses generalizing writing with
  | nil => simp
  | cons address addresses ih =>
    rw [List.foldl_cons, ih]
    simp [Writing.add, List.replicate_succ, Nat.add_assoc, Nat.add_comm 1]

/-- **The loop of a build has done what the extract as a whole gives**: it has written the addresses
as documents, counted them and the rows passed over, and said once for each address that it goes
on. -/
theorem writingOf_eq (bytes : List UInt8) :
    writingOf bytes =
      (⟨(Extract.read bytes).addresses.length, (Extract.read bytes).skipped⟩,
        ⟨(Extract.read bytes).addresses.map Index.Document.ofAddress,
          (Extract.read bytes).addresses.length,
          List.replicate (Extract.read bytes).addresses.length (.advanced 1)⟩) := by
  rw [writingOf, Extract.parse_eq, foldl_add]
  simp

/-- The rows that gave an address are the addresses that were written. The two counters are kept by
different parts of the loop. -/
theorem records_eq_total (bytes : List UInt8) :
    (writingOf bytes).1.records = (writingOf bytes).2.total := by
  rw [writingOf_eq]

theorem total_replicate_one (count : Nat) : Number.total (List.replicate count 1) = count := by
  induction count with
  | zero => rfl
  | succ count ih => rw [List.replicate_succ, Number.total, ih, Nat.add_comm]

theorem total_append (first second : List Nat) :
    Number.total (first ++ second) = Number.total first + Number.total second := by
  induction first with
  | nil => rw [List.nil_append, Number.total, Nat.zero_add]
  | cons n first ih => rw [List.cons_append, Number.total, Number.total, ih, Nat.add_assoc]

/-- **A build advances as often as its extract has addresses**, by one for each. -/
theorem total_advance_writingOf (bytes : List UInt8) :
    Number.total ((writingOf bytes).2.progress.map Progress.advance) =
      (Extract.read bytes).addresses.length := by
  rw [writingOf_eq, List.map_replicate]
  exact total_replicate_one _

/-! ## Filling an index -/

namespace FileTree

variable {reads : Reading} {tree after : FileTree} {place : Path} {folder path : String}

/-- An extract from which an index has been filled was there. -/
theorem has_of_fillIndex {filling : Filling}
    (h : fillIndex (diskReading reads) folder (.file path) tree = (filling, after))
    (hfilled : filling.result = .ok ()) : tree.has path = true := by
  rw [fillIndex_apply, readExtract_file] at h
  cases hhas : tree.has path with
  | true => rfl
  | false =>
    rw [hhas] at h
    cases h
    cases hfilled

/-- A file is read as its bytes. -/
theorem readExtract_of_at? {content : List UInt8}
    (hat : tree.at? path = .ok (place, .file (.bytes content))) :
    readExtract (diskReading FileTree.read) (.file path) tree = (.ok content, tree) := by
  have hhas : tree.has path = true := by
    rw [has, hat]
    rfl
  rw [readExtract_file, if_pos hhas, FileTree.read, hat]

/-- **An index that has been filled holds what the loop has written**, and the filling keeps what
was counted and heard of. -/
theorem fillIndex_eq_ok {content : List UInt8} {filling : Filling}
    (hat : tree.at? path = .ok (place, .file (.bytes content)))
    (h : fillIndex (diskReading FileTree.read) folder (.file path) tree = (filling, after))
    (hfilled : filling.result = .ok ()) :
    (filling.counts, filling.writing) = writingOf content ∧
      tree.write (cataloguePath folder) (.catalogue (writingOf content).2.documents) =
        (.ok (), after) := by
  rw [fillIndex_apply, readExtract_of_at? hat] at h
  cases h
  have hsaving : (onFiles (disk.saveCatalogue folder (writingOf content).2.documents)).run tree =
      (.ok (), _) := Prod.ext hfilled rfl
  exact ⟨rfl, run_onFiles_eq_ok_iff.mp hsaving⟩

/-- Where the catalogue can be written, the index is filled, and with what the loop has written. -/
theorem fillIndex_of_write {content : List UInt8}
    (hat : tree.at? path = .ok (place, .file (.bytes content)))
    (hwrite : tree.write (cataloguePath folder) (.catalogue (writingOf content).2.documents) =
      (.ok (), after)) :
    fillIndex (diskReading FileTree.read) folder (.file path) tree =
      (⟨(writingOf content).1, (writingOf content).2, .ok ()⟩, after) := by
  have hsaving : (onFiles (disk.saveCatalogue folder (writingOf content).2.documents)).run tree =
      (.ok (), after) := run_onFiles_eq_ok_iff.mpr hwrite
  rw [fillIndex_apply, readExtract_of_at? hat]
  simp only [hsaving]

end FileTree

/-! ## What a successful build has done -/

/-- **What a build says is what its loop has done**: it passes on what is heard, reports both
counters, and the two counters of addresses agree. -/
structure Reports (worked : Extract.ParseCounts × Writing) (path : String) (run : BuildRun)
    (report : BuildReport) : Prop where
  progress_eq : run.progress = .message ("Indexing " ++ path) ::
    (worked.2.progress ++ [.finished ("Indexed " ++ toString worked.2.total ++ " addresses")])
  documents_eq : report.documents = worked.2.total.toUInt64
  skipped_eq : report.skippedRows = worked.1.skipped.toUInt64
  records_eq : worked.1.records = worked.2.total

/-- **A build has succeeded**: its folder has been emptied, the extract has been found after that,
and what the loop has done with it has been written and reported. -/
structure Succeeded (content : List UInt8) (folder path : String) (before middle after : FileTree)
    (place : Path) (run : BuildRun) (report : BuildReport) : Prop where
  emptied : Emptied before middle folder
  found : middle.at? path = .ok (place, .file (.bytes content))
  written : middle.write (cataloguePath folder) (.catalogue (writingOf content).2.documents) =
    (.ok (), after)
  reports : Reports (writingOf content) path run report

variable {content : List UInt8} {folder path : String} {before middle after : FileTree}
  {place : Path} {memory : Nat} {run : BuildRun} {report : BuildReport}

/-- **A successful build reads the file that its extract was.** Where emptying the folder takes the
extract away, the build fails, and nothing is in its place that could be read instead. -/
theorem succeeded_of_buildIndex (hextract : before.at? path = .ok (place, .file (.bytes content)))
    (hplace : place ≠ before.cataloguePlace folder)
    (hbuild : buildIndex disk folder (.file path) memory before = (run, after))
    (hreport : run.result = .ok report) :
    ∃ middle, Succeeded content folder path before middle after place run report := by
  rw [← diskReading_read] at hbuild
  obtain ⟨emptied, filling, hempty, hfill, hfilled, hprogress, hdocuments, hskipped⟩ :=
    buildIndex_ok hbuild hreport
  have hemptied := emptied_of_emptyIndex hempty
  have hfound := hemptied.at?_eq_ok hextract hplace (has_of_fillIndex hfill hfilled)
  obtain ⟨hworked, hwritten⟩ := fillIndex_eq_ok hfound hfill hfilled
  have hrecords := records_eq_total content
  rw [← hworked] at hrecords
  refine ⟨emptied, hemptied, hfound, hwritten, ?_⟩
  rw [← hworked]
  exact ⟨hprogress, hdocuments, hskipped, hrecords⟩

namespace Succeeded

theorem holds (h : Succeeded content folder path before middle after place run report) :
    Holds after folder (writingOf content).2.documents :=
  holds_of_write h.emptied.enterable h.written

/-- Places mean what they meant, so that the build after this one writes its catalogue at the same
place. -/
theorem cataloguePlace_eq (h : Succeeded content folder path before middle after place run report) :
    after.cataloguePlace folder = before.cataloguePlace folder := by
  have hworking := (write_catalogue_eq_ok h.emptied.enterable h.written).2.working_eq
  rw [cataloguePlace, cataloguePlace, placeOf_eq (hworking.trans h.emptied.working_eq)]

/-- Beside the catalogue, everything is as it was when the folder had been emptied. -/
theorem entry?_eq (h : Succeeded content folder path before middle after place run report)
    {other : Path} (hother : other ≠ before.cataloguePlace folder) :
    after.entry? other = middle.entry? other := by
  rw [cataloguePlace] at hother
  rw [(write_catalogue_eq_ok h.emptied.enterable h.written).1, entry?_put_of_ne hother]

/-- **The extract is still there** after the build, which has put a catalogue at another place. -/
theorem at?_eq_ok (h : Succeeded content folder path before middle after place run report)
    (hplace : place ≠ before.cataloguePlace folder) :
    after.at? path = .ok (place, .file (.bytes content)) := by
  refine (write_catalogue_eq_ok h.emptied.enterable h.written).2.at?_eq_ok h.found ?_
  rw [h.entry?_eq hplace]
  exact (FileTree.at?_eq_ok.mp h.found).2

/-- **Nothing is left of what a folder held**: the one file in it is the catalogue that this build
has written. -/
theorem only_catalogue (h : Succeeded content folder path before middle after place run report)
    (hhas : before.has folder = true) {other : Path} {file : File}
    (hbelow : before.placeOf folder <+: other)
    (hfile : after.entry? other = some (.file file)) : other = before.cataloguePlace folder := by
  by_cases hcatalogue : other = before.cataloguePlace folder
  · exact hcatalogue
  · rw [h.entry?_eq hcatalogue] at hfile
    exact h.emptied.only_catalogue hhas other file hbelow hfile

end Succeeded

/-! ## Building over a folder -/

/-- **An index can be built over a folder**: it can be removed, nothing but a file is in the place
of its catalogue, and the extract is found without it. -/
structure Rebuildable (tree : FileTree) (folder path : String) (place : Path)
    (content : List UInt8) : Prop where
  at_folder : tree.at? folder = .ok (tree.placeOf folder, .folder)
  no_dot : (namesOf folder).getLast? ≠ some "."
  no_dots : (namesOf folder).getLast? ≠ some ".."
  free : tree.entry? (tree.cataloguePlace folder) ≠ some .folder
  extract : (tree.remove (tree.placeOf folder)).at? path = .ok (place, .file (.bytes content))

namespace Rebuildable

variable {tree : FileTree}

theorem clearFolder_eq (h : Rebuildable tree folder path place content) :
    (clearFolder (diskReading FileTree.read) folder).run tree =
      (.ok (), tree.remove (tree.placeOf folder)) := by
  have hhas : tree.has folder = true := by
    rw [has, h.at_folder]
    rfl
  rw [run_clearFolder, if_pos hhas, run_onFiles_eq_ok_iff]
  exact removeTree_of_at? h.at_folder h.no_dot h.no_dots

/-- The folder can be made again where it has been removed. It was there, so nothing but folders
stands where the folders on its path stood, and there is no catalogue in it yet. -/
theorem exists_makeFolders (h : Rebuildable tree folder path place content) :
    ∃ made, (tree.remove (tree.placeOf folder)).makeFolders folder = (.ok (), made) ∧
      Enterable made folder (tree.placeOf folder) ∧
      made.entry? (tree.cataloguePlace folder) = none := by
  obtain ⟨hlocate, hfolder⟩ := at?_eq_ok.mp h.at_folder
  have hfollow := follow_of_locate hlocate
  have hne : folder ≠ "" := Enterable.ne_empty ⟨hlocate, hfolder⟩
  -- Removing leaves a folder where it is or takes it away, and so it puts nothing in the way of
  -- one.
  have hstanding : ∀ other, tree.entry? other = some .folder →
      entry? (tree.remove (tree.placeOf folder)) other = some .folder ∨
        entry? (tree.remove (tree.placeOf folder)) other = none := by
    intro other hother
    by_cases hroot : other = []
    · rw [hroot]
      exact Or.inl rfl
    · rw [entry?_remove tree _ hroot]
      split
      · exact Or.inr rfl
      · exact Or.inl hother
  obtain ⟨made, hmade⟩ := makeFrom_succeeds hfollow hfolder hstanding
  have hmake : (tree.remove (tree.placeOf folder)).makeFolders folder = (.ok (), made) := by
    rw [makeFolders, if_neg hne]
    exact hmade
  obtain ⟨place', henterable⟩ := enterable_of_makeFolders hmake
  have hplace : place' = tree.placeOf folder := by
    rw [locate_eq_placeOf henterable.1]
    exact placeOf_eq (addsFolders_of_makeFrom hmade).working_eq folder
  have hbelow : tree.placeOf folder <+: tree.cataloguePlace folder := List.prefix_append _ _
  refine ⟨made, hmake, hplace ▸ henterable, ?_⟩
  rw [entry?_of_makeFrom hfollow hfolder hmade h.free,
    entry?_remove tree _ (by simp [cataloguePlace]), if_pos hbelow]

/-- **The folder can be emptied**, and the extract is still found: no folder on its path has been
taken away. -/
theorem exists_emptyIndex (h : Rebuildable tree folder path place content) :
    ∃ emptied, (emptyIndex (diskReading FileTree.read) folder).run tree = (.ok (), emptied) ∧
      Enterable emptied folder (tree.placeOf folder) ∧
      emptied.entry? (tree.cataloguePlace folder) ≠ some .folder ∧
      emptied.at? path = .ok (place, .file (.bytes content)) := by
  obtain ⟨made, hmake, henterable, hnone⟩ := h.exists_makeFolders
  have hmade : (onFiles ((diskReading FileTree.read).makeFolders folder)).run
      (tree.remove (tree.placeOf folder)) = (.ok (), made) := run_onFiles_eq_ok_iff.mpr hmake
  have hrequired : (requireNoIndex (diskReading FileTree.read) folder).run made =
      (.ok (), made) := by
    have hfree : made.has (cataloguePath folder) = false := by
      rw [has, at?, henterable.locate_cataloguePath]
      simp only
      rw [cataloguePlace] at hnone
      rw [hnone]
      rfl
    rw [run_requireNoIndex, hfree]
    rfl
  have hfree : made.entry? (tree.placeOf folder ++ [catalogueName]) ≠ some .folder := by
    rw [cataloguePlace] at hnone
    rw [hnone]
    exact Option.some_ne_none _ ∘ Eq.symm
  have hwrite := write_catalogue_of_free henterable hfree []
  have hsaved : (onFiles ((diskReading FileTree.read).saveCatalogue folder [])).run made =
      (.ok (), made.put (tree.placeOf folder ++ [catalogueName]) (.file (.catalogue []))) :=
    run_onFiles_eq_ok_iff.mpr hwrite
  obtain ⟨-, hkeeps⟩ := write_catalogue_eq_ok henterable hwrite
  refine ⟨_, ?_, henterable.of_keepsFolders hkeeps, ?_, ?_⟩
  · simp only [emptyIndex, run_bind, h.clearFolder_eq, hmade, hrequired, hsaved]
  · rw [cataloguePlace, entry?_put_self (by simp)]
    intro hfolder
    cases hfolder
  · -- The extract stands in none of the folders that were made, and not in the place of the
    -- catalogue.
    have hadds := addsFolders_of_makeFrom (makeFolders_eq_ok hmake)
    have hfile := hadds.entry place _ (at?_eq_ok.mp h.extract).2
    have hne : place ≠ tree.placeOf folder ++ [catalogueName] := by
      rintro rfl
      rw [cataloguePlace, hfile] at hnone
      cases hnone
    refine (hadds.keepsFolders.trans hkeeps).at?_eq_ok h.extract ?_
    rw [entry?_put_of_ne hne]
    exact hfile

/-- **Where an index can be built over a folder, a build succeeds** with any memory that the writer
accepts. -/
theorem buildIndex_succeeds (h : Rebuildable tree folder path place content)
    (hmemory : acceptsMemory memory = true) :
    ∃ run after report, buildIndex disk folder (.file path) memory tree = (run, after) ∧
      run.result = .ok report := by
  obtain ⟨emptied, hempty, henterable, hfree, hat⟩ := h.exists_emptyIndex
  have hfill := fillIndex_of_write hat (write_catalogue_of_free henterable hfree _)
  have hbuild := buildIndex_apply FileTree.read folder (.file path) memory tree
  simp only [hempty, hmemory, if_true, hfill] at hbuild
  exact ⟨_, _, _, hbuild, rfl⟩

end Rebuildable

/-- A folder that has been built can be built over unless its path ends in dots or leads to the
extract. These two are left as conditions, as the files do refuse them. -/
theorem Succeeded.rebuildable
    (h : Succeeded content folder path before middle after place run report)
    (hdot : (namesOf folder).getLast? ≠ some ".") (hdots : (namesOf folder).getLast? ≠ some "..")
    (hextract : (after.remove (after.placeOf folder)).at? path =
      .ok (place, .file (.bytes content))) :
    Rebuildable after folder path place content := by
  obtain ⟨hafter, hkeeps⟩ := write_catalogue_eq_ok h.emptied.enterable h.written
  have hat := (h.emptied.enterable.of_keepsFolders hkeeps).at?_eq
  have hplace := locate_eq_placeOf (FileTree.at?_eq_ok.mp hat).1
  refine ⟨hplace ▸ hat, hdot, hdots, ?_, hextract⟩
  rw [h.cataloguePlace_eq, cataloguePlace, hafter, entry?_put_self (by simp)]
  intro hfolder
  cases hfolder

/-! ## Building and collecting -/

/-- **An index has been built from an extract that is given as text.** It opens as the index of the
addresses that are collected from the text, its documents are counted by the report and by what was
heard, every data row is counted once, and if there was a folder, its only file is the new
catalogue. -/
structure BuiltFrom (csv folder path : String) (before after : FileTree) (run : BuildRun)
    (report : BuildReport) : Prop where
  opens : openIndex disk folder after = (.ok (.ofAddresses (Extract.collect csv)), after)
  catalogue_eq : after.catalogue? folder = some (writingOf (Extract.bytesOf csv)).2.documents
  reports : Reports (writingOf (Extract.bytesOf csv)) path run report
  documents_eq : report.documents = (AddressIndex.ofAddresses (Extract.collect csv)).size.toUInt64
  advance_eq : Number.total (run.progress.map Progress.advance) =
    (AddressIndex.ofAddresses (Extract.collect csv)).size
  rows_eq : report.documents + report.skippedRows =
    (Extract.rows (Extract.bytesOf csv)).length.toUInt64
  only_catalogue : before.has folder = true → ∀ place file, before.placeOf folder <+: place →
    after.entry? place = some (.file file) → place = before.cataloguePlace folder

theorem size_collect (csv : String) :
    (AddressIndex.ofAddresses (Extract.collect csv)).size =
      (Extract.read (Extract.bytesOf csv)).addresses.length := by
  rw [Extract.collect_eq, AddressIndex.size, AddressIndex.ofAddresses, List.length_map,
    Extract.readText]

/-- The documents that are reported are the addresses of the extract. -/
theorem Succeeded.documents_eq
    (h : Succeeded content folder path before middle after place run report) :
    report.documents = (Extract.read content).addresses.length.toUInt64 := by
  rw [h.reports.documents_eq, writingOf_eq]

theorem Succeeded.skipped_eq
    (h : Succeeded content folder path before middle after place run report) :
    report.skippedRows = (Extract.read content).skipped.toUInt64 := by
  rw [h.reports.skipped_eq, writingOf_eq]

/-- What was heard of adds up to the addresses of the extract; the messages at both ends of a build
do not count. -/
theorem Succeeded.advance_eq
    (h : Succeeded content folder path before middle after place run report) :
    Number.total (run.progress.map Progress.advance) = (Extract.read content).addresses.length := by
  rw [h.reports.progress_eq, List.map_cons, List.map_append, Number.total, total_append,
    total_advance_writingOf]
  exact Nat.zero_add _

/-- **A build that has succeeded has built the index from its extract**, with all that this says of
the index, the report and the folder. -/
theorem Succeeded.builtFrom {csv : String}
    (h : Succeeded (Extract.bytesOf csv) folder path before middle after place run report) :
    BuiltFrom csv folder path before after run report where
  opens := by
    rw [← diskReading_read, h.holds.openIndex_eq, writingOf_eq, Extract.collect_eq]
    rfl
  catalogue_eq := h.holds.catalogue?_eq
  reports := h.reports
  documents_eq := by rw [h.documents_eq, size_collect]
  advance_eq := by rw [h.advance_eq, size_collect]
  rows_eq := by
    rw [h.documents_eq, h.skipped_eq, ← Extract.records_add_skipped]
    exact (UInt64.ofNat_add _ _).symm
  only_catalogue hhas _ _ hbelow hfile := h.only_catalogue hhas hbelow hfile

/-- **A build opens as the index that is made in memory.** Whatever stands where an index is to be
built, and whatever memory the writer is given, a build from an extract that succeeds leaves the
index of the addresses that are collected from the same text: as large, and with the same answer to
every search and to every completion. It reports its documents and its rows, and keeps nothing of an
index before it. The extract is any file but the one that a build writes itself.

A second build that succeeds does the same once more. It does succeed with memory that the writer
accepts, unless the folder cannot be removed for the dots at the end of its path, or takes the
extract away with it. -/
theorem build_opens_as_collected {tree after : FileTree} {folder path csv : String} {place : Path}
    {memory : Nat} {run : BuildRun} {report : BuildReport}
    (hextract : tree.at? path = .ok (place, .file (.bytes (Extract.bytesOf csv))))
    (hplace : place ≠ tree.cataloguePlace folder)
    (hbuild : buildIndex disk folder (.file path) memory tree = (run, after))
    (hreport : run.result = .ok report) :
    BuiltFrom csv folder path tree after run report ∧
    (∀ memory' run' after' report',
      buildIndex disk folder (.file path) memory' after = (run', after') →
      run'.result = .ok report' →
      BuiltFrom csv folder path after after' run' report' ∧
        report'.documents = report.documents ∧ report'.skippedRows = report.skippedRows) ∧
    ((namesOf folder).getLast? ≠ some "." → (namesOf folder).getLast? ≠ some ".." →
      (after.remove (after.placeOf folder)).at? path =
        .ok (place, .file (.bytes (Extract.bytesOf csv))) →
      ∀ memory', acceptsMemory memory' = true → ∃ run' after' report',
        buildIndex disk folder (.file path) memory' after = (run', after') ∧
        run'.result = .ok report') := by
  obtain ⟨middle, hsucceeded⟩ := succeeded_of_buildIndex hextract hplace hbuild hreport
  refine ⟨hsucceeded.builtFrom, ?_, ?_⟩
  · intro memory' run' after' report' hbuild' hreport'
    have hplace' : place ≠ after.cataloguePlace folder := by rwa [hsucceeded.cataloguePlace_eq]
    obtain ⟨middle', hsucceeded'⟩ :=
      succeeded_of_buildIndex (hsucceeded.at?_eq_ok hplace) hplace' hbuild' hreport'
    refine ⟨hsucceeded'.builtFrom, ?_, ?_⟩
    · rw [hsucceeded'.documents_eq, hsucceeded.documents_eq]
    · rw [hsucceeded'.skipped_eq, hsucceeded.skipped_eq]
  · intro hdot hdots hfound memory' hmemory
    exact (hsucceeded.rebuildable hdot hdots hfound).buildIndex_succeeds hmemory

/-- An extract of two addresses, with a row that gives none between them. -/
def twoRows : String :=
  "address_detail_pid,street_name\nA,SMITH\n,JONES\nB,BREAKER\n"

/-- The index of three other addresses, and the extract beside it. -/
def besideIndex : FileTree :=
  (indexedTree neighbours).put ["two.csv"] (.file (.bytes (Extract.bytesOf twoRows)))

/-- The index of three addresses is replaced by that of the extract, and that by the same again. -/
theorem build_opens_as_collected_twoRows :
    besideIndex.at? "two.csv" = .ok (["two.csv"], .file (.bytes (Extract.bytesOf twoRows))) ∧
      ["two.csv"] ≠ besideIndex.cataloguePlace "index" ∧
      ∃ run after report run' after' report',
        buildIndex disk "index" (.file "two.csv") leastWriterMemory besideIndex = (run, after) ∧
        run.result = .ok report ∧ BuiltFrom twoRows "index" "two.csv" besideIndex after run report ∧
        buildIndex disk "index" (.file "two.csv") leastWriterMemory after = (run', after') ∧
        run'.result = .ok report' ∧ BuiltFrom twoRows "index" "two.csv" after after' run' report' ∧
        (Extract.collect twoRows).map Address.oneLine = ["SMITH", "BREAKER"] ∧
        report.documents = 2 ∧ report'.skippedRows = 1 := by
  have hextract : besideIndex.at? "two.csv" =
      .ok (["two.csv"], .file (.bytes (Extract.bytesOf twoRows))) := rfl
  have hplace : ["two.csv"] ≠ besideIndex.cataloguePlace "index" := by decide
  have hresult :
    (buildIndex disk "index" (.file "two.csv") leastWriterMemory besideIndex).1.result.isOk =
      true := by
    decide
  have hfound :
    at? (remove (buildIndex disk "index" (.file "two.csv") leastWriterMemory besideIndex).2
      (placeOf (buildIndex disk "index" (.file "two.csv") leastWriterMemory besideIndex).2 "index"))
        "two.csv" =
      .ok (["two.csv"], .file (.bytes (Extract.bytesOf twoRows))) := rfl
  generalize hbuild :
    buildIndex disk "index" (.file "two.csv") leastWriterMemory besideIndex = first
    at hresult hfound
  obtain ⟨run, after⟩ := first
  obtain ⟨report, hreport⟩ := exists_eq_ok hresult
  obtain ⟨hbuilt, hagain, hrebuild⟩ := build_opens_as_collected hextract hplace hbuild hreport
  obtain ⟨run', after', report', hbuild', hreport'⟩ :=
    hrebuild (by decide) (by decide) hfound leastWriterMemory (by decide)
  obtain ⟨hbuilt', -, -⟩ := hagain leastWriterMemory run' after' report' hbuild' hreport'
  refine ⟨hextract, hplace, run, after, report, run', after', report', rfl, hreport, hbuilt,
    hbuild', hreport',
    hbuilt', ?_, ?_, ?_⟩
  · with_unfolding_all decide
  · rw [hbuilt.documents_eq]
    with_unfolding_all decide
  · rw [hbuilt'.reports.skipped_eq]
    with_unfolding_all decide

end Gazetteer.Storage

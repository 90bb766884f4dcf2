import Gazetteer.Proofs.Storage.FileTree
import Gazetteer.Storage.Build

/-!
# The steps of a build

A build on a file tree empties its folder, asks for the memory of a writer and reads the extract, in
this order (`buildIndex_error`). **A folder that has been emptied holds the catalogue of no
documents** (`holds_of_emptyIndex`), and one that holds a catalogue is available and opens
(`Holds.isAvailable_eq`, `Holds.openIndex_eq`). An extract that is there may still be unreadable, so
what reading gives is left open (`diskReading`).
-/

namespace Gazetteer.Storage

/-! ## Steps that may fail -/

section Steps

variable {σ ε α β : Type} {first : ExceptT ε (StateM σ) α} {second : α → ExceptT ε (StateM σ) β}
  {before after : σ}

theorem run_lift (operation : StateM σ α) (before : σ) :
    (liftM operation : ExceptT ε (StateM σ) α).run before =
      (.ok (operation before).1, (operation before).2) :=
  rfl

/-- Of two steps the second one is taken where the first one succeeds. Where the first one fails,
what it has changed by then is not undone. -/
theorem run_bind (first : ExceptT ε (StateM σ) α) (second : α → ExceptT ε (StateM σ) β)
    (before : σ) :
    (first >>= second).run before = match first.run before with
      | (.ok a, middle) => (second a).run middle
      | (.error e, middle) => (.error e, middle) := by
  rw [ExceptT.run_bind]
  simp only [bind, StateT.bind]
  generalize first.run before = ran
  obtain ⟨result, middle⟩ := ran
  cases result <;> rfl

/-- An operation that depends on a check sees the state that the check has left, and so does a
step. -/
theorem check_apply (check : StateM σ Bool) (yes no : StateM σ α) (before : σ) :
    (do if ← check then yes else no : StateM σ α) before =
      if (check before).1 then yes (check before).2 else no (check before).2 := by
  simp only [bind, StateT.bind]
  generalize check before = checked
  obtain ⟨holds, middle⟩ := checked
  cases holds <;> rfl

theorem run_check (check : StateM σ Bool) (step : ExceptT ε (StateM σ) Unit) (before : σ) :
    (do if ← check then step : ExceptT ε (StateM σ) Unit).run before =
      if (check before).1 then step.run (check before).2 else (.ok (), (check before).2) := by
  rw [run_bind, run_lift]
  cases (check before).1 <;> rfl

/-- Two steps that have succeeded in a row have both succeeded, with a state between them. The
proofs about successful builds take the steps of a build apart with this. -/
theorem run_bind_eq_ok {b : β} (h : (first >>= second).run before = (.ok b, after)) :
    ∃ a middle, first.run before = (.ok a, middle) ∧ (second a).run middle = (.ok b, after) := by
  rw [run_bind] at h
  split at h
  next a middle hfirst => exact ⟨a, middle, hfirst, h⟩
  next => cases h

/-- Where two steps have failed, the first one has, or the second one has after it. The proofs about
failed builds use this. -/
theorem run_bind_eq_error {e : ε} (h : (first >>= second).run before = (.error e, after)) :
    first.run before = (.error e, after) ∨
      ∃ a middle, first.run before = (.ok a, middle) ∧
      (second a).run middle = (.error e, after) := by
  rw [run_bind] at h
  split at h
  next a middle hfirst => exact Or.inr ⟨a, middle, hfirst, h⟩
  next hfirst =>
    cases h
    exact Or.inl hfirst

end Steps

namespace FileTree

/-- What reading gives, by the tree and the path. -/
abbrev Reading := FileTree → String → Except FileFailure (List UInt8)

/-- The disk of file trees on which reading gives whatever it gives. -/
def diskReading (reads : Reading) : Disk (StateM FileTree) :=
  { disk with read := fun path tree => (reads tree path, tree) }

theorem diskReading_read : diskReading read = disk := rfl

theorem has_disk (path : String) (tree : FileTree) :
    disk.has path tree = (tree.has path, tree) := rfl

variable {reads : Reading} {tree after : FileTree} {folder : String} {source : ExtractSource}
  {memory : Nat} {failure : IndexFailure}

/-! ## Operations on files -/

/-- An operation on files succeeds as a step where it succeeds by itself. -/
theorem run_onFiles_eq_ok_iff {operation : StateM FileTree (Except FileFailure Unit)} :
    (onFiles operation).run tree = (.ok (), after) ↔ operation tree = (.ok (), after) := by
  change ((operation tree).1.mapError IndexFailure.file, (operation tree).2) = (.ok (), after) ↔ _
  generalize operation tree = ran
  obtain ⟨result, tree'⟩ := ran
  cases result with
  | ok _ =>
    constructor
    all_goals
      intro h
      cases h
      rfl
  | error cause =>
    constructor
    all_goals
      intro h
      cases h

/-- Where an operation on files fails as a step, the failure is one of files, and not of the engine
or the extract. -/
theorem of_run_onFiles_eq_error {operation : StateM FileTree (Except FileFailure Unit)}
    (h : (onFiles operation).run tree = (.error failure, after)) :
    ∃ cause, failure = .file cause := by
  change ((operation tree).1.mapError IndexFailure.file, (operation tree).2) =
    (.error failure, after) at h
  generalize operation tree = ran at h
  obtain ⟨result, tree'⟩ := ran
  cases result with
  | ok _ => cases h
  | error cause =>
    cases h
    exact ⟨cause, rfl⟩

/-! ## Emptying a folder -/

theorem run_clearFolder (reads : Reading) (folder : String) (tree : FileTree) :
    (clearFolder (diskReading reads) folder).run tree =
      if tree.has folder then (onFiles (disk.removeTree folder)).run tree else (.ok (), tree) :=
  run_check (disk.has folder) (onFiles (disk.removeTree folder)) tree

/-- A catalogue that is still there is a failure of the engine, and looking for it changes
nothing. -/
theorem run_requireNoIndex (reads : Reading) (folder : String) (tree : FileTree) :
    (requireNoIndex (diskReading reads) folder).run tree =
      if tree.has (cataloguePath folder) then (.error (.engine (.catalogueExists folder)), tree)
      else (.ok (), tree) :=
  run_check (disk.has (cataloguePath folder))
    (throw (IndexFailure.engine (.catalogueExists folder))) tree

/-- **A folder that has been emptied holds the catalogue of no documents.** It is written at the end
of the step, so that an empty index can be opened from there on. -/
theorem holds_of_emptyIndex
    (h : (emptyIndex (diskReading reads) folder).run tree = (.ok (), after)) :
    Holds after folder [] := by
  obtain ⟨⟨⟩, cleared, -, h⟩ := run_bind_eq_ok h
  obtain ⟨⟨⟩, made, hmade, h⟩ := run_bind_eq_ok h
  obtain ⟨⟨⟩, required, hrequired, hsaved⟩ := run_bind_eq_ok h
  obtain ⟨place, henterable⟩ := enterable_of_makeFolders (run_onFiles_eq_ok_iff.mp hmade)
  rw [run_requireNoIndex] at hrequired
  split at hrequired
  next => cases hrequired
  next =>
    cases hrequired
    exact holds_of_write henterable (run_onFiles_eq_ok_iff.mp hsaved)

/-- A folder is not emptied where the files refuse it, or where an index is still there after it has
been removed. -/
theorem of_emptyIndex_eq_error
    (h : (emptyIndex (diskReading reads) folder).run tree = (.error failure, after)) :
    (∃ cause, failure = .file cause) ∨ failure = .engine (.catalogueExists folder) := by
  rcases run_bind_eq_error h with h | ⟨⟨⟩, cleared, -, h⟩
  · rw [run_clearFolder] at h
    split at h
    · exact Or.inl (of_run_onFiles_eq_error h)
    · cases h
  rcases run_bind_eq_error h with h | ⟨⟨⟩, made, -, h⟩
  · exact Or.inl (of_run_onFiles_eq_error h)
  rcases run_bind_eq_error h with h | ⟨⟨⟩, required, -, h⟩
  · rw [run_requireNoIndex] at h
    split at h
    · cases h
      exact Or.inr rfl
    · cases h
  · exact Or.inl (of_run_onFiles_eq_error h)

/-! ## Filling it -/

/-- What an extract on a file tree gives. A folder in its place is read as a file without rows, and
anything else that cannot be read is a failure of the extract. -/
theorem readExtract_file (reads : Reading) (path : String) (tree : FileTree) :
    readExtract (diskReading reads) (.file path) tree =
      (if tree.has path then
        match reads tree path with
        | .ok bytes => .ok bytes
        | .error .isFolder => .ok []
        | .error cause => .error (.extract (.file path cause))
      else .error (.extract (.notFound path)), tree) := by
  refine (check_apply (disk.has path) _ _ tree).trans ?_
  change (if tree.has path then _ else _) = _
  split
  · simp only [bind, StateT.bind, diskReading, has_disk]
    cases reads tree path with
    | ok bytes => rfl
    | error cause => cases cause <;> rfl
  · rfl

/-- An extract that cannot be read leaves everything as it was, and the failure says that it is one
of the extract. -/
theorem of_readExtract_eq_error
    (h : readExtract (diskReading reads) source tree = (.error failure, after)) :
    after = tree ∧ ∃ cause, failure = .extract cause := by
  cases source with
  | sample => cases h
  | file path =>
    rw [readExtract_file] at h
    obtain ⟨hresult, rfl⟩ := Prod.mk.inj h
    refine ⟨rfl, ?_⟩
    split at hresult
    · split at hresult
      next => cases hresult
      next => cases hresult
      next cause _ _ =>
        cases hresult
        exact ⟨_, rfl⟩
    · cases hresult
      exact ⟨_, rfl⟩

/-- Filling step by step. What the loop has done is kept where its documents cannot be saved, and
there is nothing to keep where the extract cannot be read. -/
theorem fillIndex_apply (reads : Reading) (folder : String) (source : ExtractSource)
    (tree : FileTree) :
    fillIndex (diskReading reads) folder source tree =
      match readExtract (diskReading reads) source tree with
      | (.error failure, left) => ({ result := .error failure }, left)
      | (.ok bytes, left) =>
        (⟨(writingOf bytes).1, (writingOf bytes).2,
          ((onFiles (disk.saveCatalogue folder (writingOf bytes).2.documents)).run left).1⟩,
          ((onFiles (disk.saveCatalogue folder (writingOf bytes).2.documents)).run left).2) := by
  unfold fillIndex
  generalize readExtract (diskReading reads) source = reading
  simp only [bind, StateT.bind]
  generalize reading tree = ran
  obtain ⟨result, left⟩ := ran
  cases result <;> rfl

/-- An index is not filled where its extract cannot be read, which leaves the tree as it was, or
where the files refuse it. -/
theorem of_fillIndex_eq_error {filling : Filling}
    (h : fillIndex (diskReading reads) folder source tree = (filling, after))
    (hfailed : filling.result = .error failure) :
    (after = tree ∧ ∃ cause, failure = .extract cause) ∨ ∃ cause, failure = .file cause := by
  rw [fillIndex_apply] at h
  split at h
  next hread =>
    cases h
    cases hfailed
    exact Or.inl (of_readExtract_eq_error hread)
  next bytes left _ =>
    cases h
    have hsaving : (onFiles (disk.saveCatalogue folder (writingOf bytes).2.documents)).run left =
        (.error failure, _) := Prod.ext hfailed rfl
    exact Or.inr (of_run_onFiles_eq_error hsaving)

/-! ## Building and opening -/

/-- A build step by step, with the tree that each step leaves. Nothing is heard before the memory
has been accepted, and what the loop has heard is kept where saving fails. -/
theorem buildIndex_apply (reads : Reading) (folder : String) (source : ExtractSource) (memory : Nat)
    (tree : FileTree) :
    buildIndex (diskReading reads) folder source memory tree =
      match (emptyIndex (diskReading reads) folder).run tree with
      | (.error failure, emptied) => (⟨[], .error failure⟩, emptied)
      | (.ok (), emptied) =>
        if acceptsMemory memory then
          match fillIndex (diskReading reads) folder source emptied with
          | (⟨_, writing, .error failure⟩, filled) =>
            (⟨.message ("Indexing " ++ source.name) :: writing.progress, .error failure⟩, filled)
          | (⟨counts, writing, .ok ()⟩, filled) =>
            (⟨.message ("Indexing " ++ source.name) :: writing.progress ++
                [.finished ("Indexed " ++ toString writing.total ++ " addresses")],
              .ok ⟨writing.total.toUInt64, counts.skipped.toUInt64,
                (filled.size folder).toUInt64, 0 - 0⟩⟩,
              filled)
        else (⟨[], .error (.engine .memoryBudget)⟩, emptied) := by
  unfold buildIndex
  generalize (emptyIndex (diskReading reads) folder).run = emptying
  generalize fillIndex (diskReading reads) folder source = filling
  simp only [bind, StateT.bind, diskReading, disk]
  generalize emptying tree = ran
  obtain ⟨result, emptied⟩ := ran
  cases result with
  | error failure => rfl
  | ok _ =>
    cases acceptsMemory memory with
    | false => rfl
    | true =>
      simp only [if_true, StateT.bind]
      generalize filling emptied = ran
      obtain ⟨⟨counts, writing, result⟩, filled⟩ := ran
      cases result <;> rfl

/-- **A build fails** where its folder cannot be emptied, its memory is refused or its index cannot
be filled, in this order. -/
theorem buildIndex_error {run : BuildRun}
    (hbuild : buildIndex (diskReading reads) folder source memory tree = (run, after))
    (hfailed : run.result = .error failure) :
    (emptyIndex (diskReading reads) folder).run tree = (.error failure, after) ∨
      ∃ emptied, (emptyIndex (diskReading reads) folder).run tree = (.ok (), emptied) ∧
        (failure = .engine .memoryBudget ∧ after = emptied ∨
          ∃ filling, fillIndex (diskReading reads) folder source emptied = (filling, after) ∧
            filling.result = .error failure) := by
  rw [buildIndex_apply] at hbuild
  split at hbuild
  next cause emptied hemptied =>
    cases hbuild
    cases hfailed
    exact Or.inl hemptied
  next emptied hemptied =>
    refine Or.inr ⟨emptied, hemptied, ?_⟩
    split at hbuild
    · split at hbuild
      next hfilled =>
        cases hbuild
        cases hfailed
        exact Or.inr ⟨_, hfilled, rfl⟩
      next =>
        cases hbuild
        cases hfailed
    · cases hbuild
      cases hfailed
      exact Or.inl ⟨rfl, rfl⟩

/-- **A build succeeds** where its folder has been emptied and its index filled, and reports what
was filled. -/
theorem buildIndex_ok {run : BuildRun} {report : BuildReport}
    (hbuild : buildIndex (diskReading reads) folder source memory tree = (run, after))
    (hreport : run.result = .ok report) :
    ∃ emptied filling, (emptyIndex (diskReading reads) folder).run tree = (.ok (), emptied) ∧
      fillIndex (diskReading reads) folder source emptied = (filling, after) ∧
      filling.result = .ok () ∧
      run.progress = .message ("Indexing " ++ source.name) :: (filling.writing.progress ++
        [.finished ("Indexed " ++ toString filling.writing.total ++ " addresses")]) ∧
      report.documents = filling.writing.total.toUInt64 ∧
      report.skippedRows = filling.counts.skipped.toUInt64 := by
  rw [buildIndex_apply] at hbuild
  split at hbuild
  next =>
    cases hbuild
    cases hreport
  next emptied hemptied =>
    split at hbuild
    · split at hbuild
      next =>
        cases hbuild
        cases hreport
      next hfilled =>
        cases hbuild
        cases hreport
        exact ⟨emptied, _, hemptied, hfilled, rfl, rfl, rfl, rfl⟩
    · cases hbuild
      cases hreport

/-- An index is available where its folder and the catalogue in it are there; the catalogue is not
opened for that. -/
theorem isAvailable_apply (reads : Reading) (folder : String) (tree : FileTree) :
    isAvailable (diskReading reads) folder tree =
      (tree.has folder && tree.has (cataloguePath folder), tree) := by
  refine (check_apply (disk.has folder) (disk.has (cataloguePath folder))
    (pure false) tree).trans ?_
  change (if tree.has folder then (tree.has (cataloguePath folder), tree) else (false, tree)) = _
  cases tree.has folder <;> rfl

/-- Opening gives the documents of the catalogue, with the standard window for searches, and tells a
folder without a catalogue from no folder. -/
theorem openIndex_apply (reads : Reading) (folder : String) (tree : FileTree) :
    openIndex (diskReading reads) folder tree =
      (if tree.has folder then
        match tree.catalogue? folder with
        | some documents => .ok ⟨documents, AddressIndex.standardWindow⟩
        | none => .error (.engine (.noCatalogue folder))
      else .error (.notFound folder), tree) := by
  refine (check_apply (disk.has folder) _ _ tree).trans ?_
  change (if tree.has folder then _ else _) = _
  split
  · simp only [bind, StateT.bind, diskReading, disk]
    cases tree.catalogue? folder <;> rfl
  · rfl

theorem Holds.isAvailable_eq {documents : List Index.Document} (h : Holds tree folder documents) :
    isAvailable (diskReading reads) folder tree = (true, tree) := by
  rw [isAvailable_apply, h.has_eq, h.has_catalogue]
  rfl

/-- **A folder that holds a catalogue opens with its documents**, and opening changes nothing. -/
theorem Holds.openIndex_eq {documents : List Index.Document} (h : Holds tree folder documents) :
    openIndex (diskReading reads) folder tree =
      (.ok ⟨documents, AddressIndex.standardWindow⟩, tree) := by
  rw [openIndex_apply, h.has_eq, h.catalogue?_eq]
  rfl

end FileTree

end Gazetteer.Storage

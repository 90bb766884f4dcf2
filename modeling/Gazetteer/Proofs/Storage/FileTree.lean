import Gazetteer.Storage.FileTree

/-!
# Finding again what was made

Making folders and writing files leaves every folder in its place (`KeepsFolders`), so a path that
has been followed once can be followed again. **A folder that has been made can be entered**
(`enterable_of_makeFolders`), and the catalogue that has been written into it is the one that it
holds (`holds_of_write`).
-/

namespace Gazetteer

theorem Text.pieces_ne_nil (separator : Char) (cs : List Char) : pieces separator cs ≠ [] := by
  cases cs with
  | nil => simp [pieces]
  | cons c cs =>
    unfold pieces
    split
    · simp
    · split <;> simp

/-- A text cut at a separator falls into the pieces of both sides. The names in a path are such
pieces, so the path of a catalogue has those of its folder. -/
theorem Text.pieces_append (separator : Char) (before after : List Char) :
    pieces separator (before ++ separator :: after) =
      pieces separator before ++ pieces separator after := by
  induction before with
  | nil => simp [pieces]
  | cons c before ih =>
    by_cases hc : c = separator
    · simp [pieces, hc, ih]
    · cases hpieces : pieces separator before with
      | nil => exact absurd hpieces (pieces_ne_nil separator before)
      | cons piece others => simp [pieces, hc, ih, hpieces]

namespace Storage.FileTree

variable {tree before after : FileTree} {path place : Path} {folder : String}

/-! ## Entries -/

/-- What has been put at a path stands there, and what stands elsewhere is not touched by it. All
changes of a tree but removals go through these two lemmas. -/
theorem entry?_put_self {entry : Entry} (h : path ≠ []) :
    entry? (tree.put path entry) path = some entry := by
  simp [put, entry?, h]

theorem entry?_put_of_ne {other : Path} {entry : Entry} (h : other ≠ path) :
    entry? (tree.put path entry) other = tree.entry? other := by
  have hfind : ((path, entry) :: tree.entries.filter (·.1 != path)).find? (·.1 == other) =
      tree.entries.find? (·.1 == other) := by
    rw [List.find?_cons_of_neg (by simpa using Ne.symm h), List.find?_filter]
    congr 1
    funext standing
    by_cases hother : standing.1 = other
    · simp [hother, h]
    · simp [hother]
  simp only [put, entry?, hfind]

/-! ## Folders -/

/-- Every folder is still there, and relative paths begin where they began. This is all that
following a path depends on, so whatever keeps folders keeps the meaning of paths. -/
structure KeepsFolders (before after : FileTree) : Prop where
  working_eq : after.working = before.working
  folder : ∀ path, before.entry? path = some .folder → after.entry? path = some .folder

theorem KeepsFolders.refl (tree : FileTree) : KeepsFolders tree tree :=
  ⟨rfl, fun _ h => h⟩

theorem KeepsFolders.trans {first second third : FileTree} (h : KeepsFolders first second)
    (h' : KeepsFolders second third) : KeepsFolders first third :=
  ⟨h'.working_eq.trans h.working_eq, fun path hpath => h'.folder path (h.folder path hpath)⟩

/-- Something new leaves the folders in their places, unless it takes the place of one. -/
theorem keepsFolders_put {entry : Entry} (h : tree.entry? path ≠ some .folder) :
    KeepsFolders tree (tree.put path entry) := by
  refine ⟨rfl, ?_⟩
  intro other hother
  rw [entry?_put_of_ne]
  · exact hother
  · rintro rfl
    exact h hother

theorem KeepsFolders.startOf_eq (h : KeepsFolders before after) (path : String) :
    after.startOf path = before.startOf path := by
  rw [startOf, startOf, h.working_eq]

/-- A name that could be followed from a folder still can, to the same place. -/
theorem KeepsFolders.enter_eq_ok (h : KeepsFolders before after) {name : String}
    (henter : before.enter path name = .ok place) : after.enter path name = .ok place := by
  unfold enter at henter ⊢
  split at henter
  next hfolder => rwa [h.folder path hfolder]
  next => cases henter
  next => cases henter

/-- Names that could be followed still can, to the same place. The induction is on the names, from
whatever folder they are followed. -/
theorem KeepsFolders.follow_eq_ok (h : KeepsFolders before after) {names : List String}
    (hfollow : before.follow path names = .ok place) : after.follow path names = .ok place := by
  induction names generalizing path with
  | nil => exact hfollow
  | cons name names ih =>
    rw [follow] at hfollow ⊢
    cases henter : before.enter path name with
    | error failure =>
      rw [henter] at hfollow
      cases hfollow
    | ok next =>
      rw [henter] at hfollow
      rw [h.enter_eq_ok henter]
      exact ih hfollow

/-- **A text that meant a place still means it**, because it is followed through folders only. -/
theorem KeepsFolders.locate_eq_ok (h : KeepsFolders before after) {text : String}
    (hlocate : before.locate text = .ok place) : after.locate text = .ok place := by
  unfold locate at hlocate ⊢
  split at hlocate
  next => cases hlocate
  next hne =>
    rw [if_neg hne, h.startOf_eq]
    exact h.follow_eq_ok hlocate

/-! ## Making folders -/

/-- A folder that is ensured is there, and nothing else is touched. Where something other than a
folder is in its place, ensuring fails. -/
theorem ensure_spec (h : tree.ensure path = (.ok (), after)) :
    after.entry? path = some .folder ∧ KeepsFolders tree after := by
  unfold ensure at h
  split at h
  next hfolder =>
    cases h
    exact ⟨hfolder, KeepsFolders.refl tree⟩
  next => cases h
  next hnone =>
    cases h
    have hne : path ≠ [] := by
      rintro rfl
      cases hnone
    refine ⟨entry?_put_self hne, keepsFolders_put ?_⟩
    rw [hnone]
    intro hfolder
    cases hfolder

/-- **Names along which folders have been made can be followed**, and lead to a folder. The
induction is on the names: each is ensured and then entered, and what follows keeps it. -/
theorem makeFrom_spec {names : List String} (h : tree.makeFrom path names = (.ok (), after)) :
    (∃ place, after.follow path names = .ok place ∧ after.entry? place = some .folder) ∧
      KeepsFolders tree after := by
  induction names generalizing tree path with
  | nil =>
    obtain ⟨hfolder, hkeeps⟩ := ensure_spec h
    exact ⟨⟨path, rfl, hfolder⟩, hkeeps⟩
  | cons name names ih =>
    rw [makeFrom] at h
    split at h
    next middle hensure =>
      obtain ⟨hfolder, hkeeps⟩ := ensure_spec hensure
      obtain ⟨⟨place, hfollow, hplace⟩, hkeeps'⟩ := ih h
      refine ⟨⟨place, ?_, hplace⟩, hkeeps.trans hkeeps'⟩
      have henter : after.enter path name = .ok (next path name) := by
        rw [enter, hkeeps'.folder path hfolder]
      rw [follow, henter]
      exact hfollow
    next => cases h

/-- A text means a folder: it is followed to a place, and there is a folder there. -/
def Enterable (tree : FileTree) (folder : String) (place : Path) : Prop :=
  tree.locate folder = .ok place ∧ tree.entry? place = some .folder

theorem Enterable.at?_eq (h : Enterable tree folder place) :
    tree.at? folder = .ok (place, .folder) := by
  rw [at?, h.1]
  simp only [h.2]

theorem Enterable.ne_empty (h : Enterable tree folder place) : folder ≠ "" := by
  rintro rfl
  exact absurd h.1 (by simp [locate])

theorem Enterable.of_keepsFolders (h : Enterable before folder place)
    (hkeeps : KeepsFolders before after) :
    Enterable after folder place :=
  ⟨hkeeps.locate_eq_ok h.1, hkeeps.folder place h.2⟩

/-- **A folder that has been made can be entered.** -/
theorem enterable_of_makeFolders (h : tree.makeFolders folder = (.ok (), after)) :
    ∃ place, Enterable after folder place := by
  unfold makeFolders at h
  split at h
  next => cases h
  next hne =>
    obtain ⟨⟨place, hfollow, hplace⟩, hkeeps⟩ := makeFrom_spec h
    refine ⟨place, ?_, hplace⟩
    rw [locate, if_neg hne, hkeeps.startOf_eq]
    exact hfollow

/-! ## Catalogues -/

/-- The path of a catalogue has one name more than that of its folder. -/
theorem namesOf_cataloguePath (folder : String) :
    namesOf (cataloguePath folder) = namesOf folder ++ [catalogueName] := by
  have hcut : (cataloguePath folder).toList = folder.toList ++ '/' :: catalogueName.toList := by
    simp [cataloguePath]
  have hone : Text.pieces '/' catalogueName.toList = [catalogueName.toList] := by decide
  rw [namesOf, hcut, Text.pieces_append, hone, List.map_append, namesOf]
  simp

theorem startOf_cataloguePath (h : folder ≠ "") :
    tree.startOf (cataloguePath folder) = tree.startOf folder := by
  have hne : folder.toList ≠ [] := by simpa using h
  obtain ⟨c, cs, hcs⟩ := List.exists_cons_of_ne_nil hne
  have hhead : (cataloguePath folder).toList.head? = folder.toList.head? := by
    simp [cataloguePath, hcs]
  rw [startOf, startOf, hhead]

/-- Names in a row are followed one part after the other. -/
theorem follow_append (names more : List String) (h : tree.follow path names = .ok place) :
    tree.follow path (names ++ more) = tree.follow place more := by
  induction names generalizing path with
  | nil =>
    cases h
    rfl
  | cons name names ih =>
    rw [follow] at h
    rw [List.cons_append, follow]
    cases henter : tree.enter path name with
    | error failure =>
      rw [henter] at h
      cases h
    | ok next =>
      rw [henter] at h
      exact ih h

/-- The catalogue of a folder stands in it. -/
theorem Enterable.locate_cataloguePath (h : Enterable tree folder place) :
    tree.locate (cataloguePath folder) = .ok (place ++ [catalogueName]) := by
  have hlocate := h.1
  rw [locate, if_neg h.ne_empty] at hlocate
  have hne : cataloguePath folder ≠ "" := by
    simp [cataloguePath, catalogueName]
  rw [locate, if_neg hne, startOf_cataloguePath h.ne_empty, namesOf_cataloguePath,
    follow_append _ _ hlocate, follow, enter, h.2]
  rfl

/-- A catalogue is written at its place, and all folders stay in theirs. -/
theorem write_catalogue_eq_ok {documents : List Index.Document}
    (henterable : Enterable tree folder place)
    (h : tree.write (cataloguePath folder) (.catalogue documents) = (.ok (), after)) :
    after = tree.put (place ++ [catalogueName]) (.file (.catalogue documents)) ∧
    KeepsFolders tree after := by
  rw [write, henterable.locate_cataloguePath] at h
  simp only at h
  split at h
  next => cases h
  next hfree =>
    cases h
    exact ⟨rfl, keepsFolders_put hfree⟩

/-- A catalogue can be written unless a folder is in its place. Another file there, such as an older
catalogue, is written over. -/
theorem write_catalogue_of_free (henterable : Enterable tree folder place)
    (hfree : tree.entry? (place ++ [catalogueName]) ≠ some .folder)
    (documents : List Index.Document) :
    tree.write (cataloguePath folder) (.catalogue documents) =
      (.ok (), tree.put (place ++ [catalogueName]) (.file (.catalogue documents))) := by
  rw [write, henterable.locate_cataloguePath]
  dsimp only
  split
  next hfolder => exact absurd hfolder hfree
  next => rfl

/-- **A folder holds a catalogue**: both are there, and opening the catalogue gives the documents.
This is what the steps of a build establish and what opening an index asks for. -/
structure Holds (tree : FileTree) (folder : String) (documents : List Index.Document) : Prop where
  has_eq : tree.has folder = true
  has_catalogue : tree.has (cataloguePath folder) = true
  catalogue?_eq : tree.catalogue? folder = some documents

/-- **A folder holds the catalogue that has been written into it.** Its path leads through the same
folders after the catalogue has been written as before. -/
theorem holds_of_write {documents : List Index.Document} (henterable : Enterable tree folder place)
    (h : tree.write (cataloguePath folder) (.catalogue documents) = (.ok (), after)) :
    Holds after folder documents := by
  obtain ⟨rfl, hkeeps⟩ := write_catalogue_eq_ok henterable h
  have hafter := henterable.of_keepsFolders hkeeps
  have hat : (tree.put (place ++ [catalogueName]) (.file (.catalogue documents))).at?
      (cataloguePath folder) = .ok (place ++ [catalogueName], .file (.catalogue documents)) := by
    have hne : place ++ [catalogueName] ≠ [] := by simp
    rw [at?, hafter.locate_cataloguePath]
    simp only [entry?_put_self hne]
  refine ⟨?_, ?_, ?_⟩
  · rw [has, hafter.at?_eq]
    rfl
  · rw [has, hat]
    rfl
  · rw [catalogue?, hat]

end Storage.FileTree

end Gazetteer

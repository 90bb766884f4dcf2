import Gazetteer.Proofs.Storage.Build

/-!
# What a build leaves alone

A text means one place for as long as its folders stand (`locate_eq_placeOf`). Removing a folder
takes away what is at and below its place (`entry?_remove`), making folders adds folders and nothing
else (`AddsFolders`), **and where there was a folder before, only folders that were there are made
again** (`entry?_of_makeFrom`). So a file that can still be found after a folder has been emptied is
the file that it was (`Emptied.at?_eq_ok`), and the only file in a folder that has been emptied is
its catalogue (`emptied_of_emptyIndex`).
-/

namespace Gazetteer.Storage.FileTree

variable {old tree before after : FileTree} {path place : Path} {folder : String}

/-! ## Places -/

/-- The place that a text means, if it means any. It is read off the text alone and says nothing of
what stands there. -/
def placeOf (tree : FileTree) (path : String) : Path :=
  (namesOf path).foldl next (tree.startOf path)

/-- The place of the catalogue of a folder. -/
def cataloguePlace (tree : FileTree) (folder : String) : Path :=
  tree.placeOf folder ++ [catalogueName]

/-- A name can only be followed from a folder, and leads to the place next to it. -/
theorem enter_eq_ok {name : String} (h : tree.enter path name = .ok place) :
    tree.entry? path = some .folder ∧ place = next path name := by
  unfold enter at h
  split at h
  next hfolder =>
    cases h
    exact ⟨hfolder, rfl⟩
  next => cases h
  next => cases h

/-- Following names, a step at a time: the first is followed from a folder, and the others from
where it leads. -/
theorem follow_cons_eq_ok {name : String} {names : List String}
    (h : tree.follow path (name :: names) = .ok place) :
    tree.entry? path = some .folder ∧ tree.follow (next path name) names = .ok place := by
  rw [follow] at h
  split at h
  next henter =>
    obtain ⟨hfolder, rfl⟩ := enter_eq_ok henter
    exact ⟨hfolder, h⟩
  next => cases h

/-- Names that can be followed lead where they say. The tree has no say in it but to refuse. -/
theorem follow_eq_foldl {names : List String} (h : tree.follow path names = .ok place) :
    place = names.foldl next path := by
  induction names generalizing path with
  | nil =>
    cases h
    rfl
  | cons name names ih => exact ih (follow_cons_eq_ok h).2

theorem follow_of_locate {text : String} (h : tree.locate text = .ok place) :
    tree.follow (tree.startOf text) (namesOf text) = .ok place := by
  unfold locate at h
  split at h
  next => cases h
  next => exact h

/-- **A text means one place**, whatever stands there, for as long as the working folder is the
same. -/
theorem locate_eq_placeOf {text : String} (h : tree.locate text = .ok place) :
    place = tree.placeOf text :=
  follow_eq_foldl (follow_of_locate h)

theorem placeOf_eq (h : after.working = before.working) (text : String) :
    after.placeOf text = before.placeOf text := by
  rw [placeOf, placeOf, startOf, startOf, h]

/-- Something stands at a text if the text means its place, and what stands there is what the place
has. -/
theorem at?_eq_ok {text : String} {entry : Entry} :
    tree.at? text = .ok (place, entry) ↔
      tree.locate text = .ok place ∧ tree.entry? place = some entry := by
  unfold at?
  constructor
  · intro h
    split at h
    next => cases h
    next place' hlocate =>
      split at h
      next hentry =>
        cases h
        exact ⟨hlocate, hentry⟩
      next => cases h
  · rintro ⟨hlocate, hentry⟩
    rw [hlocate]
    simp only [hentry]

theorem exists_eq_ok {ε α : Type} {x : Except ε α} (h : x.isOk = true) : ∃ a, x = .ok a := by
  cases x with
  | ok a => exact ⟨a, rfl⟩
  | error failure => cases h

theorem ne_nil_of_file {file : File} (h : tree.entry? path = some (.file file)) : path ≠ [] := by
  rintro rfl
  cases h

/-- What stands at a text stands there still if all folders do. -/
theorem KeepsFolders.at?_eq_ok (h : KeepsFolders before after) {text : String}
    {entry entry' : Entry}
    (hat : before.at? text = .ok (place, entry)) (hentry : after.entry? place = some entry') :
    after.at? text = .ok (place, entry') :=
  FileTree.at?_eq_ok.mpr ⟨h.locate_eq_ok (FileTree.at?_eq_ok.mp hat).1, hentry⟩

/-! ## Removing -/

/-- **Removing a place** takes away what is at it and below it, and the root never. All else stands
as it stood. -/
theorem entry?_remove (tree : FileTree) (place : Path) {path : Path} (hne : path ≠ []) :
    entry? (tree.remove place) path = if place <+: path then none else tree.entry? path := by
  unfold entry?
  rw [if_neg hne, if_neg hne, remove, List.find?_filter]
  split
  next hbelow =>
    rw [Option.map_eq_none_iff, List.find?_eq_none]
    intro standing _ hstanding
    obtain ⟨hkept, hsame⟩ := of_decide_eq_true hstanding
    rw [eq_of_beq hsame, List.isPrefixOf_iff_prefix.mpr hbelow] at hkept
    cases hkept
  next habove =>
    have hkept : place.isPrefixOf path = false := by
      rw [Bool.eq_false_iff, ne_eq, List.isPrefixOf_iff_prefix]
      exact habove
    congr 2
    funext standing
    by_cases hstanding : standing.1 = path
    · simp [hstanding, hkept]
    · simp [hstanding]

/-- A folder is removed unless its path ends in dots, for a path that ends in dots does not name
what it leads to. -/
theorem removeTree_of_at? {text : String} (hat : tree.at? text = .ok (place, .folder))
    (hdot : (namesOf text).getLast? ≠ some ".") (hdots : (namesOf text).getLast? ≠ some "..") :
    tree.removeTree text = (.ok (), tree.remove place) := by
  rw [removeTree, hat]
  split
  next h => cases h
  next h => cases h
  next h =>
    cases h
    split
    next h => exact absurd h hdot
    next h => exact absurd h hdots
    next => rfl

/-- A folder that has been removed was there, and its place and what was below it are gone. -/
theorem removeTree_eq_ok {text : String} (h : tree.removeTree text = (.ok (), after)) :
    tree.at? text = .ok (tree.placeOf text, .folder) ∧ after = tree.remove (tree.placeOf text) := by
  unfold removeTree at h
  split at h
  next => cases h
  next => cases h
  next place hat =>
    have hplace := locate_eq_placeOf (at?_eq_ok.mp hat).1
    rw [hat, ← hplace]
    split at h
    next => cases h
    next => cases h
    next =>
      cases h
      exact ⟨rfl, rfl⟩

/-! ## Making folders -/

/-- **Folders have been added, and nothing else.** Files in particular are those that there were. -/
structure AddsFolders (before after : FileTree) : Prop where
  working_eq : after.working = before.working
  entry : ∀ path entry, before.entry? path = some entry → after.entry? path = some entry
  file : ∀ path file, after.entry? path = some (.file file) → before.entry? path = some (.file file)

theorem AddsFolders.refl (tree : FileTree) : AddsFolders tree tree :=
  ⟨rfl, fun _ _ h => h, fun _ _ h => h⟩

theorem AddsFolders.trans {first second third : FileTree} (h : AddsFolders first second)
    (h' : AddsFolders second third) : AddsFolders first third where
  working_eq := h'.working_eq.trans h.working_eq
  entry path entry hentry := h'.entry path entry (h.entry path entry hentry)
  file path file hfile := h.file path file (h'.file path file hfile)

theorem AddsFolders.keepsFolders (h : AddsFolders before after) : KeepsFolders before after :=
  ⟨h.working_eq, fun path hpath => h.entry path .folder hpath⟩

/-- A folder that is put where nothing was is added. -/
theorem addsFolders_put (h : tree.entry? path = none) :
    AddsFolders tree (tree.put path .folder) where
  working_eq := rfl
  entry other entry hother := by
    rw [entry?_put_of_ne]
    · exact hother
    · rintro rfl
      rw [h] at hother
      cases hother
  file other file hother := by
    by_cases hsame : other = path
    · subst hsame
      rw [entry?_put_self (ne_nil_of_file hother)] at hother
      cases hother
    · rwa [entry?_put_of_ne hsame] at hother

/-- Ensuring a folder adds it or nothing, and leaves all other places as they are. -/
theorem ensure_frame (h : tree.ensure path = (.ok (), after)) :
    AddsFolders tree after ∧ ∀ other, other ≠ path → after.entry? other = tree.entry? other := by
  unfold ensure at h
  split at h
  next =>
    cases h
    exact ⟨AddsFolders.refl tree, fun _ _ => rfl⟩
  next => cases h
  next hnone =>
    cases h
    exact ⟨addsFolders_put hnone, fun _ hne => entry?_put_of_ne hne⟩

/-- A folder can be ensured where there is one or nothing. Only a file is in the way. -/
theorem ensure_succeeds (h : tree.entry? path = some .folder ∨ tree.entry? path = none) :
    ∃ after, tree.ensure path = (.ok (), after) := by
  rcases h with hfolder | hnone
  · exact ⟨tree, by rw [ensure, hfolder]⟩
  · exact ⟨tree.put path .folder, by rw [ensure, hnone]⟩

/-- Making folders along names adds folders and nothing else, as each step does. -/
theorem addsFolders_of_makeFrom {names : List String}
    (h : tree.makeFrom path names = (.ok (), after)) :
    AddsFolders tree after := by
  induction names generalizing tree path with
  | nil => exact (ensure_frame h).1
  | cons name names ih =>
    rw [makeFrom] at h
    split at h
    next hensure => exact (ensure_frame hensure).1.trans (ih h)
    next => cases h

/-- **Where a whole path led to a folder before, making it changes nothing but what was a folder
then.** The induction is on the names: each is followed in the old tree and made in the new one at
the same place. -/
theorem entry?_of_makeFrom {names : List String} (hfollow : old.follow path names = .ok place)
    (hplace : old.entry? place = some .folder) (h : tree.makeFrom path names = (.ok (), after))
    {other : Path} (hother : old.entry? other ≠ some .folder) :
    after.entry? other = tree.entry? other := by
  induction names generalizing tree path with
  | nil =>
    refine (ensure_frame h).2 other ?_
    rintro rfl
    exact hother (Except.ok.inj hfollow ▸ hplace)
  | cons name names ih =>
    obtain ⟨hfolder, hfollow⟩ := follow_cons_eq_ok hfollow
    rw [makeFrom] at h
    split at h
    next middle hensure =>
      have hne : other ≠ path := by
        rintro rfl
        exact hother hfolder
      exact (ih hfollow h).trans ((ensure_frame hensure).2 other hne)
    next => cases h

/-- **Folders can be made along a path that led to a folder before**, if nothing but folders stands
now where folders stood then. -/
theorem makeFrom_succeeds {names : List String} (hfollow : old.follow path names = .ok place)
    (hplace : old.entry? place = some .folder)
    (hstanding : ∀ other, old.entry? other = some .folder →
      tree.entry? other = some .folder ∨ tree.entry? other = none) :
    ∃ after, tree.makeFrom path names = (.ok (), after) := by
  induction names generalizing tree path with
  | nil =>
    obtain rfl : place = path := (Except.ok.inj hfollow).symm
    exact ensure_succeeds (hstanding place hplace)
  | cons name names ih =>
    obtain ⟨hfolder, hfollow⟩ := follow_cons_eq_ok hfollow
    obtain ⟨middle, hensure⟩ := ensure_succeeds (hstanding path hfolder)
    rw [makeFrom, hensure]
    refine ih hfollow fun other hother => ?_
    by_cases hsame : other = path
    · rw [hsame]
      exact Or.inl (ensure_spec hensure).1
    · rw [(ensure_frame hensure).2 other hsame]
      exact hstanding other hother

theorem makeFolders_eq_ok {text : String} (h : tree.makeFolders text = (.ok (), after)) :
    tree.makeFrom (tree.startOf text) (namesOf text) = (.ok (), after) := by
  unfold makeFolders at h
  split at h
  next => cases h
  next => exact h

/-! ## Emptying a folder -/

section Emptying

variable {reads : Reading} {cleared made : FileTree}

/-- A folder that was there has been removed, and where there was none nothing has been. -/
theorem clearFolder_eq_ok
    (h : (clearFolder (diskReading reads) folder).run tree = (.ok (), cleared)) :
    tree.at? folder = .ok (tree.placeOf folder, .folder) ∧
    cleared = tree.remove (tree.placeOf folder) ∨
      tree.has folder = false ∧ cleared = tree := by
  rw [run_clearFolder] at h
  split at h
  · exact Or.inl (removeTree_eq_ok (run_onFiles_eq_ok_iff.mp h))
  next habsent =>
    cases h
    exact Or.inr ⟨Bool.eq_false_iff.mpr habsent, rfl⟩

theorem working_of_clearFolder
    (h : (clearFolder (diskReading reads) folder).run tree = (.ok (), cleared)) :
    cleared.working = tree.working := by
  rcases clearFolder_eq_ok h with ⟨-, rfl⟩ | ⟨-, rfl⟩
  · rfl
  · rfl

/-- **Clearing a folder and making it again puts nothing in the place of a file**: the file is still
there, or nothing is. Making could only put a folder there, and it makes those folders again that
there were, none of which is in the place of a file. -/
theorem entry?_of_cleared
    (hclear : (clearFolder (diskReading reads) folder).run tree = (.ok (), cleared))
    (hmake : cleared.makeFolders folder = (.ok (), made)) {file : File}
    (hfile : tree.entry? place = some (.file file)) :
    made.entry? place = some (.file file) ∨ made.entry? place = none := by
  have hmade := makeFolders_eq_ok hmake
  have hkept : cleared.entry? place = some (.file file) → made.entry? place = some (.file file) :=
    (addsFolders_of_makeFrom hmade).entry place (.file file)
  have hstart : cleared.startOf folder = tree.startOf folder := by
    rw [startOf, startOf, working_of_clearFolder hclear]
  -- Where there was no folder, nothing has been removed, and making folders keeps every file.
  rcases clearFolder_eq_ok hclear with ⟨hat, rfl⟩ | ⟨-, rfl⟩
  · obtain ⟨hlocate, hfolder⟩ := at?_eq_ok.mp hat
    rw [hstart] at hmade
    have hnofolder : tree.entry? place ≠ some .folder := by
      rw [hfile]
      intro h
      cases h
    have hsame := entry?_of_makeFrom (follow_of_locate hlocate) hfolder hmade hnofolder
    rw [entry?_remove tree _ (ne_nil_of_file hfile)] at hsame
    split at hsame
    · exact Or.inr hsame
    · exact Or.inl (hsame.trans hfile)
  · exact Or.inl (hkept hfile)

/-- What has been cleared away is gone, files and all, for making folders adds no file. -/
theorem not_file_of_cleared
    (hclear : (clearFolder (diskReading reads) folder).run tree = (.ok (), cleared))
    (hmake : cleared.makeFolders folder = (.ok (), made))
    (hhas : tree.has folder = true) {file : File}
    (hbelow : tree.placeOf folder <+: place) : made.entry? place ≠ some (.file file) := by
  intro hfile
  have hold := (addsFolders_of_makeFrom (makeFolders_eq_ok hmake)).file place file hfile
  rcases clearFolder_eq_ok hclear with ⟨-, rfl⟩ | ⟨habsent, -⟩
  · rw [entry?_remove tree _ (ne_nil_of_file hold), if_pos hbelow] at hold
    cases hold
  · rw [hhas] at habsent
    cases habsent

/-- **A folder has been emptied.** It can be entered, a file that is not its catalogue is the file
that it was or is gone, and if there was a folder before, it has no file but its catalogue. -/
structure Emptied (before after : FileTree) (folder : String) : Prop where
  working_eq : after.working = before.working
  enterable : Enterable after folder (before.placeOf folder)
  survives : ∀ place file, before.entry? place = some (.file file) →
    place ≠ before.cataloguePlace folder →
    after.entry? place = some (.file file) ∨ after.entry? place = none
  only_catalogue : before.has folder = true → ∀ place file, before.placeOf folder <+: place →
    after.entry? place = some (.file file) → place = before.cataloguePlace folder

/-- **Emptying a folder has emptied it**: the step that clears, makes and writes has the effect that
is said of it, and the catalogue is the one file that it adds. -/
theorem emptied_of_emptyIndex
    (h : (emptyIndex (diskReading reads) folder).run before = (.ok (), after)) :
    Emptied before after folder := by
  obtain ⟨⟨⟩, cleared, hclear, h⟩ := run_bind_eq_ok h
  obtain ⟨⟨⟩, made, hmake, h⟩ := run_bind_eq_ok h
  obtain ⟨⟨⟩, required, hrequire, hsave⟩ := run_bind_eq_ok h
  rw [run_requireNoIndex] at hrequire
  split at hrequire
  next => cases hrequire
  next =>
    cases hrequire
    rw [run_onFiles_eq_ok_iff] at hmake hsave
    have hworking : made.working = before.working :=
      (addsFolders_of_makeFrom (makeFolders_eq_ok hmake)).working_eq.trans
        (working_of_clearFolder hclear)
    obtain ⟨place, henterable⟩ := enterable_of_makeFolders hmake
    have hplace : place = before.placeOf folder := by
      rw [locate_eq_placeOf henterable.1, placeOf_eq hworking]
    subst hplace
    obtain ⟨rfl, hkeeps⟩ := write_catalogue_eq_ok henterable hsave
    refine ⟨hworking, henterable.of_keepsFolders hkeeps, ?_, ?_⟩
    · intro place file hfile hne
      rw [cataloguePlace] at hne
      rw [entry?_put_of_ne hne]
      exact entry?_of_cleared hclear hmake hfile
    · intro hhas place file hbelow hfile
      by_cases hcatalogue : place = before.placeOf folder ++ [catalogueName]
      · exact hcatalogue
      · rw [entry?_put_of_ne hcatalogue] at hfile
        exact absurd hfile (not_file_of_cleared hclear hmake hhas hbelow)

/-- **A file that can still be found after a folder has been emptied is the file that it was.** Its
text means the place that it meant, and nothing has been put there. -/
theorem Emptied.at?_eq_ok (h : Emptied before after folder) {text : String} {file : File}
    (hat : before.at? text = .ok (place, .file file))
    (hplace : place ≠ before.cataloguePlace folder)
    (hhas : after.has text = true) : after.at? text = .ok (place, .file file) := by
  obtain ⟨hlocate, hfile⟩ := FileTree.at?_eq_ok.mp hat
  obtain ⟨⟨place', entry⟩, hat'⟩ := exists_eq_ok hhas
  obtain ⟨hlocate', hentry⟩ := FileTree.at?_eq_ok.mp hat'
  have hsame : place' = place := by
    rw [locate_eq_placeOf hlocate', locate_eq_placeOf hlocate, placeOf_eq h.working_eq]
  subst hsame
  rcases h.survives place' file hfile hplace with hkept | hgone
  · exact FileTree.at?_eq_ok.mpr ⟨hlocate', hkept⟩
  · rw [hgone] at hentry
    cases hentry

end Emptying

end Gazetteer.Storage.FileTree

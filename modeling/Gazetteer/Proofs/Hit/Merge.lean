import Gazetteer.Hit.Merge
import Gazetteer.Proofs.KeyedMerge

/-!
# What merging keeps

Two readings of the merged list. In general: **its identities are those of both lists, each once**
(`nodup_identities_merge`, `mem_identities_merge`), because absorbing a hit only ever adds its
identity at the end or leaves the identities as they are.

And where no hit is better than one before it, nothing is ever replaced and nothing moves: the
merged list is both lists in a row, without the hits whose identity has appeared before
(`merge_eq_unseen`).
-/

namespace Gazetteer.Hit

/-- The identities of hits, in the order of the hits. -/
abbrev identities (hits : List Hit) : List Identity := hits.map identity

/-- **Hits are merged by their identities**, the greater score beating the smaller one. -/
def merging : Merging Hit Identity where
  key := identity
  beats new seen := Score.exceeds new.score seen.score
  before := ranksBefore

/-- Absorbing a hit is absorbing an entry of the merge by identities. What is proved of merges by
any key is carried to hits by this equation and by the next. -/
theorem absorb_eq_merging (hit : Hit) (kept : List Hit) :
    absorb hit kept = merging.absorb hit kept := by
  induction kept with
  | nil => rfl
  | cons seen rest ih =>
    rw [absorb, ih]
    rfl

/-- **The merge that runs is the merge by identities**, which is absorbed hit by hit and sorted by
the same order. -/
theorem merge_eq_merging (structured suggested : List Hit) :
    merge structured suggested = merging.merge structured suggested := by
  rw [merge, distinct]
  simp only [absorb_eq_merging]
  rfl

/-! ## Identities -/

/-- Absorbing a hit leaves the identities as they are, or adds its own at the end. Where a hit takes
the place of another they have one identity, so a replacement is not seen here. -/
theorem identities_absorb (hit : Hit) (kept : List Hit) :
    identities (absorb hit kept) =
      if hit.identity ∈ identities kept then identities kept
      else identities kept ++ [hit.identity] := by
  rw [absorb_eq_merging]
  exact Merging.map_key_absorb (m := merging) hit kept

/-- Absorbing a hit does not repeat an identity: its own is added only where it is new. -/
theorem nodup_identities_absorb (hit : Hit) {kept : List Hit} (h : (identities kept).Nodup) :
    (identities (absorb hit kept)).Nodup := by
  rw [absorb_eq_merging]
  exact Merging.nodup_absorb (m := merging) hit h

/-- The identities after a hit are those before it and its own. Together with the last lemma this is
the step of the induction over all hits. -/
theorem mem_identities_absorb {hit : Hit} {kept : List Hit} {i : Identity} :
    i ∈ identities (absorb hit kept) ↔ i ∈ identities kept ∨ i = hit.identity := by
  rw [identities_absorb]
  split
  next hold => exact ⟨Or.inl, fun h => h.elim (fun hi => hi) fun he => he ▸ hold⟩
  · rw [List.mem_append, List.mem_singleton]

/-- Absorbing one hit after another keeps identities distinct and loses none. The induction is on
the hits that are still to come, with any list kept so far. -/
theorem identities_foldl_absorb (hits : List Hit) {kept : List Hit}
    (h : (identities kept).Nodup) :
    (identities (hits.foldl (fun kept hit => absorb hit kept) kept)).Nodup ∧
      ∀ i, i ∈ identities (hits.foldl (fun kept hit => absorb hit kept) kept) ↔
        i ∈ identities kept ∨ i ∈ identities hits := by
  induction hits generalizing kept with
  | nil => exact ⟨h, fun i => by simp⟩
  | cons hit rest ih =>
    obtain ⟨hnodup, hmem⟩ := ih (nodup_identities_absorb hit h)
    refine ⟨hnodup, fun i => ?_⟩
    rw [List.foldl_cons, hmem, mem_identities_absorb]
    simp only [identities, List.map_cons, List.mem_cons]
    exact or_assoc

/-- One hit is kept for each identity, and none is left out. -/
theorem identities_distinct (hits : List Hit) :
    (identities (distinct hits)).Nodup ∧
      ∀ i, i ∈ identities (distinct hits) ↔ i ∈ identities hits := by
  have h : (identities (distinct hits)).Nodup ∧
      ∀ i, i ∈ identities (distinct hits) ↔ i ∈ identities [] ∨ i ∈ identities hits :=
    identities_foldl_absorb hits List.nodup_nil
  exact ⟨h.1, fun i => (h.2 i).trans (by simp)⟩

/-- The last step of a merge only reorders what has been kept, so that what is said of identities
before it holds after it. -/
theorem merge_perm (structured suggested : List Hit) :
    (merge structured suggested).Perm (distinct (structured ++ suggested)) :=
  List.mergeSort_perm _ _

/-- **Each identity appears once** in the merged list, however often it appears in the two lists. -/
theorem nodup_identities_merge (structured suggested : List Hit) :
    (identities (merge structured suggested)).Nodup :=
  ((merge_perm structured suggested).map identity).nodup_iff.mpr (identities_distinct _).1

/-- **The merged list has the identities of both lists**, and no others. -/
theorem mem_identities_merge {structured suggested : List Hit} {i : Identity} :
    i ∈ identities (merge structured suggested) ↔
      i ∈ identities structured ∨ i ∈ identities suggested := by
  have hmem := (identities_distinct (structured ++ suggested)).2 i
  rw [identities, ((merge_perm structured suggested).map identity).mem_iff]
  simpa [identities] using hmem

/-! ## Hits in a row -/

/-- The hits whose identity neither is among those seen nor appears before them. This is what a
merge leaves where it never replaces a hit. -/
def unseen : List Identity → List Hit → List Hit
  | _, [] => []
  | seen, hit :: rest =>
    if hit.identity ∈ seen then unseen seen rest
    else hit :: unseen (seen ++ [hit.identity]) rest

theorem unseen_sublist (seen : List Identity) (hits : List Hit) :
    (unseen seen hits).Sublist hits := by
  induction hits generalizing seen with
  | nil => exact List.Sublist.slnil
  | cons hit rest ih =>
    rw [unseen]
    split
    · exact (ih _).cons _
    · exact (ih _).cons_cons _

theorem not_mem_of_mem_unseen {seen : List Identity} {hits : List Hit} {hit : Hit}
    (h : hit ∈ unseen seen hits) : hit.identity ∉ seen := by
  induction hits generalizing seen with
  | nil => cases h
  | cons first rest ih =>
    rw [unseen] at h
    split at h
    · exact ih h
    next hnew =>
      rcases List.mem_cons.mp h with rfl | h
      · exact hnew
      · exact fun hold => ih h (List.mem_append_left _ hold)

/-- What is unseen in two lists in a row: that of the first, then what the first leaves of the
second. -/
theorem unseen_append (seen : List Identity) (first second : List Hit) :
    unseen seen (first ++ second) =
      unseen seen first ++ unseen (seen ++ identities (unseen seen first)) second := by
  induction first generalizing seen with
  | nil => simp [unseen]
  | cons hit rest ih =>
    rw [List.cons_append, unseen, unseen]
    split
    · exact ih seen
    · rw [ih, List.cons_append]
      simp [identities]

/-- Of the identities seen it only matters which they are, and neither their order nor how often
each is listed. -/
theorem unseen_congr {seen seen' : List Identity} (h : ∀ i, i ∈ seen ↔ i ∈ seen')
    (hits : List Hit) :
    unseen seen hits = unseen seen' hits := by
  induction hits generalizing seen seen' with
  | nil => rfl
  | cons hit rest ih =>
    have hnext : ∀ i, i ∈ seen ++ [hit.identity] ↔ i ∈ seen' ++ [hit.identity] := fun i => by
      rw [List.mem_append, List.mem_append, h i]
    rw [unseen, unseen, ih h, ih hnext]
    simp only [h hit.identity]

/-- Leaving out what has been seen loses no identity: each is among those seen or has a hit that is
left. -/
theorem mem_identities_unseen (seen : List Identity) (hits : List Hit) (i : Identity) :
    i ∈ seen ∨ i ∈ identities (unseen seen hits) ↔ i ∈ seen ∨ i ∈ identities hits := by
  induction hits generalizing seen with
  | nil => rfl
  | cons hit rest ih =>
    rw [unseen]
    split
    next hold =>
      rw [ih]
      simp only [identities, List.map_cons, List.mem_cons]
      grind
    next hnew =>
      have hrest := ih (seen ++ [hit.identity])
      simp only [List.mem_append, identities, List.map_cons, List.mem_cons, List.not_mem_nil,
        or_false] at hrest ⊢
      grind

/-- **Of two lists in a row the second adds what the first has not shown.** All identities of the
first are seen then, whether it repeats some of them or not. -/
theorem unseen_append_of_nil (first second : List Hit) :
    unseen [] (first ++ second) = unseen [] first ++ unseen (identities first) second := by
  rw [unseen_append]
  congr 1
  exact unseen_congr (fun i => by simpa using mem_identities_unseen [] first i) second

/-- Where no identity appears twice, only what has been seen is left out, and so what is unseen is a
filter of the hits. -/
theorem unseen_of_nodup (seen : List Identity) {hits : List Hit} (h : (identities hits).Nodup) :
    unseen seen hits = hits.filter fun hit => hit.identity ∉ seen := by
  induction hits generalizing seen with
  | nil => rfl
  | cons hit rest ih =>
    obtain ⟨hfirst, hrest⟩ := List.nodup_cons.mp h
    rw [unseen]
    by_cases hold : hit.identity ∈ seen
    · simp [hold, ih seen hrest]
    · rw [if_neg hold, ih _ hrest, List.filter_cons_of_pos (by simpa using hold)]
      congr 1
      refine List.filter_congr fun other hother => ?_
      have hne : other.identity ≠ hit.identity := fun heq =>
        hfirst (heq ▸ List.mem_map_of_mem hother)
      simp [hne]

/-- No hit is better than one before it, by its score or by the order in which hits are ranked. -/
def Descending (hits : List Hit) : Prop :=
  hits.Pairwise fun a b => Score.exceeds b.score a.score = false ∧ ranksBefore a b = true

/-- A hit that is better than none of those kept replaces none: it is added if its identity is new,
and it is dropped if not. -/
theorem absorb_of_not_exceeds {hit : Hit} {kept : List Hit}
    (h : ∀ seen ∈ kept, Score.exceeds hit.score seen.score = false) :
    absorb hit kept = if hit.identity ∈ identities kept then kept else kept ++ [hit] := by
  induction kept with
  | nil => rfl
  | cons seen rest ih =>
    obtain ⟨hseen, hrest⟩ := List.forall_mem_cons.mp h
    by_cases hsame : seen.identity = hit.identity
    · simp [absorb, hsame, hseen, identities]
    · have hother : ¬ hit.identity = seen.identity := fun h => hsame h.symm
      simp only [absorb, if_neg hsame, ih hrest, identities, List.map_cons, List.mem_cons, hother,
        false_or]
      split <;> rfl

/-- Absorbing hits in descending order one after another appends those that are unseen. The
induction is on the hits to come, and the hits kept are before them in the order throughout. -/
theorem foldl_absorb_eq_unseen (hits kept : List Hit) (h : Descending (kept ++ hits)) :
    hits.foldl (fun kept hit => absorb hit kept) kept = kept ++ unseen (identities kept) hits := by
  induction hits generalizing kept with
  | nil => simp [unseen]
  | cons hit rest ih =>
    have hbetter : ∀ seen ∈ kept, Score.exceeds hit.score seen.score = false := fun seen hseen =>
      ((List.pairwise_append.mp h).2.2 seen hseen hit List.mem_cons_self).1
    have habsorb := absorb_of_not_exceeds hbetter
    rw [List.foldl_cons, habsorb, unseen]
    by_cases hold : hit.identity ∈ identities kept
    · rw [if_pos hold, if_pos hold]
      exact ih kept (h.sublist ((List.sublist_cons_self _ _).append_left kept))
    · rw [if_neg hold, if_neg hold, ih (kept ++ [hit]) (by simpa [Descending] using h)]
      simp [identities]

/-- **Where no hit is better than one before it, merging is concatenation** without repeated
identities. This is so of the two lists of a search, whose hits all have one score. -/
theorem merge_eq_unseen {structured suggested : List Hit}
    (h : Descending (structured ++ suggested)) :
    merge structured suggested = unseen [] (structured ++ suggested) := by
  have hdistinct : distinct (structured ++ suggested) = unseen [] (structured ++ suggested) := by
    rw [distinct, foldl_absorb_eq_unseen _ [] (by simpa using h)]
    simp [identities]
  rw [merge, hdistinct]
  refine List.mergeSort_of_pairwise ?_
  exact (h.sublist (unseen_sublist _ _)).imp fun hab => hab.2

end Gazetteer.Hit

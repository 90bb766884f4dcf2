import Gazetteer.Proofs.Hit.Merge
import Gazetteer.Proofs.Score.Order
import Gazetteer.Proofs.Selection

/-!
# The union that merging computes

What merging makes of two lists can be said without going through them hit by hit: **for each
identity, in the order of first appearance, the earliest hit that no other hit of the identity
exceeds** (`union`), and these in a stable order by score (`merge_sorts_union`).

The loop changes the list as it goes over the hits. Its invariant is `Kept`: after any beginning of
the hits, the list has the identities of that beginning in the order of first appearance, and every
hit in it is the best of its identity so far. One more hit keeps that (`Kept.absorb`), because a hit
that exceeds the best of its identity exceeds all others of it. There the scores have to be numbers.
-/

namespace Gazetteer

namespace Score

/-- What exceeds a number is not exceeded by it. Exceeding is a strict order of numbers, by their
ranks. -/
theorem exceeds_asymm {x y : Score} (h : exceeds x y = true) : exceeds y x = false := by
  simp only [exceeds, Bool.and_eq_true, decide_eq_true_eq] at h
  have hnot : ¬ numericRank x < numericRank y := by omega
  rw [exceeds, decide_eq_false hnot, Bool.and_false]

/-- **A number that exceeds an unexceeded one exceeds all that this one was compared with.** Without
numbers this fails: what is no number neither exceeds nor is exceeded, and says nothing about a
third score. -/
theorem exceeds_of_exceeds {x y z : Score} (hz : unordered z = false) (hxy : exceeds x y = true)
    (hzy : exceeds z y = false) : exceeds x z = true := by
  simp only [exceeds, Bool.and_eq_true, Bool.not_eq_true', decide_eq_true_eq] at hxy
  obtain ⟨⟨hx, hy⟩, hrank⟩ := hxy
  rw [exceeds_of_ordered hz hy, decide_eq_false_iff_not] at hzy
  rw [exceeds_of_ordered hx hz, decide_eq_true_eq]
  omega

end Score

namespace Hit

/-- No hit of the same identity exceeds this one. Several hits of one identity may be unexceeded, if
their scores are equal. -/
def Unexceeded (hits : List Hit) (hit : Hit) : Prop :=
  ∀ other ∈ hits, other.identity = hit.identity → Score.exceeds other.score hit.score = false

instance (hits : List Hit) (hit : Hit) : Decidable (Unexceeded hits hit) :=
  inferInstanceAs (Decidable (∀ other ∈ hits, _))

/-- **The best hit of an identity**: the earliest that no other of the identity exceeds. -/
def best? (hits : List Hit) (i : Identity) : Option Hit :=
  hits.find? fun hit => hit.identity = i ∧ Unexceeded hits hit

/-- **The union of hits**: the best hit of each identity, in the order in which identities first
appear. It is said without the loop that merges them. -/
def union (hits : List Hit) : List Hit :=
  (identities hits).eraseDups.filterMap (best? hits)

/-- The scores of hits are numbers. -/
def Numbers (hits : List Hit) : Prop :=
  ∀ hit ∈ hits, Score.unordered hit.score = false

instance (hits : List Hit) : Decidable (Numbers hits) :=
  inferInstanceAs (Decidable (∀ hit ∈ hits, _))

/-! ## The best hit of an identity -/

/-- A hit is the best of its identity exactly if it is unexceeded and every hit of the identity
before it is exceeded by some other. -/
theorem best?_eq_some_iff {hits : List Hit} {i : Identity} {hit : Hit} :
    best? hits i = some hit ↔ (hit.identity = i ∧ Unexceeded hits hit) ∧
      ∃ before after, hits = before ++ hit :: after ∧
        ∀ other ∈ before, other.identity = i → ¬ Unexceeded hits other := by
  simp only [best?, List.find?_eq_some_iff_append, decide_eq_true_eq, Bool.not_eq_true',
    decide_eq_false_iff_not, not_and]

theorem mem_of_best? {hits : List Hit} {i : Identity} {hit : Hit} (h : best? hits i = some hit) :
    hit ∈ hits :=
  List.mem_of_find?_eq_some h

theorem Unexceeded.of_concat {hits : List Hit} {new hit : Hit}
    (h : Unexceeded (hits ++ [new]) hit) :
    Unexceeded hits hit :=
  fun other hother => h other (List.mem_append_left _ hother)

/-- **The best hit stays the best** when a hit follows that is of another identity or does not
exceed it. -/
theorem best?_concat_of_not_exceeds {hits : List Hit} {i : Identity} {hit new : Hit}
    (hbest : best? hits i = some hit)
    (hnew : new.identity = i → Score.exceeds new.score hit.score = false) :
    best? (hits ++ [new]) i = some hit := by
  obtain ⟨⟨hidentity, hunexceeded⟩, before, after, rfl, hbefore⟩ := best?_eq_some_iff.mp hbest
  refine best?_eq_some_iff.mpr ⟨⟨hidentity, fun other hother hsame => ?_⟩, before,
    after ++ [new], ?_, ?_⟩
  · rcases List.mem_append.mp hother with hold | hlast
    · exact hunexceeded other hold hsame
    · obtain rfl := List.mem_singleton.mp hlast
      exact hnew (hsame.trans hidentity)
  · rw [List.append_assoc, List.cons_append]
  · intro other hother hsame hunexceeded
    exact hbefore other hother hsame hunexceeded.of_concat

/-- **A hit that exceeds all of its identity** before it is the best: none of those is unexceeded
any more, and it is. -/
theorem best?_concat_of_exceeds {hits : List Hit} {new : Hit}
    (h : ∀ hit ∈ hits, hit.identity = new.identity → Score.exceeds new.score hit.score = true) :
    best? (hits ++ [new]) new.identity = some new := by
  refine best?_eq_some_iff.mpr ⟨⟨rfl, fun other hother hsame => ?_⟩, hits, [], rfl, ?_⟩
  · rcases List.mem_append.mp hother with hold | hlast
    · exact Score.exceeds_asymm (h other hold hsame)
    · obtain rfl := List.mem_singleton.mp hlast
      exact Score.exceeds_self _
  · intro other hother hsame hunexceeded
    have hexceeds := hunexceeded new (List.mem_append_right _ List.mem_cons_self) hsame.symm
    rw [h other hother hsame] at hexceeds
    nomatch hexceeds

/-! ## One pass over the hits -/

/-- What comes last is kept if it did not come before. -/
theorem eraseDups_concat (is : List Identity) (i : Identity) :
    (is ++ [i]).eraseDups = if i ∈ is then is.eraseDups else is.eraseDups ++ [i] := by
  rw [List.eraseDups_append, List.removeAll]
  split
  next hold =>
    rw [List.filter_cons_of_neg (by simpa using hold)]
    simp
  next hnew =>
    rw [List.filter_cons_of_pos (by simpa using hnew)]
    simp [List.eraseDups_cons]

/-- What is kept of the hits so far: each identity in order of first appearance, with its best hit.
This is the invariant of the loop, with the hits that it has gone over as a parameter. -/
structure Kept (hits kept : List Hit) : Prop where
  nodup : (identities kept).Nodup
  identities_eq : identities kept = (identities hits).eraseDups
  best : ∀ hit ∈ kept, best? hits hit.identity = some hit

/-- What absorbing a hit leaves: hits of other identities, and one of its own. The one of its own is
the hit itself where it is new or better, and the hit kept for that identity where it is not. -/
theorem mem_absorb {hit other : Hit} {kept : List Hit} (hnodup : (identities kept).Nodup)
    (h : other ∈ absorb hit kept) :
    (other ∈ kept ∧ other.identity ≠ hit.identity) ∨
      (other = hit ∧ hit.identity ∉ identities kept) ∨
      ∃ seen ∈ kept, seen.identity = hit.identity ∧
        other = if Score.exceeds hit.score seen.score then hit else seen := by
  induction kept with
  | nil =>
    exact Or.inr (Or.inl ⟨List.mem_singleton.mp h, List.not_mem_nil⟩)
  | cons seen rest ih =>
    obtain ⟨hfirst, hrest⟩ := List.nodup_cons.mp hnodup
    rw [absorb] at h
    split at h
    next hsame =>
      -- Identities are not repeated, so that this is the only one of the hit's identity.
      rcases List.mem_cons.mp h with hother | hother
      · exact Or.inr (Or.inr ⟨seen, List.mem_cons_self, hsame, hother⟩)
      · refine Or.inl ⟨List.mem_cons_of_mem _ hother, fun hidentity => hfirst ?_⟩
        rw [hsame, ← hidentity]
        exact List.mem_map_of_mem hother
    next hdifferent =>
      rcases List.mem_cons.mp h with rfl | hother
      · exact Or.inl ⟨List.mem_cons_self, hdifferent⟩
      · rcases ih hrest hother with ⟨hmem, hne⟩ | ⟨heq, hnew⟩ | ⟨found, hfound, hsame, heq⟩
        · exact Or.inl ⟨List.mem_cons_of_mem _ hmem, hne⟩
        · refine Or.inr (Or.inl ⟨heq, fun hmem => ?_⟩)
          rcases List.mem_cons.mp hmem with hhead | htail
          · exact hdifferent hhead.symm
          · exact hnew htail
        · exact Or.inr (Or.inr ⟨found, List.mem_cons_of_mem _ hfound, hsame, heq⟩)

namespace Kept

variable {hits kept : List Hit}

theorem mem_identities (h : Kept hits kept) (i : Identity) :
    i ∈ identities kept ↔ i ∈ identities hits := by
  rw [h.identities_eq, List.mem_eraseDups]

/-- **One hit more**: absorbing it keeps what is kept. A hit of another identity keeps its place and
stays the best of that identity; the one of the same identity is compared with the new hit, and the
better of them is the best of all so far. -/
theorem absorb (h : Kept hits kept) {hit : Hit} (hnumbers : Numbers (hits ++ [hit])) :
    Kept (hits ++ [hit]) (absorb hit kept) where
  nodup := nodup_identities_absorb hit h.nodup
  identities_eq := by
    have hmore : identities (hits ++ [hit]) = identities hits ++ [hit.identity] := List.map_append
    rw [identities_absorb, h.identities_eq, hmore, eraseDups_concat]
    simp only [List.mem_eraseDups]
  best other hother := by
    rcases mem_absorb h.nodup hother with ⟨hmem, hne⟩ | ⟨rfl, hnew⟩ | ⟨seen, hseen, hsame, rfl⟩
    · exact best?_concat_of_not_exceeds (h.best other hmem) fun hidentity =>
        absurd hidentity.symm hne
    · refine best?_concat_of_exceeds fun old hold hidentity => absurd ?_ hnew
      rw [h.mem_identities, ← hidentity]
      exact List.mem_map_of_mem hold
    · have hbest := h.best seen hseen
      cases hexceeds : Score.exceeds hit.score seen.score with
      | true =>
        rw [if_pos rfl]
        -- It exceeds the hit that no other of the identity exceeds, and so all of them.
        obtain ⟨⟨-, hunexceeded⟩, -⟩ := best?_eq_some_iff.mp hbest
        refine best?_concat_of_exceeds fun old hold hidentity => ?_
        exact Score.exceeds_of_exceeds (hnumbers old (List.mem_append_left _ hold)) hexceeds
          (hunexceeded old hold (hidentity.trans hsame.symm))
      | false =>
        rw [if_neg Bool.false_ne_true]
        exact best?_concat_of_not_exceeds hbest fun _ => hexceeds

/-- **All hits**: absorbing one after another keeps what is kept, by induction on the hits to
come. -/
theorem foldl_absorb {more : List Hit} (h : Kept hits kept) (hnumbers : Numbers (hits ++ more)) :
    Kept (hits ++ more) (more.foldl (fun kept hit => Hit.absorb hit kept) kept) := by
  induction more generalizing hits kept with
  | nil => rwa [List.append_nil]
  | cons hit more ih =>
    rw [← List.singleton_append, ← List.append_assoc] at hnumbers ⊢
    exact ih (h.absorb fun other hother => hnumbers other (List.mem_append_left _ hother)) hnumbers

/-- What is kept of hits is their union, since both list the same identities in the same order and
have the best hit of each. -/
theorem eq_union (h : Kept hits kept) : kept = union hits := by
  have hbest : ∀ more ⊆ kept, (identities more).filterMap (best? hits) = more := by
    intro more hmore
    induction more with
    | nil => rfl
    | cons hit more ih =>
      obtain ⟨hhit, hrest⟩ := List.cons_subset.mp hmore
      rw [identities, List.map_cons, List.filterMap_cons_some (h.best hit hhit), ih hrest]
  rw [union, ← h.identities_eq, hbest kept (List.Subset.refl _)]

end Kept

theorem kept_nil : Kept [] [] where
  nodup := List.nodup_nil
  identities_eq := rfl
  best _ h := absurd h List.not_mem_nil

/-- **The pass over hits with numbers for scores computes their union.** It begins with nothing, and
every hit keeps the invariant. -/
theorem kept_distinct {hits : List Hit} (h : Numbers hits) : Kept hits (distinct hits) :=
  kept_nil.foldl_absorb (by rwa [List.nil_append])

/-! ## The order of the merged list -/

/-- Hits rank by the places of their scores, the greatest first. Hits of one place rank before each
other, and a stable sort leaves them as they are. -/
theorem ranksBefore_iff {a b : Hit} :
    ranksBefore a b = true ↔ Score.totalRank b.score ≤ Score.totalRank a.score := by
  rw [ranksBefore, Score.compareTotal, bne_iff_ne]
  split
  next hlt => exact iff_of_true (by decide) (Int.le_of_lt hlt)
  · split
    next hgt => exact iff_of_false (fun h => h rfl) (Int.not_le.mpr hgt)
    next hnot => exact iff_of_true (by decide) (Int.not_lt.mp hnot)

theorem ranksBefore_trans (a b c : Hit) (hab : ranksBefore a b = true)
    (hbc : ranksBefore b c = true) :
    ranksBefore a c = true := by
  rw [ranksBefore_iff] at hab hbc ⊢
  exact Int.le_trans hbc hab

theorem ranksBefore_total (a b : Hit) : (ranksBefore a b || ranksBefore b a) = true := by
  rw [Bool.or_eq_true, ranksBefore_iff, ranksBefore_iff]
  exact Int.le_total _ _

/-- **Merging sorts the union.** If all scores are numbers, then the merged list is the stable sort
by score of the union of both lists, which has each identity once, in the order of first appearance.
So every merged hit is one of the hits given, the best of its identity; no identity is lost, none
appears twice; and among hits of equal score the identities stand as they first appeared, no matter
which of their hits it is.

Scores are sorted by their places, where the two zeros differ, and compared as numbers before that,
where they do not. What is no number has a place and compares with nothing, which is why it is
excluded. -/
theorem merge_sorts_union {structured suggested : List Hit}
    (hnumbers : Numbers (structured ++ suggested)) :
    (∀ hits, StableSort ranksBefore (union (structured ++ suggested)) hits ↔
      hits = merge structured suggested) ∧
    identities (union (structured ++ suggested)) =
      (identities (structured ++ suggested)).eraseDups ∧
    (∀ hit ∈ merge structured suggested,
      hit ∈ structured ++ suggested ∧ best? (structured ++ suggested) hit.identity = some hit) ∧
    (identities (merge structured suggested)).Nodup ∧
    (∀ i, i ∈ identities (merge structured suggested) ↔
      i ∈ identities structured ∨ i ∈ identities suggested) ∧
    ∀ a, (identities ((merge structured suggested).filter (ties ranksBefore a))).Sublist
      (identities (structured ++ suggested)).eraseDups := by
  have hkept := kept_distinct hnumbers
  have hsort := stableSort_mergeSort ranksBefore_trans ranksBefore_total
    (distinct (structured ++ suggested))
  rw [← hkept.eq_union]
  refine ⟨fun hits => stableSort_iff ranksBefore_trans ranksBefore_total, hkept.identities_eq,
    fun hit hhit => ?_, nodup_identities_merge _ _, fun i => mem_identities_merge, fun a => ?_⟩
  · have hbest := hkept.best hit ((merge_perm structured suggested).mem_iff.mp hhit)
    exact ⟨mem_of_best? hbest, hbest⟩
  · rw [← hkept.identities_eq, merge, hsort.filter_ties a]
    exact List.filter_sublist.map identity

/-- A completion that is better than the structured hit of its address, and one that is as good. -/
theorem merge_sorts_union_replaced :
    Numbers [suggestion (some "a") "1 a" 1, suggestion (some "b") "2 b" 2,
      suggestion (some "a") "1 a" 2, suggestion (some "b") "2 b" 2] ∧
    ∀ hits, StableSort ranksBefore
      (union [suggestion (some "a") "1 a" 1, suggestion (some "b") "2 b" 2,
        suggestion (some "a") "1 a" 2, suggestion (some "b") "2 b" 2]) hits ↔
      hits = merge [suggestion (some "a") "1 a" 1, suggestion (some "b") "2 b" 2]
        [suggestion (some "a") "1 a" 2, suggestion (some "b") "2 b" 2] := by
  have hnumbers : Numbers ([suggestion (some "a") "1 a" 1, suggestion (some "b") "2 b" 2] ++
      [suggestion (some "a") "1 a" 2, suggestion (some "b") "2 b" 2]) := by decide
  exact ⟨hnumbers, (merge_sorts_union hnumbers).1⟩

end Hit

end Gazetteer

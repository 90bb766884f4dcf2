import Gazetteer.Proofs.Index.Search
import Gazetteer.Proofs.Query.CommonScore

/-!
# The result of a structured search

Provided that every score is a number, the two cuts of a search are selections that can be told
without sorting: the window holds **the best by score**, earlier documents first among equals, and
the result holds **the first by rank**, in order, with what ties in the order of the index
(`selects_search`).
-/

namespace Gazetteer

open Index

namespace AddressIndex

variable {index : AddressIndex} {plan : Plan} {sort : SortSpec} {limit : Nat}

/-- Every finding's score is a number. -/
def Ordered (index : AddressIndex) (plan : Plan) : Prop :=
  ∀ f ∈ index.findings plan, Score.unordered f.score = false

/-- Every plan that a query leads to gives scores that are numbers, since the least that a clause
can be worth there is one. -/
theorem ordered_of_inexact (index : AddressIndex) (h : plan.Inexact) : index.Ordered plan := by
  intro f hf
  obtain ⟨d, -, -, hscore, -⟩ := mem_findings.mp hf
  rw [← hscore, worth_eq_commonScore _ h]
  exact (atLeastOne_commonScore _ h).ordered

/-- Whether a finding's score is at least another's, by rank. Among numbers this is the order by
score, and unlike that it is transitive everywhere. -/
def atLeast (a b : Finding) : Bool :=
  decide (Score.numericRank b.score ≤ Score.numericRank a.score)

/-- Where scores are numbers, one exceeds another exactly if the other is not at least it. -/
theorem exceeds_eq_not_atLeast (h : index.Ordered plan) {a b : Finding}
    (ha : a ∈ index.findings plan)
    (hb : b ∈ index.findings plan) : Score.exceeds a.score b.score = !atLeast b a := by
  rw [Score.exceeds_of_ordered (h a ha) (h b hb), atLeast, ← decide_not]
  exact decide_eq_decide.mpr Int.not_le.symm

/-- **The first sort**: by score, earlier documents first among equals. The sort compares scores as
they are, and is transitive only because all of them are numbers. -/
theorem pairwise_scoresAhead (h : index.Ordered plan) :
    ((index.findings plan).mergeSort Finding.scoresBefore).Pairwise Finding.ScoresAhead := by
  have hsort : (index.findings plan).mergeSort Finding.scoresBefore =
      (index.findings plan).mergeSort atLeast := by
    rw [← List.map_id ((index.findings plan).mergeSort Finding.scoresBefore),
      List.map_mergeSort (f := id) (s := atLeast), List.map_id]
    intro a ha b hb
    simp [Finding.scoresBefore, exceeds_eq_not_atLeast h hb ha]
  have hahead : ((index.findings plan).mergeSort atLeast).Pairwise
      (Ahead atLeast fun a b => a.place < b.place) := by
    refine pairwise_mergeSort_ahead ?_ ?_ pairwise_place_findings
    · simp only [atLeast, decide_eq_true_eq]
      omega
    · simp only [atLeast, Bool.or_eq_true, decide_eq_true_eq]
      omega
  rw [hsort]
  refine hahead.imp_of_mem fun {a b} ha hb hab => ?_
  have ha := List.mem_mergeSort.mp ha
  have hb := List.mem_mergeSort.mp hb
  rw [Finding.ScoresAhead, exceeds_eq_not_atLeast h ha hb, exceeds_eq_not_atLeast h hb ha]
  cases htied : atLeast b a with
  | false => exact Or.inl rfl
  | true => exact Or.inr ⟨by rw [hab.1]; rfl, hab.2 htied⟩

/-- The window holds the best findings by score, and of equal ones the earlier in the index. -/
theorem firstOf_candidates (h : index.Ordered plan) :
    FirstOf Finding.ScoresAhead (max limit index.sortWindow) (index.findings plan)
      (index.candidates plan limit) :=
  firstOf_take (List.mergeSort_perm _ _) nodup_findings (pairwise_scoresAhead h) _

/-- **The second sort**: by rank, in the order of the index where ranks tie. Ties by rank are ties
by score, and these the first sort has left in the order of the index. -/
theorem pairwise_ranked (h : index.Ordered plan) :
    (index.ranked plan sort limit).Pairwise (Finding.RanksAhead sort) := by
  have hcandidates : (index.candidates plan limit).Pairwise Finding.ScoresAhead :=
    (pairwise_scoresAhead h).sublist (List.take_sublist _ _)
  have hahead : (index.ranked plan sort limit).Pairwise
      (Ahead (Finding.ranksBefore sort) Finding.ScoresAhead) := by
    refine pairwise_mergeSort_ahead (fun a b c hab hbc => ?_) (fun a b => ?_) hcandidates
    · exact Std.TransCmp.isLE_trans hab hbc
    · exact isLE_total a.candidate b.candidate
  refine hahead.imp fun {a b} hab => ?_
  obtain ⟨hbefore, hties⟩ := hab
  rw [Finding.ranksBefore] at hbefore
  cases hcompare : compareCandidates sort a.candidate b.candidate with
  | lt => exact Or.inl hcompare
  | gt => rw [hcompare] at hbefore; cases hbefore
  | eq =>
    -- Candidates that rank alike have scores of one place, so that neither score is better, and
    -- they stand as they do in the window.
    refine Or.inr ⟨hcompare, ?_⟩
    have hback : Finding.ranksBefore sort b a = true := by
      rw [Finding.ranksBefore, @Std.OrientedCmp.eq_swap _ (compareCandidates sort) _, hcompare]
      rfl
    rcases hties hback with hexceeds | ⟨-, hplace⟩
    · have hnot :=
        Score.exceeds_eq_false_of_totalRank_eq (totalRank_eq_of_compareCandidates hcompare)
      exact absurd (hexceeds.symm.trans hnot) nofun
    · exact hplace

/-- The result holds the first candidates by rank, and of equal ones those that come first in the
window. -/
theorem firstOf_result (h : index.Ordered plan) :
    FirstOf (Finding.RanksAhead sort) limit (index.candidates plan limit)
      ((index.ranked plan sort limit).take limit) :=
  firstOf_take (List.mergeSort_perm _ _) (firstOf_candidates h).nodup (pairwise_ranked h) _

/-! ## Lists of addresses -/

/-- **What a structured search has to select** from a list of addresses: what it finds, a window of
that, and the result. -/
structure Selects (addresses : List Address) (sortWindow : Nat) (plan : Plan) (sort : SortSpec)
    (limit : Nat) (found window result : List Finding) : Prop where
  /-- Exactly the addresses that match the plan are found, at their places and scores. -/
  found_iff : ∀ f, f ∈ found ↔
    addresses[f.place]? = some f.address ∧ plan.Matches (Document.ofAddress f.address) ∧
      (Matcher.of (addresses.map Document.ofAddress) plan).score? (Document.ofAddress f.address) =
        some f.score
  /-- No place is found twice. -/
  nodup_places : (found.map Finding.place).Nodup
  /-- The window holds the best of what is found. -/
  window_firstOf : FirstOf Finding.ScoresAhead (max limit sortWindow) found window
  /-- The result holds the first of the window by rank. -/
  result_firstOf : FirstOf (Finding.RanksAhead sort) limit window result
  /-- The result is sorted, and what ties stands in the order of the addresses. -/
  result_sorted : result.Pairwise (Finding.RanksAhead sort)

/-- In the index of a list of addresses, what is found is told by the list: a place in it, the
address there, and its score. -/
theorem found_ofAddresses (addresses : List Address) (sortWindow : Nat) (f : Finding) :
    f ∈ (holding addresses sortWindow).findings plan ↔
      addresses[f.place]? = some f.address ∧ plan.Matches (Document.ofAddress f.address) ∧
        (Matcher.of (addresses.map Document.ofAddress) plan).score? (Document.ofAddress f.address) =
          some f.score := by
  rw [mem_findings, holding, withSortWindow, ofAddresses]
  simp only [List.getElem?_map, Option.map_eq_some_iff, score?_of_eq_some_iff]
  constructor
  · rintro ⟨_, ⟨a, hplace, rfl⟩, hmatches, hscore, haddress⟩
    rw [Document.address_ofAddress] at haddress
    subst haddress
    exact ⟨hplace, hmatches, hmatches, hscore⟩
  · rintro ⟨hplace, hmatches, -, hscore⟩
    exact ⟨_, ⟨_, hplace, rfl⟩, hmatches, hscore, Document.address_ofAddress _⟩

/-- **A search selects**: the window and the result that its sorts and cuts leave are the ones that
can be told without them. -/
theorem selects_search {addresses : List Address} {sortWindow : Nat}
    (h : (holding addresses sortWindow).Ordered plan) :
    Selects addresses sortWindow plan sort limit
      ((holding addresses sortWindow).findings plan)
      ((holding addresses sortWindow).candidates plan limit)
      (((holding addresses sortWindow).ranked plan sort limit).take limit) where
  found_iff := found_ofAddresses addresses sortWindow
  nodup_places := List.pairwise_map.mpr (pairwise_place_findings.imp Nat.ne_of_lt)
  window_firstOf := firstOf_candidates h
  result_firstOf := firstOf_result h
  result_sorted := (pairwise_ranked h).sublist (List.take_sublist _ _)

namespace Selects

variable {addresses : List Address} {sortWindow : Nat} {found window result : List Finding}

theorem found_of_mem_result (h : Selects addresses sortWindow plan sort limit found window result)
    {f : Finding} (hf : f ∈ result) : f ∈ found :=
  h.window_firstOf.subset f (h.result_firstOf.subset f hf)

/-- A place says all of a finding, so that findings may be counted by their places. -/
theorem eq_of_place_eq (h : Selects addresses sortWindow plan sort limit found window result)
    {f g : Finding} (hf : f ∈ found) (hg : g ∈ found) (hplace : f.place = g.place) : f = g := by
  obtain ⟨place, score, address⟩ := f
  obtain ⟨_, score', address'⟩ := g
  obtain rfl : place = _ := hplace
  obtain ⟨haddress, -, hscore⟩ := (h.found_iff _).mp hf
  obtain ⟨haddress', -, hscore'⟩ := (h.found_iff _).mp hg
  obtain rfl : address = address' := Option.some.inj (haddress.symm.trans haddress')
  obtain rfl : score = score' := Option.some.inj (hscore.symm.trans hscore')
  rfl

/-- A place is selected once. -/
theorem nodup_result_places (h : Selects addresses sortWindow plan sort limit found window result) :
    (result.map Finding.place).Nodup :=
  List.pairwise_map.mpr <| h.result_firstOf.nodup.imp_of_mem fun hf hg hne hplace =>
    hne (h.eq_of_place_eq (h.found_of_mem_result hf) (h.found_of_mem_result hg) hplace)

/-- **The result is at most as long as it may be, and as the list of addresses.** -/
theorem length_result_le (h : Selects addresses sortWindow plan sort limit found window result) :
    result.length ≤ min limit addresses.length := by
  have hplaces : result.map Finding.place ⊆ List.range addresses.length := by
    intro place hplace
    obtain ⟨f, hf, rfl⟩ := List.mem_map.mp hplace
    obtain ⟨haddress, -⟩ := (h.found_iff f).mp (h.found_of_mem_result hf)
    exact List.mem_range.mpr (List.getElem?_eq_some_iff.mp haddress).1
  have haddresses := h.nodup_result_places.length_le_of_subset hplaces
  rw [List.length_map, List.length_range] at haddresses
  refine Nat.le_min.mpr ⟨?_, haddresses⟩
  rw [h.result_firstOf.length_eq]
  exact Nat.min_le_left _ _

end Selects

/-- **Structured search is sound, complete and ordered.** Whatever is asked of an index of some
addresses, the answer comes at once and at every attempt; it is the list of hits of what is
selected. No address appears twice, no more than there are or were asked for, and every one of them
matches the plan.

The window and the result are both selections, the first of the best scores and the second of the
first by rank, so that nothing that is left out of either is ahead of what is in it (`Selects`).
That no attempt fails is a property of the search and not of its type: the collector refuses to keep
no candidates at all, and it is only asked where there is room for some (`trySearch_eq_ok`). -/
theorem backend_search_selects (addresses : List Address) (sortWindow : Nat) (plan : Plan)
    (sort : SortSpec) (limit : Nat) (h : (holding addresses sortWindow).Ordered plan) :
    ∃ found window result,
      Selects addresses sortWindow plan sort limit found window result ∧
      (∀ attempt, (holding addresses sortWindow).backend.search
        ⟨plan, sort, limit⟩ attempt = .immediate (.ok (result.map Finding.hit))) ∧
      (result.map Finding.hit).length ≤ min limit addresses.length ∧
      (result.map Finding.place).Nodup ∧
      (∀ f ∈ result, addresses[f.place]? = some f.address ∧
        plan.Matches (Document.ofAddress f.address)) ∧
      result.Pairwise fun a b => (compareCandidates sort a.candidate b.candidate).isLE = true := by
  have hselects : Selects addresses sortWindow plan sort limit _ _ _ := selects_search h
  refine ⟨_, _, _, hselects, fun attempt => ?_, ?_, hselects.nodup_result_places,
    fun f hf => ?_, ?_⟩
  · have hanswer := (holding addresses sortWindow).trySearch_eq_ok plan sort limit
    rw [search_eq] at hanswer
    simp only [backend, hanswer]
    rfl
  · rw [List.length_map]
    exact hselects.length_result_le
  · obtain ⟨haddress, hmatches, -⟩ := (hselects.found_iff f).mp (hselects.found_of_mem_result hf)
    exact ⟨haddress, hmatches⟩
  · refine hselects.result_sorted.imp fun {a b} hab => ?_
    rcases hab with hlt | ⟨heq, -⟩
    · rw [hlt]; rfl
    · rw [heq]; rfl

/-- Two flats match and the window has room for one, so that the search chooses by score before it
sorts. -/
theorem backend_search_selects_flat :
    (holding neighbours 1).Ordered (interpret .standard "15 breaker").planned.plan ∧
      ∃ found window result,
        Selects neighbours 1 (interpret .standard "15 breaker").planned.plan
          [.ascending .flatNumber] 1
          found window result ∧
        (∀ attempt, (holding neighbours 1).backend.search
          ⟨(interpret .standard "15 breaker").planned.plan, [.ascending .flatNumber], 1⟩ attempt =
            .immediate (.ok (result.map Finding.hit))) ∧
        (result.map Finding.hit).length ≤ 1 := by
  have hordered :=
    ordered_of_inexact (holding neighbours 1) (inexact_interpret .standard "15 breaker")
  obtain ⟨found, window, result, hselects, hanswer, hlength, -⟩ :=
    backend_search_selects neighbours 1 _ [.ascending .flatNumber] 1 hordered
  exact ⟨hordered, found, window, result, hselects, hanswer,
    Nat.le_trans hlength (Nat.min_le_left _ _)⟩

end AddressIndex

end Gazetteer

import Gazetteer.Index.Backend
import Gazetteer.Proofs.Index.Document
import Gazetteer.Proofs.Index.Matching
import Gazetteer.Proofs.Index.Ranking
import Gazetteer.Proofs.Selection

/-!
# What a structured search finds

A search says which documents it finds by their places in the index (`Finding`), so that equal
addresses stay apart. It sorts twice and cuts twice (`search_eq`): a window of the best by score,
and of these the first by rank. Both sorts are stable. Ties by rank have equal scores, so **what the
second sort leaves tied stands in the order of the index** (`pairwise_ranked`), although it sorts a
list that no longer has that order.
-/

namespace Gazetteer

open Index

/-- A document that a plan finds: its place in the index, its score and its address. -/
structure Finding where
  place : Nat
  score : Score
  address : Address

namespace Finding

/-- What ranking sees of a finding. -/
def candidate (f : Finding) : Candidate :=
  (f.score, f.address)

/-- The hit of a finding. -/
def hit (f : Finding) : Hit :=
  .structured f.address f.score

/-- A finding goes ahead by its score, and among equal scores by its place. -/
def ScoresAhead (a b : Finding) : Prop :=
  Score.exceeds a.score b.score = true ∨
    Score.exceeds b.score a.score = false ∧ a.place < b.place

/-- A finding goes ahead by its rank, and among equal ranks by its place. -/
def RanksAhead (sort : SortSpec) (a b : Finding) : Prop :=
  compareCandidates sort a.candidate b.candidate = .lt ∨
    compareCandidates sort a.candidate b.candidate = .eq ∧ a.place < b.place

/-- Whether a finding may stand before another by score. -/
def scoresBefore (a b : Finding) : Bool :=
  !Score.exceeds b.score a.score

/-- Whether a finding may stand before another by rank. -/
def ranksBefore (sort : SortSpec) (a b : Finding) : Bool :=
  (compareCandidates sort a.candidate b.candidate).isLE

end Finding

namespace AddressIndex

variable {index : AddressIndex} {plan : Plan} {sort : SortSpec} {limit : Nat}

/-- **A search ranks the best of what is scored**, also where the collector is not asked: an empty
window leaves nothing to rank, and a limit of nothing takes nothing. The collector refuses an empty
window, and so the search does not hand it one; this lemma is why no later proof has to ask which
way was taken. -/
theorem search_eq_rank (index : AddressIndex) (plan : Plan) (sort : SortSpec) (limit : Nat) :
    index.search plan sort limit =
      ((rank sort (((byScore (index.scored plan)).take (index.window limit)).map fun (score, d) =>
        (score, d.address))).take limit).map fun (score, address) => .structured address score := by
  apply search_of_trySearch_eq_ok
  rw [trySearch]
  split
  next hzero => rw [hzero, List.take_zero, List.map_nil]
  · split
    next hroom =>
      rw [room?_eq_none_iff.mp hroom, List.take_zero, List.map_nil, rank, List.mergeSort_nil,
        List.take_nil, List.map_nil]
    next hroom =>
      rw [collect_of_room? hroom]
      rfl

/-- The documents that are found, in the order of the index. -/
theorem map_snd_scored (index : AddressIndex) (plan : Plan) :
    (index.scored plan).map Prod.snd =
      index.documents.filter fun d => ((Matcher.of index.documents plan).score? d).isSome := by
  unfold scored
  rw [List.map_filterMap, ← List.filterMap_eq_filter]
  congr 1
  funext d
  cases hscore : (Matcher.of index.documents plan).score? d <;> simp [Option.guard, hscore]

/-- A document is found exactly if it matches. Its score does not come into it, however small it may
be. -/
theorem isSome_score?_iff {d : Document} (documents : List Document) (plan : Plan) :
    ((Matcher.of documents plan).score? d).isSome = true ↔ plan.Matches d := by
  rw [Option.isSome_iff_exists]
  simp only [score?_of_eq_some_iff, exists_and_left, exists_eq', and_true]

/-- **What a plan finds**, in the order of the index. -/
def findings (index : AddressIndex) (plan : Plan) : List Finding :=
  index.documents.zipIdx.filterMap fun (d, place) =>
    ((Matcher.of index.documents plan).score? d).map fun score => ⟨place, score, d.address⟩

/-- **A plan finds the documents that match it**, each at its score and at its place in the
index. -/
theorem mem_findings {f : Finding} :
    f ∈ index.findings plan ↔
      ∃ d, index.documents[f.place]? = some d ∧ plan.Matches d ∧
        worth index.documents plan d = f.score ∧ d.address = f.address := by
  simp only [findings, List.mem_filterMap, Option.map_eq_some_iff, score?_of_eq_some_iff,
    Prod.exists, List.mk_mem_zipIdx_iff_getElem?]
  constructor
  · rintro ⟨d, place, hplace, score, ⟨hmatches, hscore⟩, rfl⟩
    exact ⟨d, hplace, hmatches, hscore, rfl⟩
  · rintro ⟨d, hplace, hmatches, hscore, haddress⟩
    exact ⟨d, f.place, hplace, f.score, ⟨hmatches, hscore⟩, by rw [haddress]⟩

/-- Findings come in the order of their places. -/
theorem pairwise_place_findings : (index.findings plan).Pairwise fun a b => a.place < b.place := by
  refine List.pairwise_filterMap.mpr ?_
  have hplaces : index.documents.zipIdx.Pairwise fun a b => a.2 < b.2 := by
    refine List.pairwise_map.mp ?_
    rw [List.zipIdx_map_snd]
    exact List.pairwise_lt_range'
  refine hplaces.imp fun hlt a ha b hb => ?_
  obtain ⟨_, -, rfl⟩ := Option.map_eq_some_iff.mp ha
  obtain ⟨_, -, rfl⟩ := Option.map_eq_some_iff.mp hb
  exact hlt

theorem nodup_findings : (index.findings plan).Nodup := by
  refine pairwise_place_findings.imp fun hlt heq => ?_
  rw [heq] at hlt
  exact Nat.lt_irrefl _ hlt

theorem length_findings_le : (index.findings plan).length ≤ index.size :=
  Nat.le_trans (List.length_filterMap_le _ _) (Nat.le_of_eq List.length_zipIdx)

/-! ## Two sorts and two cuts -/

/-- The window of the best findings. -/
def candidates (index : AddressIndex) (plan : Plan) (limit : Nat) : List Finding :=
  ((index.findings plan).mergeSort Finding.scoresBefore).take (max limit index.sortWindow)

/-- The window in the order of its ranks. -/
def ranked (index : AddressIndex) (plan : Plan) (sort : SortSpec) (limit : Nat) : List Finding :=
  (index.candidates plan limit).mergeSort (Finding.ranksBefore sort)

/-- Findings are what is scored, with a place: ranking sees the same of both. -/
theorem map_candidate_findings :
    (index.findings plan).map Finding.candidate =
      (index.scored plan).map fun (score, d) => (score, d.address) := by
  have hdocuments : index.scored plan = index.documents.zipIdx.filterMap
      ((fun d => ((Matcher.of index.documents plan).score? d).map (·, d)) ∘ Prod.fst) := by
    rw [← List.filterMap_map, List.zipIdx_map_fst, scored]
  rw [hdocuments, findings, List.map_filterMap, List.map_filterMap]
  congr 1
  funext ⟨d, place⟩
  simp [Finding.candidate, Function.comp_def]

/-- The window of findings is the window of what is scored. One is cut at the length that was asked
for and the other at the size of the index as well, which holds no more findings than documents. -/
theorem map_candidate_candidates :
    (index.candidates plan limit).map Finding.candidate =
      ((byScore (index.scored plan)).take (index.window limit)).map fun (score, d) =>
        (score, d.address) := by
  have hfindings : ((index.findings plan).mergeSort Finding.scoresBefore).map Finding.candidate =
      ((index.findings plan).map Finding.candidate).mergeSort fun a b => !Score.exceeds b.1 a.1 :=
    List.map_mergeSort fun _ _ _ _ => rfl
  have hscored : (byScore (index.scored plan)).map (fun (score, d) => (score, d.address)) =
      ((index.scored plan).map fun (score, d) => (score, d.address)).mergeSort
        fun a b => !Score.exceeds b.1 a.1 :=
    List.map_mergeSort fun _ _ _ _ => rfl
  rw [candidates, List.map_take, List.map_take, hfindings, hscored, map_candidate_findings,
    List.take_eq_take_iff, List.length_mergeSort, ← map_candidate_findings, List.length_map, window]
  have : (index.findings plan).length ≤ index.size := length_findings_le
  omega

/-- **A search is two sorts and two cuts** of what the plan finds: by score to the window, and by
rank to the result. What is known of stable sorts is used on this form. -/
theorem search_eq :
    index.search plan sort limit = ((index.ranked plan sort limit).take limit).map Finding.hit := by
  have hranked : (index.ranked plan sort limit).map Finding.candidate =
      rank sort ((index.candidates plan limit).map Finding.candidate) :=
    List.map_mergeSort fun _ _ _ _ => rfl
  have hhits : Finding.hit = (fun found => Hit.structured found.2 found.1) ∘ Finding.candidate :=
    rfl
  rw [hhits, ← List.map_map, List.map_take (f := Finding.candidate), hranked,
    map_candidate_candidates, search_eq_rank]

/-- Every hit of a search is the structured hit of a document that has been found. -/
theorem mem_search {hit : Hit} (h : hit ∈ index.search plan sort limit) :
    ∃ f ∈ index.findings plan, f.hit = hit := by
  rw [search_eq] at h
  obtain ⟨f, hf, rfl⟩ := List.mem_map.mp h
  have hcandidate := List.mem_mergeSort.mp (List.mem_of_mem_take hf)
  exact ⟨f, List.mem_mergeSort.mp (List.mem_of_mem_take hcandidate), rfl⟩

end AddressIndex

end Gazetteer

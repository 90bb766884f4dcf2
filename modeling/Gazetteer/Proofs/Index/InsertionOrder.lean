import Gazetteer.Index.Backend
import Gazetteer.Proofs.Index.Completion
import Gazetteer.Proofs.Index.Search
import Mathlib.Data.List.Nodup

/-!
# The order in which addresses were added

Documents are scored one by one, and of the others a score sees only how many there are of a kind
(`Matcher.of_perm`). What is found is then sorted by comparisons that end with the id. So two
indexes of the same addresses, added in whatever order, **answer alike** (`SameDocuments.search_eq`,
`SameDocuments.suggest_eq`), provided that the ids are distinct and that the window cuts nothing
off: the first cut of a search is the one place where the order of the index decides.
-/

namespace Gazetteer

open Index

/-! ## Scores -/

namespace Index

/-- A total does not depend on the order of what is added up. The counts that probes go by are
totals over all documents. -/
theorem total_perm {sizes others : List Nat} (h : sizes.Perm others) :
    Number.total sizes = Number.total others := by
  induction h with
  | nil => rfl
  | cons n _ ih => rw [Number.total, Number.total, ih]
  | swap m n rest =>
    simp only [Number.total]
    omega
  | trans _ _ first second => exact first.trans second

variable {documents others : List Document}

/-- How many documents have a term, and how long fields are on the whole, is a matter of
counting. -/
theorem statisticsOf_perm (h : documents.Perm others) (mode : MatchMode) (field : Field)
    (wanted : String) :
    statisticsOf documents mode field wanted = statisticsOf others mode field wanted := by
  unfold statisticsOf
  rw [h.length_eq, h.countP_eq, total_perm (h.map _)]

/-- So the probe of a clause is the same over documents in any order, and with it the score of a
document. -/
theorem Probe.of_perm (h : documents.Perm others) (clause : Clause) :
    Probe.of documents clause = Probe.of others clause := by
  unfold Probe.of
  simp only [statisticsOf_perm h, h.countP_eq]

/-- **A matcher does not depend on the order of the documents.** Scores therefore do not, whatever
the formula for them is. -/
theorem Matcher.of_perm (h : documents.Perm others) (plan : Plan) :
    Matcher.of documents plan = Matcher.of others plan := by
  cases plan with
  | everything => rfl
  | single clause => simp only [Matcher.of, Probe.of_perm h]
  | conjunction clauses => simp only [Matcher.of, funext fun clause => Probe.of_perm h clause]

end Index

namespace AddressIndex

variable {index : AddressIndex} {plan : Plan} {limit : Nat}

/-! ## Documents by their ids -/

/-- **No two documents have one id.** -/
def DistinctIds (index : AddressIndex) : Prop :=
  (index.documents.map fun d => d.text .id).Nodup

/-- An id says which document has it, as no two documents of the index have one id. -/
theorem DistinctIds.eq_of_id (h : index.DistinctIds) {d e : Document} (hd : d ∈ index.documents)
    (he : e ∈ index.documents) (hid : d.text .id = e.text .id) : d = e :=
  List.inj_on_of_nodup_map h hd he hid

/-- What is scored is a document of the index at the score that the matcher gives it. -/
theorem mem_scored {found : Scored} :
    found ∈ index.scored plan ↔
      found.2 ∈ index.documents ∧
        (Matcher.of index.documents plan).score? found.2 = some found.1 := by
  obtain ⟨score, d⟩ := found
  simp only [scored, List.mem_filterMap, Option.map_eq_some_iff, Prod.mk.injEq]
  constructor
  · rintro ⟨_, hd, _, hscore, rfl, rfl⟩
    exact ⟨hd, hscore⟩
  · rintro ⟨hd, hscore⟩
    exact ⟨d, hd, score, hscore, rfl, rfl⟩

/-- An id says which document was found, and with it the score. -/
theorem DistinctIds.eq_of_scored (h : index.DistinctIds) {a b : Scored} (ha : a ∈ index.scored plan)
    (hb : b ∈ index.scored plan) (hid : a.2.text .id = b.2.text .id) : a = b := by
  obtain ⟨hd, hscore⟩ := mem_scored.mp ha
  obtain ⟨he, hscore'⟩ := mem_scored.mp hb
  have hdocument := h.eq_of_id hd he hid
  rw [hdocument, hscore'] at hscore
  exact Prod.ext (Option.some.inj hscore).symm hdocument

/-! ## Orders without ties -/

instance : Std.TransCmp compareIds where
  eq_swap {a b} := by
    cases a <;> cases b
    case some.some a b => exact @Std.OrientedCmp.eq_swap _ Text.compareText _ a b
    all_goals rfl
  isLE_trans {a b c} hab hbc := by
    cases a <;> cases b <;> cases c
    case some.some.some a b c => exact @Std.TransCmp.isLE_trans _ Text.compareText _ a b c hab hbc
    all_goals simp_all [compareIds]

instance : Std.TransCmp compareCompletions :=
  have : Std.TransCmp fun a b : Hit =>
      Text.compareText (Text.lowercase a.address) (Text.lowercase b.address) :=
    transCmp_on Text.compareText fun a : Hit => Text.lowercase a.address
  have : Std.TransCmp fun a b : Hit => compareIds a.id b.id := transCmp_on compareIds Hit.id
  inferInstanceAs (Std.TransCmp (compareLex _ _))

/-- Only equal ids tie. Completions all have one score, so that their order comes down to this. -/
theorem eq_of_compareIds {a b : Option String} (h : compareIds a b = .eq) : a = b := by
  cases a <;> cases b
  case some.some a b => exact congrArg some (Text.eq_of_compareText h)
  all_goals first | rfl | cases h

/-- The completions of two documents have one id only if the documents do: a missing id stands for
an empty one. -/
theorem id_eq_of_completionHit {d e : Document} (h : (completionHit d).id = (completionHit e).id) :
    d.text .id = e.text .id := by
  simp only [completionHit, Hit.suggestion, Option.filter] at h
  by_cases hd : d.text .id = "" <;> by_cases he : e.text .id = "" <;> simp_all

/-! ## Two indexes -/

/-- **Two indexes hold the same documents**, with ids of their own, and their windows keep all of
them. -/
structure SameDocuments (first second : AddressIndex) (limit : Nat) : Prop where
  perm : first.documents.Perm second.documents
  distinct : first.DistinctIds
  first_window : first.window limit = first.size
  second_window : second.window limit = second.size

variable {first second : AddressIndex}

theorem length_scored_le : (index.scored plan).length ≤ index.size :=
  List.length_filterMap_le _ _

/-- A window as large as the index keeps all that is scored. Sorting by score before the cut then
makes no difference, and may do so in any way. -/
theorem take_byScore_perm (hwindow : index.window limit = index.size) :
    ((byScore (index.scored plan)).take (index.window limit)).Perm (index.scored plan) := by
  have hlength : (byScore (index.scored plan)).length ≤ index.window limit := by
    rw [byScore, List.length_mergeSort, hwindow]
    exact length_scored_le
  rw [List.take_of_length_le hlength]
  exact List.mergeSort_perm _ _

namespace SameDocuments

/-- Both find the same. A window that holds all documents cuts nothing off, and it is the cut that
would depend on the order. -/
theorem candidates_perm (h : SameDocuments first second limit) (plan : Plan) :
    ((byScore (first.scored plan)).take (first.window limit)).Perm
      ((byScore (second.scored plan)).take (second.window limit)) := by
  have hscored : (first.scored plan).Perm (second.scored plan) := by
    unfold scored
    rw [Matcher.of_perm h.perm]
    exact h.perm.filterMap _
  exact (take_byScore_perm h.first_window).trans
    (hscored.trans (take_byScore_perm h.second_window).symm)

/-- **Both answer a search alike.** Ranking ends with the id, and ids are distinct; the list that it
makes is therefore settled by what is found. -/
theorem search_eq (h : SameDocuments first second limit) (plan : Plan) (sort : SortSpec) :
    first.search plan sort limit = second.search plan sort limit := by
  rw [search_eq_rank, search_eq_rank]
  congr 2
  apply rank_eq_of_perm
  · exact (h.candidates_perm plan).map _
  · intro a ha b hb hid
    obtain ⟨foundA, hfoundA, rfl⟩ := List.mem_map.mp ha
    obtain ⟨foundB, hfoundB, rfl⟩ := List.mem_map.mp hb
    have hscoredA := List.mem_mergeSort.mp (List.mem_of_mem_take hfoundA)
    have hscoredB := List.mem_mergeSort.mp (List.mem_of_mem_take hfoundB)
    rw [h.distinct.eq_of_scored hscoredA hscoredB hid]

/-- Both have the same completions of a text. The ids tell completions apart, so that sorting them
leaves nothing to the order in which they came. -/
theorem completions_eq (h : SameDocuments first second limit) (text : String) :
    first.completions text limit = second.completions text limit := by
  have hkept : ∀ index : AddressIndex, index.window limit = index.size → ∀ query,
      (index.asked query).take (index.window limit) = index.asked query := by
    intro index hwindow query
    rw [hwindow]
    exact List.take_of_length_le (List.length_filter_le _ _)
  rw [completions, completions, hkept first h.first_window, hkept second h.second_window]
  congr 1
  apply mergeSort_eq_of_perm
  · exact (h.perm.filter _).map _
  · intro a ha b hb hties
    obtain ⟨d, hd, rfl⟩ := List.mem_map.mp ha
    obtain ⟨e, he, rfl⟩ := List.mem_map.mp hb
    rw [compareCompletions, Ordering.then_eq_eq] at hties
    have hid := id_eq_of_completionHit (eq_of_compareIds hties.2)
    rw [h.distinct.eq_of_id (List.mem_of_mem_filter hd) (List.mem_of_mem_filter he) hid]

/-- **Both complete a text alike**, also where they refuse to. -/
theorem suggest_eq (h : SameDocuments first second limit) (text : String) :
    first.suggest text limit = second.suggest text limit := by
  have hsize : first.size = second.size := h.perm.length_eq
  rw [AddressIndex.suggest_eq, AddressIndex.suggest_eq, h.completions_eq, h.first_window,
    h.second_window, hsize]

end SameDocuments

end AddressIndex

end Gazetteer

import Gazetteer.Proofs.Index.InsertionOrder
import Gazetteer.Proofs.Lookup.OverIndex

/-!
# Lookups do not tell in which order addresses were added

Two indexes of one list of addresses, in different orders, are backends that give equal answers, and
so **a lookup over either is the same lookup** (`lookups_eq_of_perm`), from its calls to its merged
hits. It takes ids of their own, since all orders end with the id, and a window that cuts nothing
off.
-/

namespace Gazetteer

open Index

namespace AddressIndex

variable {first second : AddressIndex} {limit : Nat}

/-- Indexes of the same addresses answer a service alike, call for call, so that the whole lookup is
the same and not only what it returns. -/
theorem SameDocuments.search_service_eq (h : SameDocuments first second limit) (lexicon : Lexicon)
    (settings : Settings) (query : String) {size : Option Nat}
    (hlimit : (first.service lexicon settings).sizeOr size = limit) :
    (first.service lexicon settings).search query size =
      (second.service lexicon settings).search query size := by
  have hlimit' : (second.service lexicon settings).sizeOr size = limit := by
    rwa [LookupService.sizeOr_service] at hlimit ⊢
  have hsearch : ∀ plan sort, first.backend.search ⟨plan, sort, limit⟩ =
      second.backend.search ⟨plan, sort, limit⟩ := by
    intro plan sort
    have hanswer : first.trySearch plan sort limit = second.trySearch plan sort limit := by
      rw [trySearch_eq_ok, trySearch_eq_ok, h.search_eq plan sort]
    exact congrArg (fun answer _ => Retry.Attempt.immediate (answerOf answer)) hanswer
  have hsuggest : ∀ text,
      first.backend.suggest ⟨text, limit⟩ = second.backend.suggest ⟨text, limit⟩ :=
    fun text =>
      congrArg (fun answer _ => Retry.Attempt.immediate (answerOf answer)) (h.suggest_eq text)
  simp only [LookupService.search, LookupService.searchInTurns, hlimit, hlimit']
  simp only [service, LookupService.searchCourse, LookupService.suggestCourse,
    LookupService.searchCall, LookupService.suggestCall, LookupService.interpret,
    LookupService.policy, hsearch, hsuggest]

/-- Addresses with ids of their own, in two orders, are the same documents. The conditions on ids
and on the window are turned into the form that the index needs. -/
theorem sameDocuments_holding {addresses reordered : List Address}
    (hperm : addresses.Perm reordered) (hids : (addresses.map Address.id).Nodup) {sortWindow : Nat}
    (hwindow : addresses.length ≤ max limit sortWindow) :
    SameDocuments (holding addresses sortWindow) (holding reordered sortWindow) limit where
  perm := hperm.map Document.ofAddress
  distinct := by
    have hid : (fun d : Document => d.text .id) ∘ Document.ofAddress = Address.id := by
      funext a
      exact Document.text_ofAddress a .id
    unfold DistinctIds
    rw [holding, withSortWindow, ofAddresses, List.map_map, hid]
    exact hids
  first_window := by
    apply Nat.min_eq_right
    exact Nat.le_trans (Nat.le_of_eq (List.length_map _)) hwindow
  second_window := by
    apply Nat.min_eq_right
    refine Nat.le_trans (Nat.le_of_eq (List.length_map _)) ?_
    exact hperm.length_eq ▸ hwindow

/-- **Lookups do not depend on the order in which addresses were added.** For addresses with ids of
their own and a window that holds all of them, a reordered list gives the same structured hits for
every plan and every sort, the same completions of every text, and the same merged search for every
query.

Scores do not depend on the order, as terms are counted over all documents. What could is the cut to
the window, which falls among ties by insertion order, and so the window has to hold all; and ties
in the ranking itself, which ids of their own exclude. The merged search follows from the two paths,
turns and calls included. -/
theorem lookups_eq_of_perm {addresses reordered : List Address} (hperm : addresses.Perm reordered)
    (hids : (addresses.map Address.id).Nodup) {sortWindow : Nat}
    (hwindow : addresses.length ≤ max limit sortWindow) :
    (∀ plan sort, (holding addresses sortWindow).search plan sort limit =
      (holding reordered sortWindow).search plan sort limit) ∧
    (∀ text, (holding addresses sortWindow).suggest text limit =
      (holding reordered sortWindow).suggest text limit) ∧
    ∀ lexicon settings query size,
      ((holding addresses sortWindow).service lexicon settings).sizeOr size = limit →
      ((holding addresses sortWindow).service lexicon settings).search query size =
        ((holding reordered sortWindow).service lexicon settings).search query size := by
  have hsame := sameDocuments_holding hperm hids hwindow
  refine ⟨hsame.search_eq, hsame.suggest_eq, ?_⟩
  intro lexicon settings query size hlimit
  exact hsame.search_service_eq lexicon settings query hlimit

/-- Three addresses that all match, listed backwards, in a window of two. -/
theorem lookups_eq_of_perm_neighbours :
    neighbours.Perm neighbours.reverse ∧ (neighbours.map Address.id).Nodup ∧
      neighbours.length ≤ max 3 2 ∧
      (holding neighbours 2).search .everything [.ascending .streetNumber] 3 =
        (holding neighbours.reverse 2).search .everything [.ascending .streetNumber] 3 ∧
      ((holding neighbours 2).service .standard .standard).search "15" (some 3) =
        ((holding neighbours.reverse 2).service .standard .standard).search "15" (some 3) := by
  have hperm : neighbours.Perm neighbours.reverse := (List.reverse_perm neighbours).symm
  have hids : (neighbours.map Address.id).Nodup := by decide
  have hwindow : neighbours.length ≤ max 3 2 := by decide
  obtain ⟨hsearch, -, hservice⟩ := lookups_eq_of_perm hperm hids hwindow
  exact ⟨hperm, hids, hwindow, hsearch _ _, hservice .standard .standard "15" (some 3) rfl⟩

end AddressIndex

end Gazetteer

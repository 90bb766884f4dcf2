import Gazetteer.Proofs.Hit.Merge
import Gazetteer.Proofs.Index.Completion
import Gazetteer.Proofs.Index.Search
import Gazetteer.Proofs.Lookup.OverIndex
import Gazetteer.Proofs.Query.CommonScore

/-!
# Structured hits first, then new completions

Over an index all structured hits of a query have one score, which is at least the one that
completions have. No hit is then better than one before it, and merging is no more than it looks:
**the structured hits in their order, then the completions that add an address, in theirs**
(`merge_eq_inARow`). An address found on both paths is always reported with its record.
-/

namespace Gazetteer

open Index

/-! ## Scores of both paths -/

namespace AddressIndex

variable {index : AddressIndex}

/-- **All structured hits of a query have the common score of its plan.** The plans of queries are
such that what a clause is worth does not depend on the document. -/
theorem score_of_mem_structuredHits {lexicon : Lexicon} {query : String} {limit : Nat} {hit : Hit}
    (h : hit ∈ index.structuredHits lexicon query limit) :
    hit.score = commonScore index.documents (interpret lexicon query).planned.plan := by
  obtain ⟨f, hf, rfl⟩ := mem_search h
  obtain ⟨d, -, -, hscore, -⟩ := mem_findings.mp hf
  exact hscore.symm.trans (worth_eq_commonScore _ (inexact_interpret lexicon query) d)

/-- Structured hits have records, and completions have none. -/
theorem record_of_mem_structuredHits {lexicon : Lexicon} {query : String} {limit : Nat} {hit : Hit}
    (h : hit ∈ index.structuredHits lexicon query limit) :
    hit.origin = .structured ∧ hit.record.isSome = true := by
  obtain ⟨f, -, rfl⟩ := mem_search h
  exact ⟨rfl, rfl⟩

/-- All completions have the score one, which is the least that a structured hit may have. -/
theorem score_of_mem_completions {text : String} {limit : Nat} {hit : Hit}
    (h : hit ∈ index.completions text limit) : hit.score = 1 := by
  obtain ⟨d, -, -, rfl⟩ := mem_completions h
  rfl

end AddressIndex

namespace Hit

/-- Hits of one score are in no order of their own, and so descend in any. -/
theorem descending_of_score {hits : List Hit} {score : Score}
    (h : ∀ hit ∈ hits, hit.score = score) :
    Descending hits := by
  refine List.Pairwise.imp_of_mem (fun {a b} ha hb _ => ?_)
    (List.pairwise_of_forall fun _ _ => trivial)
  have hself : Score.compareTotal score score = .eq := Std.ReflCmp.compare_self
  rw [ranksBefore, h a ha, h b hb, hself]
  exact ⟨Score.exceeds_self score, rfl⟩

/-- **Hits of one score from one up, and after them hits of the score one, descend.** -/
theorem descending_append {structured suggested : List Hit} {score : Score}
    (hscore : score.AtLeastOne) (hstructured : ∀ hit ∈ structured, hit.score = score)
    (hsuggested : ∀ hit ∈ suggested, hit.score = 1) :
    Descending (structured ++ suggested) := by
  refine List.pairwise_append.mpr
    ⟨descending_of_score hstructured, descending_of_score hsuggested, fun a ha b hb => ?_⟩
  rw [ranksBefore, hstructured a ha, hsuggested b hb]
  exact ⟨hscore.one_not_exceeds, bne_iff_ne.mpr hscore.compareTotal_one⟩

end Hit

namespace AddressIndex

variable (index : AddressIndex) (lexicon : Lexicon)

/-- What both paths of an index find, in a row. -/
def inARow (query : String) (limit : Nat) : List Hit :=
  Hit.unseen [] (index.structuredHits lexicon query limit) ++
    Hit.unseen (Hit.identities (index.structuredHits lexicon query limit))
      (index.completions (normalLine query) limit)

/-- **Merging what an index finds puts it in a row.** No later hit is better than an earlier one, so
that none is put before another and none takes the place of another. -/
theorem merge_eq_inARow (query : String) (limit : Nat) :
    Hit.merge (index.structuredHits lexicon query limit)
      (index.completions (normalLine query) limit) =
      index.inARow lexicon query limit := by
  rw [inARow, ← Hit.unseen_append_of_nil]
  exact Hit.merge_eq_unseen <| Hit.descending_append
    (atLeastOne_commonScore index.documents (inexact_interpret lexicon query))
    (fun _ h => score_of_mem_structuredHits h) fun _ h => score_of_mem_completions h

/-- An address found on both paths is reported by its structured hit. -/
theorem mem_structuredHits_of_mem_inARow {query : String} {limit : Nat} {hit : Hit}
    (h : hit ∈ index.inARow lexicon query limit)
    (hidentity : hit.identity ∈ Hit.identities (index.structuredHits lexicon query limit)) :
    hit ∈ index.structuredHits lexicon query limit := by
  rcases List.mem_append.mp h with h | h
  · exact (Hit.unseen_sublist _ _).subset h
  · exact absurd hidentity (Hit.not_mem_of_mem_unseen h)

end AddressIndex

/-- **Merged search is structured hits first, then new completions.** All structured hits of a query
have the common score of its plan, which is at least that of completions. So a merged search
returns, up to its size, the structured hits without repeated identities, and after them the
completions with identities that have not appeared. A hit of an address that both paths find is a
structured one, with the record.

That the scores are equal is what makes this true: plans of queries have no exact terms, so that a
term counts the same in every document. The hits of both paths are then in descending order as they
come, and merging such hits is concatenation (`Hit.merge_eq_unseen`). -/
theorem search_is_structured_then_new (index : AddressIndex) (lexicon : Lexicon)
    (settings : Settings) (query : String) (size : Option Nat) {structured suggested : List Hit}
    (hstructured : structured =
      index.structuredHits lexicon query ((index.service lexicon settings).sizeOr size))
    (hsuggested : index.suggest (normalLine query) ((index.service lexicon settings).sizeOr size) =
      .ok suggested) :
    (∃ score, IsCommonScore (interpret lexicon query).planned.plan score ∧
      ∀ limit, ∀ hit ∈ index.structuredHits lexicon query limit, hit.score = score) ∧
    ((index.service lexicon settings).search query size).result =
      .ok ((Hit.unseen [] structured ++ Hit.unseen (Hit.identities structured) suggested).take
        ((index.service lexicon settings).sizeOr size)) ∧
    ∀ hit ∈ Hit.unseen [] structured ++ Hit.unseen (Hit.identities structured) suggested,
      hit.identity ∈ Hit.identities structured →
        hit ∈ structured ∧ hit.origin = .structured ∧ hit.record.isSome = true := by
  subst hstructured
  obtain rfl := AddressIndex.eq_completions_of_suggest_eq_ok hsuggested
  refine ⟨⟨_, isCommonScore_commonScore index.documents (inexact_interpret lexicon query),
    fun limit hit hhit => AddressIndex.score_of_mem_structuredHits hhit⟩, ?_,
    fun hit hhit hidentity => ?_⟩
  · refine (LookupService.result_search_eq_ok_iff index lexicon settings query size _).mpr
      ⟨_, hsuggested, ?_⟩
    rw [AddressIndex.merge_eq_inARow]
    rfl
  · have hmem := index.mem_structuredHits_of_mem_inARow lexicon hhit hidentity
    exact ⟨hmem, AddressIndex.record_of_mem_structuredHits hmem⟩

/-- A street name that is being typed finds two of three addresses, on both paths. -/
theorem search_is_structured_then_new_neighbours :
    ∃ suggested, (AddressIndex.holding neighbours 1).suggest (normalLine "15 brea") 3 =
      .ok suggested ∧
      (((AddressIndex.holding neighbours 1).service .standard .standard).search "15 brea"
        (some 3)).result =
        .ok ((Hit.unseen []
          ((AddressIndex.holding neighbours 1).structuredHits .standard "15 brea" 3) ++
          Hit.unseen (Hit.identities
            ((AddressIndex.holding neighbours 1).structuredHits .standard "15 brea" 3))
              suggested).take 3) := by
  have hshort : (normalLine (normalLine "15 brea")).utf8ByteSize <
      AddressIndex.longestCompletion := by
    decide
  have hsuggested : (AddressIndex.holding neighbours 1).suggest (normalLine "15 brea") 3 = .ok _ :=
    AddressIndex.suggest_of_short hshort
  exact ⟨_, hsuggested,
    (search_is_structured_then_new (AddressIndex.holding neighbours 1) .standard .standard
    "15 brea" (some 3) rfl hsuggested).2.1⟩

end Gazetteer

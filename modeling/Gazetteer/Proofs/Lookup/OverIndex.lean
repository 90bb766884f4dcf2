import Gazetteer.Index.Backend
import Gazetteer.Proofs.Lookup.Paths

/-!
# The service over an index

An index answers at once, and what it refuses it refuses for good. So a lookup over an index is one
call on each path, whatever the settings say of timeouts and retries: the structured path always
succeeds, and a merged search succeeds exactly when the completion does (`result_search_eq_ok_iff`).
-/

namespace Gazetteer

namespace AddressIndex

/-- **The service over an index.** -/
def service (index : AddressIndex) (lexicon : Lexicon) (settings : Settings) : LookupService :=
  ⟨index.backend, lexicon, settings⟩

/-- What a query finds in an index on the structured path. -/
def structuredHits (index : AddressIndex) (lexicon : Lexicon) (query : String) (limit : Nat) :
    List Hit :=
  let planned := (interpret lexicon query).planned
  index.search planned.plan planned.sort limit

/-- What an index refuses it refuses for good. So it is asked once, and the policy for retries does
not come into what it answers. -/
theorem isTransient_engine (cause : EngineFailure) :
    (IndexFailure.engine cause).toBackend.isTransient = false := by
  cases cause <;> rfl

/-- **An index is asked once**, on either path: it says the same at once and at every attempt, and
another attempt is not worth making. -/
theorem course_answerOf (policy : Retry.Policy) (operation : Operation)
    (outcome : Except EngineFailure (List Hit)) :
    (Retry.course policy operation fun _ => .immediate (answerOf outcome)).result =
      outcome.mapError fun cause => .backend operation (IndexFailure.engine cause).toBackend := by
  refine (Retry.course_immediate policy operation fun cause h => ?_).trans ?_
  · cases outcome with
    | ok hits => cases h
    | error refusal =>
      cases h
      exact isTransient_engine refusal
  · cases outcome <;> rfl

end AddressIndex

namespace LookupService

/-- A size that is given is taken, whatever the settings say, on all paths. -/
@[simp] theorem sizeOr_some (service : LookupService) (size : Nat) :
    service.sizeOr (some size) = size := rfl

@[simp] theorem suggestSizeOr_some (service : LookupService) (size : Nat) :
    service.suggestSizeOr (some size) = size := rfl

variable (index : AddressIndex) (lexicon : Lexicon) (settings : Settings)

/-- The length of a result is a matter of the settings, whatever the index. -/
theorem sizeOr_service (size : Option Nat) :
    (index.service lexicon settings).sizeOr size = size.getD settings.defaultSize.toNat := rfl

/-- The structured call of an index ends with what its search returns, which never fails. -/
theorem result_searchCourse (call : SearchCall) :
    ((index.service lexicon settings).searchCourse call).result =
      .ok (index.search call.plan call.sort call.limit) := by
  have hanswer := index.trySearch_eq_ok call.plan call.sort call.limit
  exact (AddressIndex.course_answerOf _ .addresses _).trans (hanswer ▸ rfl)

/-- The structured call of a query finds what the query finds in the index. -/
theorem result_searchCourse_searchCall (query : String) (limit : Nat) :
    ((index.service lexicon settings).searchCourse
        ((index.service lexicon settings).searchCall query limit)).result =
      .ok (index.structuredHits lexicon query limit) := by
  rw [result_searchCourse]
  simp only [searchCall, LookupService.interpret, AddressIndex.service, AddressIndex.structuredHits]

/-- The completion call ends with what the index completes, or with what it refuses under the name
of the call. -/
theorem result_suggestCourse (call : SuggestCall) :
    ((index.service lexicon settings).suggestCourse call).result =
      (index.suggest call.text call.limit).mapError fun cause =>
        .backend .suggest (IndexFailure.engine cause).toBackend :=
  AddressIndex.course_answerOf _ .suggest _

/-- **The structured path of an index always answers.** The course of its one call ends at the first
attempt. -/
theorem result_addresses (query : String) (size : Option Nat) :
    ((index.service lexicon settings).addresses query size).result =
      .ok (index.structuredHits lexicon query ((index.service lexicon settings).sizeOr size)) := by
  simp only [addresses, result_searchCourse_searchCall]

/-- A completion by a service has the hits that the index has for the normal form of the query. -/
theorem result_suggest_eq_ok_iff (query : String) (size : Option Nat) (hits : List Hit) :
    ((index.service lexicon settings).suggest query size).result = .ok hits ↔
      index.suggest (normalLine query) ((index.service lexicon settings).suggestSizeOr size) =
        .ok hits := by
  simp only [suggest, result_suggestCourse, mapError_eq_ok_iff, suggestCall]

/-- **A merged search over an index succeeds exactly when the completion does**, and merges both. -/
theorem result_search_eq_ok_iff (query : String) (size : Option Nat) (hits : List Hit) :
    ((index.service lexicon settings).search query size).result = .ok hits ↔
      ∃ suggested,
        index.suggest (normalLine query) ((index.service lexicon settings).sizeOr size) =
          .ok suggested ∧
        hits = (Hit.merge
          (index.structuredHits lexicon query ((index.service lexicon settings).sizeOr size))
          suggested).take ((index.service lexicon settings).sizeOr size) := by
  rw [search, result_searchInTurns_eq_ok_iff]
  simp only [result_searchCourse_searchCall, result_suggestCourse, mapError_eq_ok_iff, suggestCall,
    Except.ok.injEq]
  constructor
  · rintro ⟨_, suggested, rfl, hsuggested, rfl⟩
    exact ⟨suggested, hsuggested, rfl⟩
  · rintro ⟨suggested, hsuggested, rfl⟩
    exact ⟨_, suggested, rfl, hsuggested, rfl⟩

end LookupService

end Gazetteer

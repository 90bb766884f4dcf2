import Gazetteer.Hit.Merge
import Gazetteer.Query.Strategy
import Gazetteer.Retry.Race

/-!
# Looking up addresses

The service turns a query into calls to a backend: a structured search by the plan of the query, a
completion of the query's normal form, or both side by side with their hits merged. An answer says
what was found, what was asked of the backend and how long it took. A failed call never leads to a
list of hits.
-/

namespace Gazetteer

open Retry (Attempt Course Policy)

/-- A structured search asked of a backend. -/
structure SearchCall where
  plan : Plan
  sort : SortSpec
  limit : Nat

/-- A completion asked of a backend. -/
structure SuggestCall where
  text : String
  limit : Nat

/-- A backend says what each attempt at a call, by its number, would give. -/
structure Backend where
  search : SearchCall → Nat → Attempt (List Hit)
  suggest : SuggestCall → Nat → Attempt (List Hit)

/-- The answer to a lookup. -/
structure Answer where
  result : Except LookupFailure (List Hit)
  instant : Nat
  searchCalls : List SearchCall := []
  suggestCalls : List SuggestCall := []

/-- A lookup service. -/
structure LookupService where
  backend : Backend
  lexicon : Lexicon
  settings : Settings

namespace LookupService

/-- The service of some settings, with their words beside the street types in common use. -/
def ofSettings (backend : Backend) (settings : Settings) : LookupService :=
  ⟨backend, .withExtra settings.extraStreetTypes, settings⟩

/-- How patient the service is. -/
def policy (service : LookupService) : Policy :=
  .ofSettings service.settings

/-- What the service reads from a query. -/
def interpret (service : LookupService) (query : String) : Interpretation :=
  Gazetteer.interpret service.lexicon query

/-- The structured search for a query. -/
def searchCall (service : LookupService) (query : String) (limit : Nat) : SearchCall :=
  let planned := (service.interpret query).planned
  ⟨planned.plan, planned.sort, limit⟩

/-- The completion of a query. -/
def suggestCall (query : String) (limit : Nat) : SuggestCall :=
  ⟨normalLine query, limit⟩

/-- The course of a structured search. -/
def searchCourse (service : LookupService) (call : SearchCall) : Course (List Hit) :=
  Retry.course service.policy .addresses (service.backend.search call)

/-- The course of a completion. -/
def suggestCourse (service : LookupService) (call : SuggestCall) : Course (List Hit) :=
  Retry.course service.policy .suggest (service.backend.suggest call)

/-- The length of a structured result. -/
def sizeOr (service : LookupService) (size : Option Nat) : Nat :=
  size.getD service.settings.defaultSize.toNat

/-- The length of a list of completions. -/
def suggestSizeOr (service : LookupService) (size : Option Nat) : Nat :=
  size.getD service.settings.defaultSuggestSize.toNat

/-- **Structured search.** -/
def addresses (service : LookupService) (query : String) (size : Option Nat) : Answer :=
  let call := service.searchCall query (service.sizeOr size)
  let course := service.searchCourse call
  { result := course.result
    instant := course.span
    searchCalls := .replicate course.callCount call }

/-- **Completion.** -/
def suggest (service : LookupService) (query : String) (size : Option Nat) : Answer :=
  let call := suggestCall query (service.suggestSizeOr size)
  let course := service.suggestCourse call
  { result := course.result
    instant := course.span
    suggestCalls := .replicate course.callCount call }

/-- The hits of both calls as one list of limited length. -/
def mergedUpTo (limit : Nat) (found : List Hit × List Hit) : List Hit :=
  (Hit.merge found.1 found.2).take limit

/-- Both calls, in turns. -/
def searchInTurns (service : LookupService) (turns : Retry.Turns (List Hit) (List Hit))
    (query : String)
    (size : Option Nat) : Answer :=
  let limit := service.sizeOr size
  let searchCall := service.searchCall query limit
  let suggestCall := suggestCall query limit
  let finish := Retry.race turns (.start (service.searchCourse searchCall))
    (.start (service.suggestCourse suggestCall))
  { result := finish.result.map (mergedUpTo limit)
    instant := finish.instant
    searchCalls := .replicate finish.firstCalls searchCall
    suggestCalls := .replicate finish.secondCalls suggestCall }

/-- **Search**: both calls side by side, on a clock. -/
def search (service : LookupService) (query : String) (size : Option Nat) : Answer :=
  service.searchInTurns Retry.earlierFirst query size

end LookupService

end Gazetteer

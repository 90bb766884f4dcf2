import Gazetteer.Proofs.Lookup.Paths
import Gazetteer.Proofs.Retry.Course

/-!
# Failures of a merged search

A merged search asks a backend twice, side by side, and tries each call again as its policy says.
Whose turn it is decides how far either path gets before the other one fails, but **no failure
becomes a list of hits** (`searchInTurns_hides_no_failure`): hits are found exactly when both calls
end with hits, so in all turns or in none, and they are the same. Otherwise one path's failure is
reported, under the name of its operation.
-/

namespace Gazetteer

open Retry (EndsAt)

namespace LookupService

variable (service : LookupService) (turns : Retry.Turns (List Hit) (List Hit)) (query : String)
  (size : Option Nat)

/-- **No failure of a backend becomes a list of hits.** Whatever a backend answers to each attempt
at either call, whatever the policy and whosever turn it is, a merged search has hits exactly when
both calls end with hits, and these are then merged and cut to the size. Otherwise it reports how
the call of one path has ended, under the name of that path's operation. Neither call is made more
than once more than it may be retried.

Where a call ends (`EndsAt`) does not depend on the turns. What does is which of two failures is
reported and how many calls the other path has made by then; hence the bounds on calls and not their
numbers. -/
theorem searchInTurns_hides_no_failure :
    (∀ hits, (service.searchInTurns turns query size).result = .ok hits ↔
      ∃ structured suggested,
        (∃ number, EndsAt service.policy
          (service.backend.search (service.searchCall query (service.sizeOr size)))
          number (.value structured)) ∧
        (∃ number, EndsAt service.policy
          (service.backend.suggest (suggestCall query (service.sizeOr size)))
          number (.value suggested)) ∧
        hits = (Hit.merge structured suggested).take (service.sizeOr size)) ∧
    (∀ failure, (service.searchInTurns turns query size).result = .error failure →
      (∃ number ending, EndsAt service.policy
          (service.backend.search (service.searchCall query (service.sizeOr size))) number ending ∧
        ending.result service.policy .addresses (UInt32.ofNat (number + 1)) = .error failure ∧
        failure.operation = .addresses) ∨
      ∃ number ending, EndsAt service.policy
          (service.backend.suggest (suggestCall query (service.sizeOr size))) number ending ∧
        ending.result service.policy .suggest (UInt32.ofNat (number + 1)) = .error failure ∧
        failure.operation = .suggest) ∧
    (service.searchInTurns turns query size).searchCalls.length ≤
      service.policy.maxRetries.toNat + 1 ∧
    (service.searchInTurns turns query size).suggestCalls.length ≤
      service.policy.maxRetries.toNat + 1 := by
  have hcalls := Retry.race_calls_le turns
    (.start (service.searchCourse (service.searchCall query (service.sizeOr size))))
    (.start (service.suggestCourse (suggestCall query (service.sizeOr size))))
  rw [Retry.Runner.allCalls_start, Retry.Runner.allCalls_start] at hcalls
  refine ⟨?hits, ?failure, ?searches, ?suggestions⟩
  case hits =>
    intro hits
    -- A path has found hits exactly when its call has ended with them, whichever call it makes.
    simp only [result_searchInTurns_eq_ok_iff, searchCourse, suggestCourse,
      Retry.course_result_eq_ok_iff]
  case failure =>
    intro failure h
    exact (service.result_searchInTurns_eq_error turns query size h).imp
      Retry.course_result_eq_error Retry.course_result_eq_error
  case searches =>
    simp only [searchInTurns, List.length_replicate]
    exact Nat.le_trans hcalls.1 Retry.course_callCount_le
  case suggestions =>
    simp only [searchInTurns, List.length_replicate]
    exact Nat.le_trans hcalls.2 Retry.course_callCount_le

end LookupService

end Gazetteer

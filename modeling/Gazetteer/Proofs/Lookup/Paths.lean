import Gazetteer.Lookup
import Gazetteer.Proofs.Retry.Race

/-!
# Both paths of a search

A merged search takes a structured call and a completion in turns. **It has hits exactly when both
have** (`result_searchInTurns_eq_ok_iff`), whosever turn it is, and its failures are those of the
two (`result_searchInTurns_eq_error`).
-/

namespace Gazetteer

/-! ## Successes -/

/-- A result that is mapped is a success of what it is mapped from. -/
theorem map_eq_ok_iff {ε α β : Type} {f : α → β} {x : Except ε α} {b : β} :
    x.map f = .ok b ↔ ∃ a, x = .ok a ∧ f a = b := by
  cases x <;> simp [Except.map]

theorem map_eq_error {ε α β : Type} {f : α → β} {x : Except ε α} {e : ε}
    (h : x.map f = .error e) : x = .error e := by
  cases x with
  | ok a => cases h
  | error e' =>
    cases h
    rfl

theorem mapError_ok {ε δ α : Type} (f : ε → δ) (a : α) : (Except.ok a).mapError f = .ok a := rfl

theorem mapError_error {ε δ α : Type} (f : ε → δ) (e : ε) :
    (Except.error e : Except ε α).mapError f = .error (f e) := rfl

theorem mapError_eq_ok_iff {ε δ α : Type} {f : ε → δ} {x : Except ε α} {a : α} :
    x.mapError f = .ok a ↔ x = .ok a := by
  cases x <;> simp [mapError_ok, mapError_error]

/-! ## Both paths -/

namespace LookupService

variable (service : LookupService) (turns : Retry.Turns (List Hit) (List Hit)) (query : String)
  (size : Option Nat)

/-- **A merged search has hits exactly when both of its paths have**, and then it has them merged.
Turns are not mentioned on the right side: they matter to nothing but the failure that is
reported. -/
theorem result_searchInTurns_eq_ok_iff (hits : List Hit) :
    (service.searchInTurns turns query size).result = .ok hits ↔
      ∃ structured suggested,
        (service.searchCourse (service.searchCall query (service.sizeOr size))).result =
          .ok structured ∧
        (service.suggestCourse (suggestCall query (service.sizeOr size))).result = .ok suggested ∧
        hits = (Hit.merge structured suggested).take (service.sizeOr size) := by
  simp only [searchInTurns]
  rw [map_eq_ok_iff]
  constructor
  · rintro ⟨found, hfound, rfl⟩
    obtain ⟨hfirst, hsecond⟩ := (Retry.race_result_eq_ok_iff _ _ _ found).mp hfound
    exact ⟨found.1, found.2, hfirst, hsecond, rfl⟩
  · rintro ⟨structured, suggested, hfirst, hsecond, rfl⟩
    exact ⟨(structured, suggested),
      (Retry.race_result_eq_ok_iff _ _ _ _).mpr ⟨hfirst, hsecond⟩, rfl⟩

/-- **A merged search fails with a failure of one of its paths**, of the one that ends first. -/
theorem result_searchInTurns_eq_error {failure : LookupFailure}
    (h : (service.searchInTurns turns query size).result = .error failure) :
    (service.searchCourse (service.searchCall query (service.sizeOr size))).result =
      .error failure ∨
      (service.suggestCourse (suggestCall query (service.sizeOr size))).result =
        .error failure := by
  simp only [searchInTurns] at h
  exact Retry.race_result_eq_error _ _ _ failure (map_eq_error h)

end LookupService

end Gazetteer

import Gazetteer.Retry.Race

/-!
# What a race ends with

Whose turn it is decides when a race ends and which failure it reports, but not whether it succeeds:
**two courses taken in turns succeed exactly when both courses do**, and then with both values
(`race_result_eq_ok_iff`). A failure of theirs is the failure of one of them
(`race_result_eq_error`), and no course calls more often than it would by itself (`race_calls_le`):
being past a step leaves the number of calls made and to be made as it is.

A call whose backend answers at once is a course of one step without a wait (`course_immediate`),
unless the answer is a failure that may be over soon.
-/

namespace Gazetteer.Retry

variable {α β : Type}

/-- A course that has failed has its failure as its result: a runner has failed when no steps are
left and the result is a failure. -/
theorem Runner.result_of_failure? {r : Runner α} {failure : LookupFailure}
    (h : r.failure? = some failure) : r.rest.result = .error failure := by
  unfold Runner.failure? at h
  split at h
  next hresult => rw [hresult, Option.some.inj h]
  next => cases h

theorem Runner.past_result (r : Runner α) (step : Step) (steps : List Step) :
    (r.past step steps).rest.result = r.rest.result := by
  rw [Runner.past]

/-- **Two courses in turns succeed exactly when both do**, with both values. The induction follows
the turns: whichever course goes on, its result is the one that it had. -/
theorem race_result_eq_ok_iff (turns : Turns α β) (a : Runner α) (b : Runner β) (v : α × β) :
    (race turns a b).result = .ok v ↔ a.rest.result = .ok v.1 ∧ b.rest.result = .ok v.2 := by
  fun_induction race turns a b with
  | case1 a b failure ha => simp [firstFailed, Runner.result_of_failure? ha]
  | case2 a b failure hb => simp [secondFailed, Runner.result_of_failure? hb]
  | case3 a b hb ha hstepsA hstepsB =>
    cases hva : a.rest.result with
    | error failure => simp [Runner.failure?, hstepsA, hva] at ha
    | ok va =>
      cases hvb : b.rest.result with
      | error failure => simp [Runner.failure?, hstepsB, hvb] at hb
      | ok vb =>
        have hboth : (bothEnded a b).result = .ok (va, vb) := by
          rw [bothEnded, hva, hvb]
          rfl
        simp [hboth, Prod.ext_iff]
  -- In the other cases one of the courses goes on, and what is left of it has the result that it
  -- had.
  | case4 a b ha hb step steps hstepsA hstepsB ih =>
    rw [ih, Runner.past_result]
  | case5 a b ha hb step steps hstepsA hstepsB ih =>
    rw [ih, Runner.past_result]
  | case6 a b ha hb stepA stepsA hstepsA stepB stepsB hstepsB hturn ih =>
    rw [ih, Runner.past_result]
  | case7 a b ha hb stepA stepsA hstepsA stepB stepsB hstepsB hturn ih =>
    rw [ih, Runner.past_result]

/-- **Two courses in turns fail with a failure of one of them.** Which one it is depends on the
turns, if both of them fail. -/
theorem race_result_eq_error (turns : Turns α β) (a : Runner α) (b : Runner β)
    (failure : LookupFailure) :
    (race turns a b).result = .error failure →
      a.rest.result = .error failure ∨ b.rest.result = .error failure := by
  fun_induction race turns a b with
  | case1 a b failure' ha =>
    intro h
    cases h
    exact Or.inl (Runner.result_of_failure? ha)
  | case2 a b failure' hb =>
    intro h
    cases h
    exact Or.inr (Runner.result_of_failure? hb)
  | case3 a b hb ha hstepsA hstepsB =>
    intro h
    cases hva : a.rest.result with
    | error failure' => simp [Runner.failure?, hstepsA, hva] at ha
    | ok va =>
      cases hvb : b.rest.result with
      | error failure' => simp [Runner.failure?, hstepsB, hvb] at hb
      | ok vb =>
        rw [bothEnded, hva, hvb] at h
        cases h
  -- In the other cases one of the courses goes on, and what is left of it has the result that it
  -- had.
  | case4 a b hb ha step steps hstepsA hstepsB ih => rwa [Runner.past_result] at ih
  | case5 a b hb ha step steps hstepsA hstepsB ih => rwa [Runner.past_result] at ih
  | case6 a b hb ha stepA stepsA stepB stepsB hstepsA hstepsB hturn ih =>
    rwa [Runner.past_result] at ih
  | case7 a b hb ha stepA stepsA stepB stepsB hstepsA hstepsB hturn ih =>
    rwa [Runner.past_result] at ih

/-! ## Calls -/

/-- The calls that a runner has made and those that it has left to make. No step changes this
number, so it bounds the calls made at any time. -/
def Runner.allCalls (r : Runner α) : Nat :=
  r.calls + r.rest.callCount

theorem Runner.allCalls_start (course : Course α) :
    (Runner.start course).allCalls = course.callCount :=
  Nat.zero_add _

/-- A step that is over leaves the number of calls as it is: a call that was to be made has been
made. -/
theorem Runner.allCalls_past {r : Runner α} {step : Step} {steps : List Step}
    (h : r.rest.steps = step :: steps) : (r.past step steps).allCalls = r.allCalls := by
  simp only [allCalls, past, Course.callCount, h, List.countP_cons]
  split <;> omega

theorem Runner.calls_le (r : Runner α) : r.calls ≤ r.allCalls :=
  Nat.le_add_right _ _

/-- Of the calls that have been begun the last may not be over, and it is still one of all calls. -/
theorem Runner.callsBegun_le (r : Runner α) : r.callsBegun ≤ r.allCalls := by
  unfold callsBegun
  split
  next step steps hsteps =>
    simp only [allCalls, Course.callCount, hsteps, List.countP_cons]
    split <;> omega
  next => exact r.calls_le

/-- **Neither course calls more often than it would by itself.** A race that ends early leaves calls
of the other course out, and adds none. -/
theorem race_calls_le (turns : Turns α β) (a : Runner α) (b : Runner β) :
    (race turns a b).firstCalls ≤ a.allCalls ∧ (race turns a b).secondCalls ≤ b.allCalls := by
  fun_induction race turns a b with
  | case1 a b failure ha =>
    refine ⟨a.calls_le, ?_⟩
    unfold firstFailed
    split
    · exact b.callsBegun_le
    · exact b.calls_le
  | case2 a b failure hb => exact ⟨a.callsBegun_le, b.calls_le⟩
  | case3 a b hb ha hstepsA hstepsB => exact ⟨a.calls_le, b.calls_le⟩
  | case4 a b hb ha step steps hstepsA hstepsB ih => rwa [Runner.allCalls_past hstepsA] at ih
  | case5 a b hb ha step steps hstepsA hstepsB ih => rwa [Runner.allCalls_past hstepsB] at ih
  | case6 a b hb ha stepA stepsA stepB stepsB hstepsA hstepsB hturn ih =>
    rwa [Runner.allCalls_past hstepsA] at ih
  | case7 a b hb ha stepA stepsA stepB stepsB hstepsA hstepsB hturn ih =>
    rwa [Runner.allCalls_past hstepsB] at ih

/-! ## Answers without a wait -/

/-- An answer without a wait is in time for every timeout. -/
theorem outcome_immediate (result : Except BackendFailure α) (timeout : Duration) :
    (Attempt.immediate result).outcome timeout =
      match result with
      | .ok value => .value value
      | .error cause => .failure cause := by
  have hexceeds : (Attempt.immediate result).exceeds timeout = false := by
    simp [Attempt.exceeds, Attempt.immediate, Duration.zero, Duration.toNanos]
  rw [Attempt.outcome, hexceeds]
  rfl

/-- A backend that answers at once is asked once, unless its failure may be over soon. This is the
case of the backend over an index, whose failures are there to stay. -/
theorem course_immediate (policy : Policy) (operation : Operation)
    {result : Except BackendFailure α}
    (h : ∀ cause, result = .error cause → cause.isTransient = false) :
    (course policy operation fun _ => Attempt.immediate result).result =
      result.mapError (LookupFailure.backend operation) := by
  have hlast : ∀ retries,
      (lastAttempt policy operation (Attempt.immediate result) retries).result =
        result.mapError (LookupFailure.backend operation) := by
    intro retries
    rw [lastAttempt, outcome_immediate]
    cases result <;> rfl
  rw [course]
  cases policy.maxRetries.toNat with
  | zero => exact hlast 0
  | succ left =>
    have hstops : ((Attempt.immediate result).outcome policy.timeout).mayRecover = false := by
      rw [outcome_immediate]
      cases result with
      | ok value => rfl
      | error cause => exact h cause rfl
    -- A retry is left, but the outcome is one that is not retried.
    rw [courseFrom]
    simp only [hstops, Bool.false_eq_true, if_false]
    exact hlast 0

end Gazetteer.Retry

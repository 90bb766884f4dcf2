import Gazetteer.Retry

/-!
# How a call ends

A call is over at the first attempt that no retry can better, or at the last one that the policy
allows (`EndsAt`). There is always one such attempt, and its outcome **is what the course of the
call reports, after one call, and a pause and a call again for each retry up to it**
(`exists_endsAt`, `EndsAt.course_eq`). So a course has a value exactly when its call ends with it
(`course_result_eq_ok_iff`), its failures bear the name of its operation (`course_result_eq_error`),
and a call is made at most once more than it may be retried (`course_callCount_le`).
-/

namespace Gazetteer

/-- The operation that has failed. -/
def LookupFailure.operation : LookupFailure → Operation
  | .backend operation _ => operation
  | .timedOut operation _ _ => operation

namespace Retry

variable {α : Type}

/-- **A call ends at an attempt**, counted from zero, with its outcome: all attempts before it were
worth another, and it is not, or it is the last one allowed. -/
structure EndsAt (policy : Policy) (attempts : Nat → Attempt α) (number : Nat)
    (ending : Outcome α) : Prop where
  outcome_eq : (attempts number).outcome policy.timeout = ending
  le_maxRetries : number ≤ policy.maxRetries.toNat
  retried : ∀ earlier < number, ((attempts earlier).outcome policy.timeout).mayRecover = true
  settled : ending.mayRecover = false ∨ number = policy.maxRetries.toNat

/-- A call does not end at an attempt and at a later one too: the first is final, and attempts
before the end are not. -/
theorem EndsAt.not_lt {policy : Policy} {attempts : Nat → Attempt α} {i j : Nat}
    {first second : Outcome α}
    (hi : EndsAt policy attempts i first) (hj : EndsAt policy attempts j second) : ¬ i < j := by
  intro hlt
  have hrecover := hj.retried i hlt
  rw [hi.outcome_eq] at hrecover
  cases hi.settled with
  | inl hfinal => exact absurd (hrecover.symm.trans hfinal) Bool.noConfusion
  | inr hlast => exact absurd hj.le_maxRetries (Nat.not_le_of_lt (hlast ▸ hlt))

/-- **A call ends at one attempt only**, and with one outcome. So the attempt at which a call ends
can be spoken of, and a course is determined by it. -/
theorem EndsAt.unique {policy : Policy} {attempts : Nat → Attempt α} {i j : Nat}
    {first second : Outcome α}
    (hi : EndsAt policy attempts i first) (hj : EndsAt policy attempts j second) :
    i = j ∧ first = second := by
  obtain rfl : i = j :=
    Nat.le_antisymm (Nat.not_lt.mp (hj.not_lt hi)) (Nat.not_lt.mp (hi.not_lt hj))
  exact ⟨rfl, hi.outcome_eq.symm.trans hj.outcome_eq⟩

/-- A failed outcome is reported under the name of its operation. -/
theorem Outcome.operation_of_result {policy : Policy} {operation : Operation} {attempts : UInt32}
    {outcome : Outcome α} {failure : LookupFailure}
    (h : outcome.result policy operation attempts = .error failure) :
    failure.operation = operation := by
  cases outcome with
  | value v => cases h
  | failure cause =>
    cases h
    rfl
  | timedOut =>
    cases h
    rfl

theorem Outcome.result_eq_ok_iff {policy : Policy} {operation : Operation} {attempts : UInt32}
    {outcome : Outcome α} {v : α} :
    outcome.result policy operation attempts = .ok v ↔ outcome = .value v := by
  cases outcome <;> simp [Outcome.result]

/-- A timeout is reported of an attempt that timed out, with the number given for it. -/
theorem Outcome.result_timedOut {policy : Policy} {operation : Operation} {attempts made : UInt32}
    {outcome : Outcome α} {timeout : Duration}
    (h : outcome.result policy operation attempts = .error (.timedOut operation timeout made)) :
    outcome = .timedOut ∧ made = attempts := by
  cases outcome with
  | value v => cases h
  | failure cause => cases h
  | timedOut =>
    cases h
    exact ⟨rfl, rfl⟩

/-! ## Steps -/

/-- A retry, counted from one: the pause before it and the call made again. -/
def retrySteps (policy : Policy) (attempts : Nat → Attempt α) (retry : Nat) : List Step :=
  [.pause (policy.delay (UInt32.ofNat retry)), .call ((attempts retry).awaited policy.timeout)]

/-- The steps from an attempt on, with so many retries after it. -/
def stepsFrom (policy : Policy) (attempts : Nat → Attempt α) (number further : Nat) : List Step :=
  .call ((attempts number).awaited policy.timeout) ::
    (List.range' (number + 1) further).flatMap (retrySteps policy attempts)

theorem stepsFrom_zero (policy : Policy) (attempts : Nat → Attempt α) (number : Nat) :
    stepsFrom policy attempts number 0 = [.call ((attempts number).awaited policy.timeout)] := rfl

/-- With one retry more the call is followed by a pause and by the steps from the next attempt
on. -/
theorem stepsFrom_succ (policy : Policy) (attempts : Nat → Attempt α) (number further : Nat) :
    stepsFrom policy attempts number (further + 1) =
      .call ((attempts number).awaited policy.timeout) ::
        .pause (policy.delay (UInt32.ofNat (number + 1))) ::
        stepsFrom policy attempts (number + 1) further := by
  simp only [stepsFrom, List.range'_succ, List.flatMap_cons, retrySteps, List.cons_append,
    List.nil_append]

/-- Every retry is one call more, and pauses are none. -/
theorem countP_isCall_stepsFrom (policy : Policy) (attempts : Nat → Attempt α)
    (number further : Nat) :
    (stepsFrom policy attempts number further).countP Step.isCall = further + 1 := by
  induction further generalizing number with
  | zero => rfl
  | succ further ih =>
    rw [stepsFrom_succ, List.countP_cons, List.countP_cons, ih]
    rfl

/-! ## The end -/

/-- A course from an attempt on ends so many attempts later. The induction is on the retries that
are left, and the count is a word that is read back as a number only at the end. -/
theorem courseFrom_ends (policy : Policy) (operation : Operation) (attempts : Nat → Attempt α)
    (left number : Nat) :
    ∃ further ≤ left,
      (∀ earlier < further,
        ((attempts (number + earlier)).outcome policy.timeout).mayRecover = true) ∧
      (((attempts (number + further)).outcome policy.timeout).mayRecover = false ∨ further = left) ∧
      courseFrom policy operation attempts left number (UInt32.ofNat number) =
        ⟨stepsFrom policy attempts number further,
          ((attempts (number + further)).outcome policy.timeout).result policy operation
            (UInt32.ofNat (number + further + 1))⟩ := by
  have hnext : ∀ n, UInt32.ofNat n + 1 = UInt32.ofNat (n + 1) :=
    fun n => (UInt32.ofNat_add n 1).symm
  induction left generalizing number with
  | zero =>
    refine ⟨0, Nat.le_refl 0, ?_, Or.inr rfl, ?_⟩
    · intro earlier h
      contradiction
    · simp only [courseFrom, lastAttempt, hnext, stepsFrom_zero, Nat.add_zero]
  | succ left ih =>
    cases hrecover : ((attempts number).outcome policy.timeout).mayRecover with
    | false =>
      refine ⟨0, Nat.zero_le _, ?_, Or.inl hrecover, ?_⟩
      · intro earlier h
        contradiction
      · simp only [courseFrom, hrecover, lastAttempt, hnext, stepsFrom_zero, Nat.add_zero,
          Bool.false_eq_true, if_false]
    | true =>
      -- The course goes on as that from the next attempt, and so it ends one attempt further.
      obtain ⟨further, hle, hretried, hover, hcourse⟩ := ih (number + 1)
      have hplace : ∀ k, number + 1 + k = number + (k + 1) :=
        fun k => Nat.succ_add_eq_add_succ number k
      simp only [hplace] at hretried hover hcourse
      refine ⟨further + 1, Nat.succ_le_succ hle, ?_, ?_, ?_⟩
      · intro earlier h
        cases earlier with
        | zero => exact hrecover
        | succ earlier => exact hretried earlier (Nat.lt_of_succ_lt_succ h)
      · exact hover.imp_right (congrArg Nat.succ)
      · simp only [courseFrom, hrecover, if_true, hnext, hcourse, stepsFrom_succ]

/-- **Every call ends at some attempt**, and that is what its course comes to. The loop goes by the
retries that are left, and so it is over after finitely many. -/
theorem exists_endsAt (policy : Policy) (operation : Operation) (attempts : Nat → Attempt α) :
    ∃ number ending, EndsAt policy attempts number ending ∧
      course policy operation attempts =
        ⟨stepsFrom policy attempts 0 number,
          ending.result policy operation (UInt32.ofNat (number + 1))⟩ := by
  obtain ⟨number, hle, hretried, hover, hcourse⟩ :=
    courseFrom_ends policy operation attempts policy.maxRetries.toNat 0
  simp only [Nat.zero_add] at hretried hover hcourse
  exact ⟨number, _, ⟨rfl, hle, hretried, hover⟩, hcourse⟩

variable {policy : Policy} {operation : Operation} {attempts : Nat → Attempt α}

/-- **A course takes the steps up to the attempt at which its call ends**, and reports how that
ended. What a course does follows from where its call ends, and this needs no induction any more. -/
theorem EndsAt.course_eq {number : Nat} {ending : Outcome α}
    (h : EndsAt policy attempts number ending) :
    course policy operation attempts =
      ⟨stepsFrom policy attempts 0 number,
        ending.result policy operation (UInt32.ofNat (number + 1))⟩ := by
  obtain ⟨number', ending', hends, hcourse⟩ := exists_endsAt policy operation attempts
  obtain ⟨rfl, rfl⟩ := hends.unique h
  exact hcourse

theorem EndsAt.callCount_eq {number : Nat} {ending : Outcome α}
    (h : EndsAt policy attempts number ending) :
    (course policy operation attempts).callCount = number + 1 := by
  rw [h.course_eq, Course.callCount, countP_isCall_stepsFrom]

/-- **A course has a value exactly when its call ends with it.** A failure and a timeout are never
reported as a value. -/
theorem course_result_eq_ok_iff {v : α} :
    (course policy operation attempts).result = .ok v ↔
      ∃ number, EndsAt policy attempts number (.value v) := by
  obtain ⟨number, ending, hends, hcourse⟩ := exists_endsAt policy operation attempts
  rw [hcourse, Outcome.result_eq_ok_iff]
  constructor
  · rintro rfl
    exact ⟨number, hends⟩
  · rintro ⟨number', hends'⟩
    exact (hends.unique hends').2

/-- **A failed course reports how its call ended**, under the name of the operation. -/
theorem course_result_eq_error {failure : LookupFailure}
    (h : (course policy operation attempts).result = .error failure) :
    ∃ number ending, EndsAt policy attempts number ending ∧
      ending.result policy operation (UInt32.ofNat (number + 1)) = .error failure ∧
      failure.operation = operation := by
  obtain ⟨number, ending, hends, hcourse⟩ := exists_endsAt policy operation attempts
  rw [hcourse] at h
  exact ⟨number, ending, hends, h, Outcome.operation_of_result h⟩

/-- **A call is made at most once more than it may be retried**, whatever the backend does. -/
theorem course_callCount_le :
    (course policy operation attempts).callCount ≤ policy.maxRetries.toNat + 1 := by
  obtain ⟨number, ending, hends, -⟩ := exists_endsAt policy operation attempts
  rw [hends.callCount_eq]
  exact Nat.succ_le_succ hends.le_maxRetries

end Retry

end Gazetteer

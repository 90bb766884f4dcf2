import Gazetteer.Proofs.Retry.Course

/-!
# What a call does, by the outcomes of its attempts

The attempts of a call have outcomes, and **the outcomes say all that the call does**
(`course_follows_outcomes`). The first that is final, a value or a failure that will not pass, ends
it, if the policy allows that many attempts: then that value or failure is the result. Otherwise the
last attempt allowed ends it, and its failure or the timeout is the result, with the number of all
attempts made. Before each retry there is the pause of its number, and there is no other.

The bound on the retries is for the number of attempts: it is kept in a word, and one more than the
greatest word would be none.
-/

namespace Gazetteer.Retry

variable {α : Type}

/-- How each attempt at a call ends, by its number. -/
def outcomes (policy : Policy) (attempts : Nat → Attempt α) (number : Nat) : Outcome α :=
  (attempts number).outcome policy.timeout

/-- **A final outcome**: a value, or a failure that is there to stay. -/
inductive Outcome.Final : Outcome α → Prop
  | value (v : α) : Final (.value v)
  | permanent {cause : BackendFailure} (h : cause.isTransient = false) : Final (.failure cause)

/-- A call is made again exactly after outcomes that are not final. The loop asks the latter; what a
call does is said by the former. -/
theorem Outcome.final_iff {outcome : Outcome α} : outcome.Final ↔ outcome.mayRecover = false := by
  constructor
  · rintro (v | h)
    · rfl
    · exact h
  · intro h
    cases outcome with
    | value v => exact .value v
    | failure cause => exact .permanent h
    | timedOut => cases h

theorem Outcome.not_final_iff {outcome : Outcome α} :
    ¬ outcome.Final ↔ outcome.mayRecover = true := by
  rw [final_iff, Bool.not_eq_false]

variable {policy : Policy} {attempts : Nat → Attempt α}

/-- A call ends with the first final outcome, where the policy allows so many attempts. None before
it is final, so that all of them are retried. -/
theorem endsAt_of_final {number : Nat} (hle : number ≤ policy.maxRetries.toNat)
    (hfinal : (outcomes policy attempts number).Final)
    (hearlier : ∀ earlier < number, ¬ (outcomes policy attempts earlier).Final) :
    EndsAt policy attempts number (outcomes policy attempts number) where
  outcome_eq := rfl
  le_maxRetries := hle
  retried earlier h := Outcome.not_final_iff.mp (hearlier earlier h)
  settled := Or.inl (Outcome.final_iff.mp hfinal)

/-- A call without a final outcome ends at the last attempt that the policy allows. -/
theorem endsAt_of_not_final
    (h : ∀ number ≤ policy.maxRetries.toNat, ¬ (outcomes policy attempts number).Final) :
    EndsAt policy attempts policy.maxRetries.toNat
      (outcomes policy attempts policy.maxRetries.toNat) where
  outcome_eq := rfl
  le_maxRetries := Nat.le_refl _
  retried earlier hlt := Outcome.not_final_iff.mp (h earlier (Nat.le_of_lt hlt))
  settled := Or.inr rfl

/-- **A call follows the outcomes of its attempts.** If the first final outcome comes while retries
are left, the call is made up to it and has its value or failure; if none does, the call is made
once and once for every retry, and has the failure of the last attempt, or has timed out after so
many attempts. Each retry follows the pause of its number, and nothing else is waited for.

Which outcomes there are is open: they are a function of the number of the attempt. The course is
given in full, as its steps and its result, so that neither a call nor a pause is left out of
account. -/
theorem course_follows_outcomes (policy : Policy) (operation : Operation)
    (attempts : Nat → Attempt α) (hbound : policy.maxRetries.toNat < 4294967295) :
    (∀ number ≤ policy.maxRetries.toNat, (outcomes policy attempts number).Final →
      (∀ earlier < number, ¬ (outcomes policy attempts earlier).Final) →
      (course policy operation attempts).callCount = number + 1 ∧
      (∀ v, outcomes policy attempts number = .value v →
        course policy operation attempts = ⟨stepsFrom policy attempts 0 number, .ok v⟩) ∧
      ∀ cause, outcomes policy attempts number = .failure cause →
        course policy operation attempts =
          ⟨stepsFrom policy attempts 0 number, .error (.backend operation cause)⟩) ∧
    ((∀ number ≤ policy.maxRetries.toNat, ¬ (outcomes policy attempts number).Final) →
      (course policy operation attempts).callCount = policy.maxRetries.toNat + 1 ∧
      (outcomes policy attempts policy.maxRetries.toNat = .timedOut →
        ∃ made : UInt32, made.toNat = policy.maxRetries.toNat + 1 ∧
          course policy operation attempts =
            ⟨stepsFrom policy attempts 0 policy.maxRetries.toNat,
              .error (.timedOut operation policy.timeout made)⟩) ∧
      ∀ cause, outcomes policy attempts policy.maxRetries.toNat = .failure cause →
        course policy operation attempts =
          ⟨stepsFrom policy attempts 0 policy.maxRetries.toNat,
            .error (.backend operation cause)⟩) := by
  constructor
  · intro number hle hfinal hearlier
    have hends := endsAt_of_final hle hfinal hearlier
    refine ⟨hends.callCount_eq, ?value, ?failure⟩
    case value =>
      intro v hvalue
      rw [hends.course_eq, hvalue]
      rfl
    case failure =>
      intro cause hcause
      rw [hends.course_eq, hcause]
      rfl
  -- No outcome is final, and the call ends with the last attempt allowed. Its number is the bound
  -- and one, which a word has to hold.
  · intro hnone
    have hends := endsAt_of_not_final hnone
    refine ⟨hends.callCount_eq, ?timedOut, ?failure⟩
    case timedOut =>
      intro htimedOut
      refine ⟨UInt32.ofNat (policy.maxRetries.toNat + 1), UInt32.toNat_ofNat_of_lt' ?_, ?_⟩
      · exact Nat.succ_lt_succ hbound
      · rw [hends.course_eq, htimedOut]
        rfl
    case failure =>
      intro cause hcause
      rw [hends.course_eq, hcause]
      rfl

/-- A policy with two retries, after a tenth of a second and after two. -/
def twoRetries : Policy where
  timeout := .ofMillis 20
  maxRetries := 2
  base := .ofMillis 100

/-- A backend that is not there at first, then slow, and then as it may be. -/
def slowStart (third : Attempt Nat) : Nat → Attempt Nat
  | 0 => .immediate (.error (.unavailable "warming up"))
  | 1 => ⟨.ofMillis 50, .ok 7⟩
  | _ => third

/-- After a failure that passes and a timeout, the third attempt decides: it has a value, or it is
slow again and the call has timed out after three. -/
theorem course_follows_outcomes_slowStart :
    twoRetries.maxRetries.toNat < 4294967295 ∧
      course twoRetries .addresses (slowStart (.immediate (.ok 7))) =
        ⟨[.call .zero, .pause (.ofMillis 100), .call (.ofMillis 20),
          .pause (.ofMillis 200), .call .zero],
          .ok 7⟩ ∧
      course twoRetries .addresses (slowStart ⟨.ofMillis 50, .ok 7⟩) =
        ⟨[.call .zero, .pause (.ofMillis 100), .call (.ofMillis 20), .pause (.ofMillis 200),
            .call (.ofMillis 20)],
          .error (.timedOut .addresses (.ofMillis 20) 3)⟩ := by
  have hbound : twoRetries.maxRetries.toNat < 4294967295 := by decide
  refine ⟨hbound, ?value, ?timedOut⟩
  case value =>
    have hvalue : outcomes twoRetries (slowStart (.immediate (.ok 7))) 2 = .value 7 := by
      decide
    have hearlier : ∀ earlier < 2,
        ¬ (outcomes twoRetries (slowStart (.immediate (.ok 7))) earlier).Final := by
      intro earlier hlt
      obtain rfl | rfl : earlier = 0 ∨ earlier = 1 := by omega
      all_goals exact Outcome.not_final_iff.mpr (by decide)
    have hsteps : stepsFrom twoRetries (slowStart (.immediate (.ok 7))) 0 2 =
        [.call .zero, .pause (.ofMillis 100), .call (.ofMillis 20), .pause (.ofMillis 200),
          .call .zero] := by
      decide
    have hfollows := (course_follows_outcomes twoRetries .addresses
      (slowStart (.immediate (.ok 7))) hbound).1 2 (Nat.le_refl 2) (hvalue ▸ .value 7) hearlier
    rw [hfollows.2.1 7 hvalue, hsteps]
  case timedOut =>
    have htimedOut : outcomes twoRetries (slowStart ⟨.ofMillis 50, .ok 7⟩) 2 = .timedOut := by
      decide
    have hnone :
        ∀ number ≤ 2, ¬ (outcomes twoRetries (slowStart ⟨.ofMillis 50, .ok 7⟩) number).Final := by
      intro number hle
      obtain rfl | rfl | rfl : number = 0 ∨ number = 1 ∨ number = 2 := by omega
      all_goals exact Outcome.not_final_iff.mpr (by decide)
    have hsteps :
      stepsFrom twoRetries (slowStart ⟨.ofMillis 50, .ok 7⟩) 0 twoRetries.maxRetries.toNat =
        [.call .zero, .pause (.ofMillis 100), .call (.ofMillis 20), .pause (.ofMillis 200),
          .call (.ofMillis 20)] := by
      decide
    have hfollows := (course_follows_outcomes twoRetries .addresses
      (slowStart ⟨.ofMillis 50, .ok 7⟩) hbound).2 hnone
    obtain ⟨made, hmade, hcourse⟩ := hfollows.2.1 htimedOut
    obtain rfl : made = 3 := UInt32.toNat_inj.mp hmade
    rw [hcourse, hsteps]
    rfl

end Gazetteer.Retry

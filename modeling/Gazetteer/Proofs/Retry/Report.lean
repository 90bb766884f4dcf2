import Gazetteer.Proofs.Retry.Schedule

/-!
# What a failure says about the attempts

A timeout says that no attempt was fast enough, and a backend's failure that it is there to stay, or
that no retry got past it (`LookupFailure.TrueOf`). A call keeps nothing of its earlier attempts: it
reports how the last one ended. So **the report is true of all attempts exactly if the last was
final or all of them ended in one way** (`failure_trueOf_iff`). Where timeouts and passing failures
are mixed it is not: a backend that is not there, and then slow, is said to have been too slow twice
(`not_trueOf_unavailable_then_slow`).
-/

namespace Gazetteer

namespace Retry

variable {α : Type}

/-- A failure that may be over at the next attempt. -/
inductive Outcome.Passing : Outcome α → Prop
  | failure {cause : BackendFailure} (h : cause.isTransient = true) : Passing (.failure cause)

end Retry

open Retry

variable {α : Type}

/-- **A failure is true of the attempts** up to a last one. A timeout: that they all timed out, and
so many of them. A backend's failure: that the last one failed with it, for good or as all of them
failed in passing. -/
def LookupFailure.TrueOf (ends : Nat → Outcome α) (last : Nat) : LookupFailure → Prop
  | .timedOut _ _ made => made.toNat = last + 1 ∧ ∀ number ≤ last, ends number = .timedOut
  | .backend _ cause =>
    ends last = .failure cause ∧
      (cause.isTransient = false ∨ ∀ number ≤ last, (ends number).Passing)

namespace Retry

/-- **The attempts give their call one reason to fail**: the last one failed for good, all failed in
passing, or all timed out and a word holds their number. -/
inductive OneReason (ends : Nat → Outcome α) (last : Nat) : Prop
  | permanent (h : (ends last).Final)
  | passing (h : ∀ number ≤ last, (ends number).Passing)
  | timedOut (h : ∀ number ≤ last, ends number = .timedOut) (hcount : last + 1 < 4294967296)

variable {policy : Policy} {operation : Operation} {ends : Nat → Outcome α} {last : Nat}

/-- A backend's failure is true of attempts that end with it if they give one reason, and only then:
a passing failure after a timeout is said of an attempt that had none. -/
theorem trueOf_backend_iff {cause : BackendFailure} (hlast : ends last = .failure cause) :
    (LookupFailure.backend operation cause).TrueOf ends last ↔ OneReason ends last := by
  constructor
  · rintro ⟨-, hpermanent | hpassing⟩
    · exact .permanent (hlast ▸ .permanent hpermanent)
    · exact .passing hpassing
  · rintro (hfinal | hpassing | ⟨htimedOut, -⟩)
    · rw [hlast] at hfinal
      obtain - | hpermanent := hfinal
      exact ⟨hlast, Or.inl hpermanent⟩
    · exact ⟨hlast, Or.inr hpassing⟩
    · cases hlast.symm.trans (htimedOut last (Nat.le_refl last))

/-- A timeout is true of attempts that end with one if they give one reason. That a word holds their
number is needed, for otherwise none are reported. -/
theorem trueOf_timedOut_iff {timeout : Duration} (hlast : ends last = .timedOut)
    (hle : last + 1 ≤ 4294967296) :
    (LookupFailure.timedOut operation timeout (UInt32.ofNat (last + 1))).TrueOf ends last ↔
      OneReason ends last := by
  have hcount : (UInt32.ofNat (last + 1)).toNat = last + 1 ↔ last + 1 < 4294967296 := by
    rw [UInt32.toNat_ofNat']
    omega
  constructor
  · rintro ⟨hmade, htimedOut⟩
    exact .timedOut htimedOut (hcount.mp hmade)
  · rintro (hfinal | hpassing | ⟨htimedOut, hfits⟩)
    · rw [hlast] at hfinal
      cases hfinal
    · have := hpassing last (Nat.le_refl last)
      rw [hlast] at this
      cases this
    · exact ⟨hcount.mpr hfits, htimedOut⟩

/-- **A failed call reports how its last attempt ended, and this is true of all attempts made
exactly if they give one reason.**

The loop keeps nothing of an attempt that it retries, so what it reports cannot depend on the
earlier ones. What a report says of them (`TrueOf`) then depends on whether they all went the way of
the last, or the last one was final and says nothing of the others. -/
theorem failure_trueOf_iff {attempts : Nat → Attempt α} {failure : LookupFailure}
    (h : (course policy operation attempts).result = .error failure) :
    ∃ last, (course policy operation attempts).callCount = last + 1 ∧
      (outcomes policy attempts last).result policy operation (UInt32.ofNat (last + 1)) =
        .error failure ∧
      (failure.TrueOf (outcomes policy attempts) last ↔
        OneReason (outcomes policy attempts) last) := by
  obtain ⟨last, ending, hends, hcourse⟩ := exists_endsAt policy operation attempts
  have hlast : outcomes policy attempts last = ending := hends.outcome_eq
  rw [hcourse] at h
  refine ⟨last, hends.callCount_eq, hlast ▸ h, ?_⟩
  cases ending with
  | value v => cases h
  | failure cause =>
    cases h
    exact trueOf_backend_iff hlast
  | timedOut =>
    cases h
    have hword := policy.maxRetries.toNat_lt
    exact trueOf_timedOut_iff hlast
      (Nat.succ_le_of_lt (Nat.lt_of_le_of_lt hends.le_maxRetries hword))

/-- A policy with one retry, after a thousandth of a second. -/
def oneRetry : Policy where
  timeout := .ofMillis 20
  maxRetries := 1
  base := .ofMillis 1

/-- A backend that is too slow, each time. -/
def alwaysSlow (_ : Nat) : Attempt Nat :=
  ⟨.ofMillis 50, .ok 7⟩

/-- Where both attempts are too slow, the timeout says so. -/
theorem failure_trueOf_iff_alwaysSlow :
    (course oneRetry .addresses alwaysSlow).result =
      .error (.timedOut .addresses (.ofMillis 20) 2) ∧
      (LookupFailure.timedOut .addresses (.ofMillis 20) 2).TrueOf
        (outcomes oneRetry alwaysSlow) 1 := by
  have hslow : ∀ number, outcomes oneRetry alwaysSlow number = .timedOut := by
    intro number
    have htooLong : (alwaysSlow 0).outcome oneRetry.timeout = .timedOut := by decide
    exact htooLong
  have hends : EndsAt oneRetry alwaysSlow 1 .timedOut := by
    refine ⟨hslow 1, Nat.le_refl 1, ?_, Or.inr rfl⟩
    intro earlier _
    exact congrArg Outcome.mayRecover (hslow earlier)
  have hresult : (course oneRetry .addresses alwaysSlow).result =
      .error (.timedOut .addresses (.ofMillis 20) 2) := by
    rw [hends.course_eq]
    rfl
  obtain ⟨last, hcalls, -, hiff⟩ := failure_trueOf_iff hresult
  obtain rfl : last = 1 := Nat.succ.inj (hcalls.symm.trans hends.callCount_eq)
  exact ⟨hresult, hiff.mpr (.timedOut (fun number _ => hslow number) (by decide))⟩

/-- A backend that is not there at first, and then too slow. -/
def unavailableThenSlow : Nat → Attempt Nat
  | 0 => .immediate (.error (.unavailable "down"))
  | _ => ⟨.ofMillis 50, .ok 7⟩

/-- A passing failure and then a timeout: two attempts are reported to have timed out, and one
has. -/
theorem not_trueOf_unavailable_then_slow :
    (course oneRetry .addresses unavailableThenSlow).result =
        .error (.timedOut .addresses (.ofMillis 20) 2) ∧
      (course oneRetry .addresses unavailableThenSlow).callCount = 2 ∧
      outcomes oneRetry unavailableThenSlow 0 = .failure (.unavailable "down") ∧
      ¬ (LookupFailure.timedOut .addresses (.ofMillis 20) 2).TrueOf
        (outcomes oneRetry unavailableThenSlow) 1 := by
  have hfirst : outcomes oneRetry unavailableThenSlow 0 = .failure (.unavailable "down") := by
    decide
  have hends : EndsAt oneRetry unavailableThenSlow 1 .timedOut := by
    refine ⟨by decide, Nat.le_refl 1, ?_, Or.inr rfl⟩
    intro earlier hlt
    obtain rfl : earlier = 0 := Nat.lt_one_iff.mp hlt
    exact congrArg Outcome.mayRecover hfirst
  refine ⟨?_, hends.callCount_eq, hfirst, ?_⟩
  · rw [hends.course_eq]
    rfl
  rintro ⟨-, htimedOut⟩
  cases hfirst.symm.trans (htimedOut 0 (Nat.zero_le 1))

end Retry

end Gazetteer

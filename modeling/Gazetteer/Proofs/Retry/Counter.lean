import Gazetteer.Proofs.Retry.Report

/-!
# The count of retries

A call counts its retries in a word. It adds one for each retry, and once more when it reports a
timeout. Each state that the call comes to (`Reaches`) has the number of its attempt in that word,
and this and the retries that are left make the bound (`Reaches.counted`). So a retry never carries
the count out of its word. The report may: **the count is right throughout, and the report has the
number of calls made, unless the bound is the greatest word and the call goes on up to a timeout at
the last attempt allowed** (`countsAttempts_iff`). That timeout is reported after no attempts
(`not_countsAttempts_greatestBound`).
-/

namespace Gazetteer.Retry

variable {α : Type} {policy : Policy} {attempts : Nat → Attempt α} {left number : Nat}
  {retries : UInt32}

/-- **A call comes to an attempt**, with so many retries left and a count of those made: at its
start, and after an attempt that another may better. -/
inductive Reaches (policy : Policy) (attempts : Nat → Attempt α) : Nat → Nat → UInt32 → Prop where
  | start : Reaches policy attempts policy.maxRetries.toNat 0 0
  | retry {left number : Nat} {retries : UInt32}
      (h : Reaches policy attempts (left + 1) number retries)
      (hrecover : (outcomes policy attempts number).mayRecover = true) :
      Reaches policy attempts left (number + 1) (retries + 1)

/-! ## What a retry keeps -/

theorem toNat_add_one_eq_iff :
    (retries + 1).toNat = retries.toNat + 1 ↔ retries.toNat < 4294967295 := by
  have hword := retries.toNat_lt
  rw [UInt32.toNat_add, UInt32.toNat_one]
  omega

/-- **While a retry is left, counting it is exact**: the count is below the bound, and the bound is
a word. -/
theorem toNat_add_one_of_left (hbound : number + (left + 1) = policy.maxRetries.toNat)
    (hcount : retries.toNat = number) : (retries + 1).toNat = number + 1 := by
  have hword := policy.maxRetries.toNat_lt
  rw [toNat_add_one_eq_iff.mpr (by omega), hcount]

/-- **The count is the number of the attempt**, and with the retries that are left it makes the
bound. Each retry takes one from these and adds one to the count, by the induction on how the
attempt was reached. -/
theorem Reaches.counted (h : Reaches policy attempts left number retries) :
    number + left = policy.maxRetries.toNat ∧ retries.toNat = number := by
  induction h with
  | start => exact ⟨Nat.zero_add _, rfl⟩
  | retry _ _ ih =>
    obtain ⟨hbound, hcount⟩ := ih
    exact ⟨by omega, toNat_add_one_of_left hbound hcount⟩

/-- All attempts before were worth another, or the call would have ended with one of them. -/
theorem Reaches.retried (h : Reaches policy attempts left number retries) :
    ∀ earlier < number, (outcomes policy attempts earlier).mayRecover = true := by
  induction h with
  | start =>
    intro earlier hlt
    contradiction
  | retry _ hrecover ih =>
    intro earlier hlt
    rcases Nat.lt_succ_iff_lt_or_eq.mp hlt with hbefore | rfl
    · exact ih earlier hbefore
    · exact hrecover

/-- **What is left of the course**, after one call for each attempt before. It ends as the whole
course does. -/
theorem Reaches.course_eq (h : Reaches policy attempts left number retries)
    (operation : Operation) :
    ∃ before, before.countP Step.isCall = number ∧
      course policy operation attempts =
        ⟨before ++ (courseFrom policy operation attempts left number retries).steps,
          (courseFrom policy operation attempts left number retries).result⟩ := by
  induction h with
  | start => exact ⟨[], rfl, rfl⟩
  | @retry left number retries _ hrecover ih =>
    obtain ⟨before, hcalls, hcourse⟩ := ih
    rw [outcomes] at hrecover
    refine ⟨before ++ [.call ((attempts number).awaited policy.timeout),
      .pause (policy.delay (retries + 1))], ?_, ?_⟩
    · rw [List.countP_append, hcalls]
      rfl
    · rw [hcourse, courseFrom, if_pos hrecover, List.append_assoc]
      rfl

/-- **Every call comes to a last attempt**: none may better it, or no retry is left. The induction
is on the retries that are left. -/
theorem Reaches.exists_last (h : Reaches policy attempts left number retries)
    (operation : Operation) :
    ∃ left number retries, Reaches policy attempts left number retries ∧
      ((outcomes policy attempts number).mayRecover = false ∨ left = 0) ∧
      courseFrom policy operation attempts left number retries =
        lastAttempt policy operation (attempts number) retries := by
  induction left generalizing number retries with
  | zero => exact ⟨0, number, retries, h, Or.inr rfl, rfl⟩
  | succ left ih =>
    cases hrecover : (outcomes policy attempts number).mayRecover with
    | true => exact ih (h.retry hrecover)
    | false =>
      refine ⟨left + 1, number, retries, h, Or.inl hrecover, ?_⟩
      rw [outcomes] at hrecover
      rw [courseFrom, if_neg (by rw [hrecover]; exact Bool.false_ne_true)]

/-! ## The count and the report -/

/-- **One is added to the count** at an attempt: for a retry that is left, or for the report of a
timeout. -/
def Adds (policy : Policy) (attempts : Nat → Attempt α) (left number : Nat) : Prop :=
  0 < left ∧ (outcomes policy attempts number).mayRecover = true ∨
    left = 0 ∧ outcomes policy attempts number = .timedOut

/-- **A call counts its attempts right**: no addition leaves the word, and the number in the report
of a timeout is that of the calls made. -/
structure CountsAttempts (policy : Policy) (operation : Operation) (attempts : Nat → Attempt α) :
    Prop where
  additions : ∀ left number retries, Reaches policy attempts left number retries →
    Adds policy attempts left number →
    (retries + 1).toNat = retries.toNat + 1
  reported : ∀ timeout made,
    (course policy operation attempts).result = .error (.timedOut operation timeout made) →
      made.toNat = (course policy operation attempts).callCount

/-- The attempts of a call outlast its word: the bound on its retries is the greatest word, each
attempt is worth another, and the last one allowed times out. -/
structure OutlastsWord (policy : Policy) (attempts : Nat → Attempt α) : Prop where
  greatest : policy.maxRetries.toNat = 4294967295
  retried : ∀ number < 4294967295, (outcomes policy attempts number).mayRecover = true
  timedOut : outcomes policy attempts 4294967295 = .timedOut

variable {operation : Operation}

/-- Each addition stays in its word, but the one for the report after the last attempt that a word
can count. -/
theorem Reaches.toNat_add_one (h : Reaches policy attempts left number retries)
    (hadds : Adds policy attempts left number) (hfits : ¬ OutlastsWord policy attempts) :
    (retries + 1).toNat = retries.toNat + 1 := by
  obtain ⟨hbound, hcount⟩ := h.counted
  rcases hadds with ⟨hleft, -⟩ | ⟨rfl, htimedOut⟩
  · obtain ⟨left, rfl⟩ := Nat.exists_eq_add_one.mpr hleft
    rw [toNat_add_one_of_left hbound hcount, hcount]
  · rw [toNat_add_one_eq_iff, hcount]
    refine Nat.lt_of_not_le fun hlast => ?_
    have hword := policy.maxRetries.toNat_lt
    obtain rfl : number = 4294967295 := by omega
    exact hfits ⟨hbound.symm, h.retried, htimedOut⟩

/-- **A timeout is reported with the count, and one added**, as it stands at the last attempt. No
retry is left then, for a timeout is worth another attempt. -/
theorem exists_last_of_timedOut {timeout : Duration} {made : UInt32}
    (h : (course policy operation attempts).result = .error (.timedOut operation timeout made)) :
    ∃ number retries, Reaches policy attempts 0 number retries ∧
    outcomes policy attempts number = .timedOut ∧
      made = retries + 1 ∧ (course policy operation attempts).callCount = number + 1 := by
  have hstart : Reaches policy attempts policy.maxRetries.toNat 0 0 := .start
  obtain ⟨left, number, retries, hreaches, hlast, hcourse⟩ := hstart.exists_last operation
  obtain ⟨before, hcalls, hwhole⟩ := hreaches.course_eq operation
  rw [hcourse] at hwhole
  have hresult : (outcomes policy attempts number).result policy operation (retries + 1) =
      .error (.timedOut operation timeout made) := by
    rw [hwhole] at h
    exact h
  obtain ⟨htimedOut, hmade⟩ := Outcome.result_timedOut hresult
  obtain rfl : left = 0 := by
    refine hlast.resolve_left ?_
    rw [htimedOut]
    exact Bool.noConfusion
  refine ⟨number, retries, hreaches, htimedOut, hmade, ?_⟩
  rw [hwhole, Course.callCount, List.countP_append, hcalls]
  rfl

/-- **A call counts its attempts right unless they outlast its word.** Where they do, the addition
for the report is the one that fails; where they do not, every addition is exact and the report is
the number of calls.

Additions for retries are exact in any case, as there is a retry left for each of them and the bound
on retries is a word itself. The report adds one to the number of retries made, which may be the
bound. -/
theorem countsAttempts_iff (policy : Policy) (operation : Operation) (attempts : Nat → Attempt α) :
    CountsAttempts policy operation attempts ↔ ¬ OutlastsWord policy attempts := by
  constructor
  · intro hcounts hword
    have hstart : Reaches policy attempts policy.maxRetries.toNat 0 0 := .start
    obtain ⟨left, number, retries, hreaches, hlast, -⟩ := hstart.exists_last operation
    obtain ⟨hbound, hcount⟩ := hreaches.counted
    rw [hword.greatest] at hbound
    -- No attempt ends the call before the last one allowed.
    have hrecover : (outcomes policy attempts number).mayRecover = true := by
      by_cases hbefore : number < 4294967295
      · exact hword.retried number hbefore
      · obtain rfl : number = 4294967295 := by omega
        exact congrArg Outcome.mayRecover hword.timedOut
    obtain rfl : left = 0 := hlast.resolve_left (by rw [hrecover]; exact Bool.noConfusion)
    obtain rfl : number = 4294967295 := hbound
    have hadded := hcounts.additions 0 _ retries hreaches (Or.inr ⟨rfl, hword.timedOut⟩)
    rw [toNat_add_one_eq_iff, hcount] at hadded
    exact Nat.lt_irrefl _ hadded
  · intro hfits
    refine ⟨fun _ _ _ hreaches hadds => hreaches.toNat_add_one hadds hfits,
      fun timeout made hresult => ?_⟩
    obtain ⟨number, retries, hreaches, htimedOut, rfl, hcalls⟩ := exists_last_of_timedOut hresult
    rw [hcalls, hreaches.toNat_add_one (Or.inr ⟨rfl, htimedOut⟩) hfits, hreaches.counted.2]

/-- Settings that allow as many retries as a word can say, without pauses. -/
def greatestBound : Settings :=
  { timeoutMillis := 20, maxRetries := 4294967295, retryBaseMillis := 0 }

/-- With the greatest bound a backend that is always too slow is called 4294967296 times, and the
report has none. -/
theorem not_countsAttempts_greatestBound :
    (course (.ofSettings greatestBound) .addresses alwaysSlow).result =
        .error (.timedOut .addresses (.ofMillis 20) 0) ∧
      (course (.ofSettings greatestBound) .addresses alwaysSlow).callCount = 4294967296 ∧
      ¬ CountsAttempts (.ofSettings greatestBound) .addresses alwaysSlow := by
  have hslow : ∀ number, outcomes (.ofSettings greatestBound) alwaysSlow number = .timedOut := by
    intro number
    have htooLong : (alwaysSlow 0).outcome (.ofMillis 20) = .timedOut := by decide
    exact htooLong
  have hbound : (Policy.ofSettings greatestBound).maxRetries.toNat = 4294967295 := rfl
  have hends : EndsAt (.ofSettings greatestBound) alwaysSlow 4294967295 .timedOut := by
    refine ⟨hslow _, Nat.le_of_eq hbound.symm, ?_, Or.inr hbound.symm⟩
    intro earlier _
    exact congrArg Outcome.mayRecover (hslow earlier)
  have hresult : (course (.ofSettings greatestBound) .addresses alwaysSlow).result =
      .error (.timedOut .addresses (.ofMillis 20) 0) := by
    rw [hends.course_eq]
    rfl
  refine ⟨hresult, hends.callCount_eq, fun hcounts => ?_⟩
  have hmade := hcounts.reported _ _ hresult
  rw [hends.callCount_eq] at hmade
  cases hmade

end Gazetteer.Retry

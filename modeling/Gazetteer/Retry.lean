import Gazetteer.Failure
import Gazetteer.Settings

/-!
# Retrying a call

A call to a backend is made again while it fails transiently or takes too long, up to a number of
retries, with a pause before each that doubles from one to the next. What an attempt would give is a
function of its number, so that the whole course of a call, its steps and its result, is a function
too.
-/

namespace Gazetteer

/-- The two calls that a backend answers. -/
inductive Operation where
  | addresses
  | suggest
deriving DecidableEq

/-- The name of an operation. -/
def Operation.name : Operation → String
  | .addresses => "addresses"
  | .suggest => "suggest"

/-- Why a lookup has no result. -/
inductive LookupFailure where
  | backend (operation : Operation) (cause : BackendFailure)
  | timedOut (operation : Operation) (timeout : Duration) (attempts : UInt32)
deriving DecidableEq

/-- The sentence for a failed lookup. -/
def LookupFailure.message : LookupFailure → String
  | .backend operation cause => operation.name ++ " failed: " ++ cause.message
  | .timedOut operation timeout attempts =>
    operation.name ++ " timed out after " ++ toString attempts.toNat ++
      " attempt(s) of " ++ timeout.text

namespace Retry

/-- How patient a call is. -/
structure Policy where
  timeout : Duration
  maxRetries : UInt32
  base : Duration

namespace Policy

/-- The policy of some settings. -/
def ofSettings (s : Settings) : Policy where
  timeout := .ofMillis s.timeoutMillis
  maxRetries := s.maxRetries
  base := .ofMillis s.retryBaseMillis

/-- The doublings after which pauses stop growing. -/
def mostDoublings : UInt32 := 16

/-- How often the pause before a retry has doubled; retries are counted from one. -/
def doublings (retry : UInt32) : UInt32 :=
  min (if retry = 0 then 0 else retry - 1) mostDoublings

/-- **The pause before a retry.** -/
def delay (policy : Policy) (retry : UInt32) : Duration :=
  policy.base.times (1 <<< doublings retry)

end Policy

/-- What an attempt would give, and after how long. -/
structure Attempt (α : Type) where
  lasting : Duration
  result : Except BackendFailure α

/-- An attempt without any wait. -/
def Attempt.immediate {α : Type} (result : Except BackendFailure α) : Attempt α :=
  ⟨.zero, result⟩

/-- How an attempt ends. -/
inductive Outcome (α : Type) where
  | value (value : α)
  | failure (cause : BackendFailure)
  | timedOut
deriving DecidableEq

/-- Whether an attempt takes longer than it may. -/
def Attempt.exceeds {α : Type} (a : Attempt α) (timeout : Duration) : Bool :=
  decide (timeout.toNanos < a.lasting.toNanos)

/-- How an attempt ends under a timeout. -/
def Attempt.outcome {α : Type} (a : Attempt α) (timeout : Duration) : Outcome α :=
  if a.exceeds timeout then .timedOut
  else match a.result with
    | .ok value => .value value
    | .error cause => .failure cause

/-- How long an attempt is waited for. -/
def Attempt.awaited {α : Type} (a : Attempt α) (timeout : Duration) : Duration :=
  if a.exceeds timeout then timeout else a.lasting

/-- One step of a course. -/
inductive Step where
  | call (lasting : Duration)
  | pause (lasting : Duration)
deriving DecidableEq

/-- How long a step takes. -/
def Step.lasting : Step → Duration
  | .call lasting => lasting
  | .pause lasting => lasting

/-- Whether a step calls the backend. -/
def Step.isCall : Step → Bool
  | .call _ => true
  | .pause _ => false

/-- What a call does and how it ends. -/
structure Course (α : Type) where
  steps : List Step
  result : Except LookupFailure α

/-- How many times a course calls the backend. -/
def Course.callCount {α : Type} (course : Course α) : Nat :=
  course.steps.countP Step.isCall

/-- How long a course takes, in nanoseconds. -/
def Course.span {α : Type} (course : Course α) : Nat :=
  Number.total (course.steps.map fun step => step.lasting.toNanos)

/-- Whether another attempt may end better. -/
def Outcome.mayRecover {α : Type} : Outcome α → Bool
  | .value _ => false
  | .failure cause => cause.isTransient
  | .timedOut => true

/-- The result of a call whose last attempt, with this number counted from one, ended so. -/
def Outcome.result {α : Type} (policy : Policy) (operation : Operation) (attempts : UInt32) :
    Outcome α → Except LookupFailure α
  | .value v => .ok v
  | .failure cause => .error (.backend operation cause)
  | .timedOut => .error (.timedOut operation policy.timeout attempts)

/-- The course that ends with an attempt. -/
def lastAttempt {α : Type} (policy : Policy) (operation : Operation) (attempt : Attempt α)
    (retries : UInt32) : Course α where
  steps := [.call (attempt.awaited policy.timeout)]
  result := (attempt.outcome policy.timeout).result policy operation (retries + 1)

/-- The course from an attempt on, when so many retries are left and so many have been made. -/
def courseFrom {α : Type} (policy : Policy) (operation : Operation) (attempts : Nat → Attempt α) :
    Nat → Nat → UInt32 → Course α
  | 0, number, retries => lastAttempt policy operation (attempts number) retries
  | left + 1, number, retries =>
    let attempt := attempts number
    if (attempt.outcome policy.timeout).mayRecover then
      let rest := courseFrom policy operation attempts left (number + 1) (retries + 1)
      { rest with
        steps := .call (attempt.awaited policy.timeout) ::
          .pause (policy.delay (retries + 1)) :: rest.steps }
    else lastAttempt policy operation attempt retries

/-- **The course of a call.** -/
def course {α : Type} (policy : Policy) (operation : Operation) (attempts : Nat → Attempt α) :
    Course α :=
  courseFrom policy operation attempts policy.maxRetries.toNat 0 0

end Retry

end Gazetteer

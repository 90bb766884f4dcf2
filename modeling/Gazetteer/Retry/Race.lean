import Gazetteer.Retry

/-!
# Two calls side by side

Two courses are taken at the same time, in turns of one step. The first failure ends both; otherwise
both are taken to their ends. Whose turn it is may depend on everything that has happened; on a
clock it is the one whose step ends earlier, and the first one's if they end together.
-/

namespace Gazetteer.Retry

/-- One of two courses. -/
inductive Side where
  | first
  | second
deriving DecidableEq

/-- A course that is under way: when the steps behind it were over, how many of these called, and
what is left of it. -/
structure Runner (α : Type) where
  clock : Nat
  calls : Nat
  rest : Course α

namespace Runner

variable {α : Type}

/-- At the start of a course. -/
def start (course : Course α) : Runner α :=
  ⟨0, 0, course⟩

/-- When a step ends that begins now. -/
def stepEnd (r : Runner α) (step : Step) : Nat :=
  r.clock + step.lasting.toNanos

/-- Past a step. -/
def past (r : Runner α) (step : Step) (steps : List Step) : Runner α where
  clock := r.stepEnd step
  calls := if step.isCall then r.calls + 1 else r.calls
  rest := { r.rest with steps }

/-- The calls made if the course is broken off, the step that has begun included. -/
def callsBegun (r : Runner α) : Nat :=
  match r.rest.steps with
  | step :: _ => if step.isCall then r.calls + 1 else r.calls
  | [] => r.calls

/-- The failure that the course has ended with. -/
def failure? (r : Runner α) : Option LookupFailure :=
  match r.rest.steps, r.rest.result with
  | [], .error failure => some failure
  | _, _ => none

end Runner

/-- How two courses end. -/
structure Finish (α β : Type) where
  result : Except LookupFailure (α × β)
  instant : Nat
  firstCalls : Nat
  secondCalls : Nat

/-- Whose turn it is, by what both have done and have left to do. -/
abbrev Turns (α β : Type) := Runner α → Runner β → Side

/-- The first course has failed. The second one's step has begun if it began before. -/
def firstFailed {α β : Type} (a : Runner α) (b : Runner β) (failure : LookupFailure) :
    Finish α β where
  result := .error failure
  instant := a.clock
  firstCalls := a.calls
  secondCalls := if b.clock < a.clock then b.callsBegun else b.calls

/-- The second course has failed. The first one's step has always begun. -/
def secondFailed {α β : Type} (a : Runner α) (b : Runner β) (failure : LookupFailure) :
    Finish α β where
  result := .error failure
  instant := b.clock
  firstCalls := a.callsBegun
  secondCalls := b.calls

/-- Both courses have been taken to their ends. -/
def bothEnded {α β : Type} (a : Runner α) (b : Runner β) : Finish α β where
  result := do return (← a.rest.result, ← b.rest.result)
  instant := max a.clock b.clock
  firstCalls := a.calls
  secondCalls := b.calls

/-- **Taking two courses in turns.** -/
def race {α β : Type} (turns : Turns α β) (a : Runner α) (b : Runner β) : Finish α β :=
  match a.failure?, b.failure? with
  | some failure, _ => firstFailed a b failure
  | none, some failure => secondFailed a b failure
  | none, none =>
    match _ha : a.rest.steps, _hb : b.rest.steps with
    | [], [] => bothEnded a b
    | step :: steps, [] => race turns (a.past step steps) b
    | [], step :: steps => race turns a (b.past step steps)
    | stepA :: stepsA, stepB :: stepsB =>
      match turns a b with
      | .first => race turns (a.past stepA stepsA) b
      | .second => race turns a (b.past stepB stepsB)
termination_by a.rest.steps.length + b.rest.steps.length
decreasing_by all_goals simp [Runner.past, _ha, _hb]

/-- The turns on a clock. -/
def earlierFirst {α β : Type} : Turns α β := fun a b =>
  match a.rest.steps, b.rest.steps with
  | stepA :: _, stepB :: _ => if b.stepEnd stepB < a.stepEnd stepA then .second else .first
  | _, _ => .first

end Gazetteer.Retry

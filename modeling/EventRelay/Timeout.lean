import EventRelay.Timer

/-!
# Timeouts

Work is given a limit, and a timer tells when it ends. Work that takes exactly as
long is in time.
-/

namespace EventRelay

namespace Timeout

/-- How limited work ends. -/
inductive Ending
  | completed
  | elapsed
  deriving DecidableEq, Repr

/-- The label that endings are counted under. -/
def Ending.label : Ending → String
  | .completed => "completed"
  | .elapsed => "elapsed"

/-- How work ends that sleeps for so many milliseconds, or for ever. -/
def ending (limit : Duration) : Option Nat → Ending
  | some millis =>
      if Timer.sleepSpan millis ≤ limit.roundedMillis then .completed else .elapsed
  | none => .elapsed

/-- What is said of work that was not done within its limit. -/
def message (limit : Duration) : String :=
  "Operation timed out after " ++ limit.toText

theorem ending_eq_completed_iff {limit : Duration} {work : Option Nat} :
    ending limit work = .completed ↔
      ∃ millis, work = some millis ∧ Timer.sleepSpan millis ≤ limit.roundedMillis := by
  cases work <;> simp [ending]

end Timeout

end EventRelay

import EventRelay.Signal
import EventRelay.Timer

/-!
# A clock that is told to pass

Simulated time is counted in whole milliseconds and passes only when something
waits. A signal may be due at a later moment; it is given when time gets there.
-/

namespace EventRelay.Simulation

/-- Simulated time, with a shutdown signal. -/
structure Clock where
  /-- The milliseconds passed so far. -/
  now : Nat := 0
  /-- Whether the signal has been given. -/
  given : Bool := false
  /-- When the signal will be given. -/
  due : Option Nat := none
  deriving DecidableEq, Repr

namespace Clock

/-- A clock that starts. -/
def start : Clock := { now := 0 }

/-- Give the signal. -/
def trigger (clock : Clock) : Clock :=
  { clock with given := true }

/-- Have the signal given after so many milliseconds, if not before. -/
def schedule (clock : Clock) (millis : Nat) : Clock :=
  let moment := clock.now + Timer.sleepSpan millis
  { clock with due := some (clock.due.elim moment (min moment)) }

/-- Have no signal given later. -/
def cancel (clock : Clock) : Clock :=
  { clock with due := none }

/-- Let time pass up to a moment. -/
def passTo (clock : Clock) (moment : Nat) : Clock :=
  match clock.due with
  | some due =>
      if due ≤ moment then { now := moment, given := true } else { clock with now := moment }
  | none => { clock with now := moment }

/-- Sleep for so many milliseconds. -/
def sleep (clock : Clock) (millis : Nat) : Clock :=
  if millis = 0 then clock else clock.passTo (clock.now + Timer.sleepSpan millis)

/-- Let time pass up to a moment, unless the signal is given first. -/
def waitUntil (clock : Clock) (moment : Nat) : Pause × Clock :=
  if clock.given then (.interrupted, clock)
  else
    match clock.due with
    | some due =>
        if due < moment then (.interrupted, clock.passTo due) else (.elapsed, clock.passTo moment)
    | none => (.elapsed, clock.passTo moment)

/-- Sleep for so many milliseconds, unless the signal is given first. What takes no
time is never interrupted. -/
def wait (clock : Clock) (millis : Nat) : Pause × Clock :=
  if millis = 0 then (.elapsed, clock)
  else clock.waitUntil (clock.now + Timer.sleepSpan millis)

/-- The signal of a clock, for those who heed it and those who do not. -/
def signal (heeding : Bool) : Signal Clock where
  isTriggered clock := (heeding && clock.given, clock)
  pause duration clock :=
    if heeding then clock.wait duration.roundedMillis
    else (.elapsed, clock.sleep duration.roundedMillis)

@[simp]
theorem now_passTo (clock : Clock) (moment : Nat) : (clock.passTo moment).now = moment := by
  unfold passTo
  split <;> try split
  all_goals rfl

/-- A signal once given stays given. -/
theorem given_passTo {clock : Clock} (given : clock.given) (moment : Nat) :
    (clock.passTo moment).given := by
  unfold passTo
  split <;> try split
  all_goals first | exact given | rfl

theorem now_sleep (clock : Clock) (millis : Nat) :
    (clock.sleep millis).now = clock.now + Timer.sleepSpan millis := by
  unfold sleep
  split <;> simp_all

/-- Nothing due before the end of a wait interrupts it. -/
theorem wait_eq_elapsed {clock : Clock} (idle : clock.given = false) (quiet : clock.due = none)
    (millis : Nat) : clock.wait millis = (.elapsed, clock.sleep millis) := by
  unfold wait waitUntil sleep
  split <;> simp_all

end Clock

end EventRelay.Simulation

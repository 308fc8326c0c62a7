import EventRelay.Duration

/-!
# Timers

Clocks tell whole milliseconds, so a timer goes off with the millisecond that
its duration reaches into. Nothing sleeps longer than thirty years; a limit on
something else may lie further ahead.
-/

namespace EventRelay

/-- The whole milliseconds that a duration fills or reaches into. -/
def Duration.roundedMillis (duration : Duration) : Nat :=
  (duration.nanos + 999999) / 1000000

/-- The end of a duration is never told too early. -/
theorem Duration.nanos_le_roundedMillis (duration : Duration) :
    duration.nanos ≤ duration.roundedMillis * 1000000 := by
  unfold roundedMillis
  omega

@[simp]
theorem Duration.roundedMillis_ofMillis (millis : UInt64) :
    (ofMillis millis).roundedMillis = millis.toNat := by
  simp only [roundedMillis, ofMillis]
  omega

namespace Timer

/-- The milliseconds of the longest sleep: thirty years of 365 days. -/
def longestSleep : Nat := 946080000000

/-- How many milliseconds a sleep takes that is to take so many. -/
def sleepSpan (millis : Nat) : Nat :=
  min millis longestSleep

theorem sleepSpan_le (millis : Nat) : sleepSpan millis ≤ millis :=
  Nat.min_le_left _ _

/-- Sleeps within thirty years take as long as they are to take. -/
theorem sleepSpan_eq_self_iff {millis : Nat} :
    sleepSpan millis = millis ↔ millis ≤ longestSleep := by
  unfold sleepSpan
  omega

@[simp]
theorem sleepSpan_eq_zero_iff {millis : Nat} : sleepSpan millis = 0 ↔ millis = 0 := by
  simp only [sleepSpan, longestSleep]
  omega

end Timer

end EventRelay

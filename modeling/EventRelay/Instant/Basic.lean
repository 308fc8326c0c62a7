import EventRelay.Instant.Calendar

/-!
# Instants

An instant counts seconds and nanoseconds from the start of 1970 in universal
time. A leap second prolongs the last second of a minute: its nanoseconds run on
past one thousand million.
-/

namespace EventRelay

/-- A point in universal time. -/
structure Instant where
  /-- Seconds since the start of 1970. -/
  seconds : Int
  /-- Nanoseconds since that second began. -/
  nanos : Nat
  /-- The instant lies in a year that has dates. -/
  inRange : -8334601228800 ≤ seconds ∧ seconds ≤ 8210266876799
  /-- Only the last second of a minute may be prolonged by a leap second. -/
  nanos_lt : nanos < 1000000000 ∨ (nanos < 2000000000 ∧ seconds % 60 = 59)
  deriving DecidableEq, Repr

namespace Instant

/-- The instant with the given seconds and nanoseconds, if there is one. -/
def ofParts? (seconds : Int) (nanos : Nat) : Option Instant :=
  if inRange : -8334601228800 ≤ seconds ∧ seconds ≤ 8210266876799 then
    if nanos_lt : nanos < 1000000000 ∨ (nanos < 2000000000 ∧ seconds % 60 = 59) then
      some ⟨seconds, nanos, inRange, nanos_lt⟩
    else none
  else none

/-- The start of 1970. -/
def epoch : Instant := ⟨0, 0, by decide, by decide⟩

instance : Inhabited Instant := ⟨epoch⟩

/-- The instant so many milliseconds after the start of 1970, if there is one. -/
def ofMillis? (millis : Int) : Option Instant :=
  ofParts? (millis / 1000) ((millis % 1000).toNat * 1000000)

/-- The date in universal time. -/
def date (instant : Instant) : Date :=
  Date.ofNumber (instant.seconds / 86400)

/-- The second of the day in universal time. -/
def secondOfDay (instant : Instant) : Nat :=
  (instant.seconds % 86400).toNat

theorem ofParts?_eq_some_iff {seconds : Int} {nanos : Nat} {instant : Instant} :
    ofParts? seconds nanos = some instant ↔
      instant.seconds = seconds ∧ instant.nanos = nanos := by
  obtain ⟨itsSeconds, itsNanos, inRange, nanos_lt⟩ := instant
  constructor
  · intro read
    unfold ofParts? at read
    split at read
    · split at read
      · simp only [Option.some.injEq, Instant.mk.injEq] at read
        exact ⟨read.1.symm, read.2.symm⟩
      · contradiction
    · contradiction
  · rintro ⟨rfl, rfl⟩
    simp [ofParts?, inRange, nanos_lt]

end Instant

end EventRelay

import EventRelay.Decimal.Integer

/-!
# Durations

A duration is a number of nanoseconds, and no duration is longer than the last
nanosecond before `2^64` seconds. Sums and multiples stop at that bound.
-/

namespace EventRelay

/-- How many nanoseconds the longest duration has. -/
def longestNanos : Nat := UInt64.size * 1000000000 - 1

/-- A span of time. -/
structure Duration where
  /-- Its nanoseconds. -/
  nanos : Nat
  /-- They stay below `2^64` seconds. -/
  nanos_le : nanos ≤ longestNanos
  deriving DecidableEq, Repr

namespace Duration

/-- The duration of so many nanoseconds, or the longest where these are too many. -/
def ofNanos (nanos : Nat) : Duration :=
  ⟨min nanos longestNanos, Nat.min_le_right _ _⟩

/-- No time at all. -/
def zero : Duration := ⟨0, Nat.zero_le _⟩

instance : Inhabited Duration := ⟨zero⟩

/-- The duration of so many milliseconds. -/
def ofMillis (millis : UInt64) : Duration :=
  ⟨millis.toNat * 1000000, by
    have := millis.toNat_lt
    simp only [longestNanos, UInt64.size]
    omega⟩

/-- The whole milliseconds in a duration. -/
def millis (duration : Duration) : Nat :=
  duration.nanos / 1000000

/-- The sum of two durations, at most the longest. -/
def add (left right : Duration) : Duration :=
  ofNanos (left.nanos + right.nanos)

/-- A multiple of a duration, at most the longest. -/
def scale (duration : Duration) (count : Nat) : Duration :=
  ofNanos (duration.nanos * count)

/-- Whether a duration is no time at all. -/
def isZero (duration : Duration) : Bool :=
  duration.nanos == 0

@[simp]
theorem nanos_ofNanos (nanos : Nat) : (ofNanos nanos).nanos = min nanos longestNanos := rfl

@[simp]
theorem nanos_zero : zero.nanos = 0 := rfl

@[simp]
theorem nanos_add (left right : Duration) :
    (left.add right).nanos = min (left.nanos + right.nanos) longestNanos := rfl

@[simp]
theorem nanos_scale (duration : Duration) (count : Nat) :
    (duration.scale count).nanos = min (duration.nanos * count) longestNanos := rfl

@[simp]
theorem millis_ofMillis (millis : UInt64) : (ofMillis millis).millis = millis.toNat := by
  simp [ofMillis, Duration.millis]

/-- The digits of `part` out of `whole` after a decimal point, `width` at most
and no zero last; nothing where no digit is left. -/
def writeFraction (width part : Nat) : List Char :=
  match ((Decimal.padded width part).reverse.dropWhile (· = '0')).reverse with
  | [] => []
  | digits => '.' :: digits

/-- A duration in the largest unit of which it holds at least one. -/
def write (duration : Duration) : List Char :=
  let inUnit (width : Nat) (name : String) : List Char :=
    let unit := Nat.pow 10 width
    Decimal.natDigits (duration.nanos / unit) ++
      writeFraction width (duration.nanos % unit) ++ name.toList
  if 1000000000 ≤ duration.nanos then inUnit 9 "s"
  else if 1000000 ≤ duration.nanos then inUnit 6 "ms"
  else if 1000 ≤ duration.nanos then inUnit 3 "µs"
  else inUnit 0 "ns"

/-- The text of a duration. -/
def toText (duration : Duration) : String :=
  String.ofList duration.write

end Duration

end EventRelay

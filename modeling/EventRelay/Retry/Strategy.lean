import EventRelay.Duration
import EventRelay.Retry.Power

/-!
# Retry strategies

A strategy says how long to wait before each retry. Retries are numbered from
one.
-/

namespace EventRelay.Retry

/-- How long to wait between attempts. -/
inductive Strategy
  /-- Do not retry. -/
  | never
  /-- Do not wait. -/
  | immediate
  /-- Wait as scheduled; the last interval repeats. -/
  | intervals (schedule : List Duration)
  /-- Wait a step longer each time. -/
  | incremental (initial step : Duration)
  /-- Wait longer by a factor each time, up to a limit. -/
  | exponential (least most : Duration) (factor : Float)

namespace Strategy

/-- The name of a strategy. -/
def name : Strategy → String
  | .never => "none"
  | .immediate => "immediate"
  | .intervals _ => "interval"
  | .incremental _ _ => "incremental"
  | .exponential _ _ _ => "exponential"

/-- The exponent for a step. Steps are counted in thirty-two bits, and the upper
half of them stands for negative exponents. -/
def exponentOf (step : Nat) : Int :=
  Int.bmod step UInt32.size

/-- The lesser of two numbers, or the one that is a number. -/
def lesser (left right : Float) : Float :=
  if left.isNaN then right else if right < left then right else left

/-- The greater of two numbers, or the one that is a number. -/
def greater (left right : Float) : Float :=
  if left.isNaN then right else if left < right then right else left

/-- The wait of the exponential strategy after so many steps, in whole milliseconds. -/
def exponentialDelay (least most : Duration) (factor : Float) (step : Nat) : Duration :=
  let scaled := Float.ofNat least.millis * power factor (exponentOf step)
  let capped := greater (lesser scaled (Float.ofNat most.millis)) 0
  Duration.ofMillis capped.toUInt64

/-- How long to wait before a retry. -/
def delay (strategy : Strategy) (retry : Nat) : Duration :=
  let step := retry - 1
  match strategy with
  | .never | .immediate => Duration.zero
  | .intervals schedule => (schedule[step]?.or schedule.getLast?).getD Duration.zero
  | .incremental initial increase => initial.add (increase.scale step)
  | .exponential least most factor => exponentialDelay least most factor step

end Strategy

end EventRelay.Retry

/-!
# Integral powers of doubles

A power is computed by repeated squaring, so its rounding is that of the
products in this order; a negative exponent takes the reciprocal last.
-/

namespace EventRelay.Retry

/-- `result` times a power of `base`. -/
def timesPower (result base : Float) (exponent : Nat) : Float :=
  let result := if exponent % 2 = 1 then result * base else result
  if halved : exponent / 2 = 0 then result
  else timesPower result (base * base) (exponent / 2)
termination_by exponent
decreasing_by omega

/-- A power with an integral exponent. -/
def power (base : Float) (exponent : Int) : Float :=
  let magnitude := timesPower 1 base exponent.natAbs
  if exponent < 0 then 1 / magnitude else magnitude

end EventRelay.Retry

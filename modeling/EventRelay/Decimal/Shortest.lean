import EventRelay.Decimal.Integer

/-!
# Shortest decimals of doubles

A finite double stands for the interval of reals that round to it. Of the
decimals in that interval those with the fewest digits are the shortest, and of
these the nearest to the value is chosen. Everything is computed exactly in
natural numbers: a decimal `c · 10^k` and a binary `b · 2^e` are compared after
both are multiplied by the powers that make their exponents vanish.
-/

namespace EventRelay.Decimal

/-- Which of two equally near neighbours is chosen. -/
inductive Tie
  /-- The one with an even last digit. -/
  | toEven
  /-- The larger one. -/
  | up
  deriving DecidableEq, Repr

/-- A positive number `significand · 2^exponent`, as a finite double holds it. -/
structure Binary where
  /-- The significand, below `2^53`. -/
  significand : Nat
  /-- The exponent of two. -/
  exponent : Int
  /-- Whether the next smaller double is only half as far as the next larger. -/
  closeBelow : Bool
  deriving DecidableEq, Repr

/-- The magnitude of the finite double with the given bits. -/
def Binary.ofBits (bits : UInt64) : Binary :=
  let fraction : Nat := bits.toNat % Nat.pow 2 52
  let biased : Nat := bits.toNat / Nat.pow 2 52 % Nat.pow 2 11
  if biased = 0 then ⟨fraction, -1074, false⟩
  else ⟨Nat.pow 2 52 + fraction, (biased : Int) - 1075, fraction == 0 && 1 < biased⟩

/-- Compare `c · 10^k` with `b · 2^e`. -/
def compareScaled (c : Nat) (k : Int) (b : Nat) (e : Int) : Ordering :=
  compare (c * Nat.pow 10 k.toNat * Nat.pow 2 (-e).toNat)
    (b * Nat.pow 2 e.toNat * Nat.pow 10 (-k).toNat)

namespace Binary

/-- Whether `c · 10^k` rounds to the double; the ends of the interval do exactly
when the significand is even. -/
def inInterval (binary : Binary) (c : Nat) (k : Int) : Bool :=
  let lower := 4 * binary.significand - (if binary.closeBelow then 1 else 2)
  let upper := 4 * binary.significand + 2
  let even := binary.significand % 2 == 0
  let below := compareScaled c k lower (binary.exponent - 2)
  let above := compareScaled c k upper (binary.exponent - 2)
  (below == .gt || (even && below == .eq)) && (above == .lt || (even && above == .eq))

/-- The largest multiple of `10^k` not above the value, divided by `10^k`. -/
def floorAt (binary : Binary) (k : Int) : Nat :=
  binary.significand * Nat.pow 2 binary.exponent.toNat * Nat.pow 10 (-k).toNat /
    (Nat.pow 2 (-binary.exponent).toNat * Nat.pow 10 k.toNat)

/-- The least `p` with the value below `10^p`. -/
def decimalExponent (binary : Binary) : Int :=
  let scaled := binary.significand * Nat.pow 2 binary.exponent.toNat * Nat.pow 10 400 /
    Nat.pow 2 (-binary.exponent).toNat
  ((natDigits scaled).length : Int) - 400

/-- The neighbour of the value on the grid of multiples of `10^k` that rounds to
it; of two the nearer. -/
def neighbour? (binary : Binary) (tie : Tie) (k : Int) : Option Nat :=
  let low := binary.floorAt k
  let high := low + 1
  match binary.inInterval low k, binary.inInterval high k with
  | true, false => some low
  | false, true => some high
  | false, false => none
  | true, true =>
      match compareScaled (2 * low + 1) k binary.significand (binary.exponent + 1) with
      | .lt => some high
      | .gt => some low
      | .eq =>
          match tie with
          | .toEven => some (if low % 2 = 0 then low else high)
          | .up => some high

end Binary

/-- A positive decimal: the digits after the point of a number below one, and
the power of ten it is multiplied by. -/
structure Digits where
  /-- The digits; neither the first nor the last is a zero. -/
  digits : List Char
  /-- Where the decimal point stands, counted from before the first digit. -/
  point : Int
  deriving DecidableEq, Repr

/-- The decimal `c · 10^k` without trailing zeros. -/
def Digits.ofScaled (c : Nat) (k : Int) : Digits :=
  let digits := natDigits c
  ⟨(digits.reverse.dropWhile (· == '0')).reverse, digits.length + k⟩

/-- The shortest decimal that rounds to a positive double. Seventeen digits
always suffice. -/
def Binary.shortest (binary : Binary) (tie : Tie) : Digits :=
  let exponent := binary.decimalExponent
  let grids := (List.range 17).map fun (count : Nat) => exponent - 1 - (count : Int)
  match grids.findSome? fun k => (binary.neighbour? tie k).map fun c => Digits.ofScaled c k with
  | some digits => digits
  | none => Digits.ofScaled (binary.floorAt (exponent - 17)) (exponent - 17)

end EventRelay.Decimal

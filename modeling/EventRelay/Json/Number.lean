import EventRelay.Decimal.Style
import EventRelay.Word

/-!
# Numbers in documents

A number is written as a sign, a whole part, and at most a fraction and an
exponent. Without the latter two it denotes an integer as long as that fits in
64 bits; every other number denotes a double.

A double is read by one scaling: the leading digits that fit in 64 bits are
rounded to a double, which is then multiplied or divided by a rounded power of
ten. A number that scales to infinity denotes nothing.
-/

namespace EventRelay.Json

/-- The written form of a number. -/
structure Numeral where
  /-- Whether a minus sign comes first. -/
  negative : Bool
  /-- The digits before the point. -/
  whole : List Char
  /-- The digits after the point, if there is one. -/
  fraction : Option (List Char)
  /-- The exponent, if there is one: whether it is negative, and its digits. -/
  exponent : Option (Bool × List Char)
  deriving DecidableEq, Repr

/-- What a number denotes. -/
inductive Number
  /-- An integer between `-2^63` and `2^64 - 1`. -/
  | integer (value : Int)
  /-- A finite double. -/
  | float (value : Float)

/-- Append digits to a significand as long as it fits in 64 bits. The second
component lists the digits that no longer fit. -/
def accumulate : Nat → List Char → Nat × List Char
  | significand, [] => (significand, [])
  | significand, digit :: rest =>
      let next := significand * 10 + (digit.toNat - '0'.toNat)
      if next < UInt64.size then accumulate next rest else (significand, digit :: rest)

/-- The double nearest to a power of ten. -/
def powerOfTen (exponent : Nat) : Float :=
  Float.ofScientific 1 false exponent

/-- Divide a significand by a power of ten, in two steps when the power is no
finite double; past the second step only zero is left. -/
def scaleDown (significand : Float) (exponent : Nat) : Float :=
  if exponent ≤ 308 then significand / powerOfTen exponent
  else if exponent ≤ 616 then significand / powerOfTen 308 / powerOfTen (exponent - 308)
  else 0.0

/-- Multiply a significand by a power of ten; an infinite product is none. -/
def scaleUp (significand : Float) (exponent : Nat) : Option Float :=
  if exponent ≤ 308 then
    let product := significand * powerOfTen exponent
    if product.isInf then none else some product
  else if significand == 0.0 then some 0.0
  else none

namespace Numeral

/-- The exponent as an integer. -/
def exponentValue (numeral : Numeral) : Int :=
  match numeral.exponent with
  | none => 0
  | some (true, digits) => -Decimal.natOfDigits digits
  | some (false, digits) => Decimal.natOfDigits digits

/-- The double that a number denotes. -/
def float? (numeral : Numeral) : Option Float :=
  let (significand, dropped) := accumulate 0 numeral.whole
  let fraction := numeral.fraction.getD []
  let (significand, ignored) := accumulate significand fraction
  let exponent : Int :=
    (dropped.length : Int) - ((fraction.length - ignored.length : Nat) : Int)
      + numeral.exponentValue
  let magnitude :=
    if exponent < 0 then some (scaleDown (Float.ofNat significand) exponent.natAbs)
    else scaleUp (Float.ofNat significand) exponent.natAbs
  magnitude.map fun value => if numeral.negative then -value else value

/-- What a number denotes. Minus zero is a double. -/
def number? (numeral : Numeral) : Option Number :=
  let value := Decimal.natOfDigits numeral.whole
  if numeral.fraction.isNone && numeral.exponent.isNone then
    if numeral.negative then
      if 0 < value ∧ value ≤ Word.signBit then some (.integer (-value))
      else numeral.float?.map .float
    else if value < UInt64.size then some (.integer value)
    else numeral.float?.map .float
  else numeral.float?.map .float

end Numeral

/-- Write a number. -/
def Number.write : Number → List Char
  | .integer value => Decimal.intDigits value
  | .float value => Decimal.documentStyle.write value

end EventRelay.Json

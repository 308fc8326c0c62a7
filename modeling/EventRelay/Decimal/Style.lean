import EventRelay.Decimal.Shortest
import EventRelay.Word

/-!
# Ways of writing a double

The digits of a double are settled by `Binary.shortest`; a style says how they
are laid out: which exponents are written positionally, what marks an integral
value, and how a tie between two shortest decimals goes.
-/

namespace EventRelay.Decimal

/-- How the digits of a double are laid out. -/
structure Style where
  /-- Which of two equally near decimals is written. -/
  tie : Tie
  /-- What follows an integral value. -/
  wholeMark : List Char
  /-- Whether a value whose first digit stands for `10^exponent` is positional. -/
  positional : Int → Bool

/-- Settings are shown positionally at every size, an integral value bare. -/
def settingStyle : Style := ⟨.up, [], fun _ => true⟩

/-- Documents show values from `1e-5` up to `1e16` positionally, an integral
value with one zero after the point. -/
def documentStyle : Style :=
  ⟨.toEven, ['.', '0'], fun exponent => -5 ≤ exponent && exponent < 16⟩

/-- Digits around a decimal point. -/
def Digits.positional (digits : Digits) (wholeMark : List Char) : List Char :=
  if digits.point ≤ 0 then
    '0' :: '.' :: (List.replicate (-digits.point).toNat '0' ++ digits.digits)
  else
    let whole := digits.point.toNat
    if digits.digits.length ≤ whole then
      digits.digits ++ List.replicate (whole - digits.digits.length) '0' ++ wholeMark
    else
      digits.digits.take whole ++ '.' :: digits.digits.drop whole

/-- One digit before the point, and a signed exponent. -/
def Digits.scientific (digits : Digits) : List Char :=
  let exponent := digits.point - 1
  let sign := if exponent < 0 then '-' else '+'
  let significand :=
    match digits.digits with
    | first :: second :: rest => first :: '.' :: second :: rest
    | short => short
  significand ++ 'e' :: sign :: natDigits exponent.natAbs

/-- Write a positive finite double. -/
def Style.magnitude (style : Style) (binary : Binary) : List Char :=
  if binary.significand = 0 then '0' :: style.wholeMark
  else
    let digits := binary.shortest style.tie
    if style.positional (digits.point - 1) then digits.positional style.wholeMark
    else digits.scientific

/-- Write a double. -/
def Style.write (style : Style) (value : Float) : List Char :=
  if value.isNaN then "NaN".toList
  else
    let bits := value.toBits
    let magnitude :=
      if value.isInf then "inf".toList else style.magnitude (Binary.ofBits bits)
    if Word.signBit ≤ bits.toNat then '-' :: magnitude else magnitude

end EventRelay.Decimal

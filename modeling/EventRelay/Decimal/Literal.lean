import EventRelay.Decimal.Integer

/-!
# Reading a double

A literal has an optional sign, then digits with at most one point among them
and at least one digit, then at most one exponent; or it names infinity or the
absence of a number in any case of letters. It is read to the nearest double.
-/

namespace EventRelay.Decimal

/-- Why a text is not a double. -/
inductive FloatFault
  /-- There is no character to read. -/
  | empty
  /-- The text is no literal. -/
  | invalid
  deriving DecidableEq, Repr

/-- The wording of a fault in a double. -/
def FloatFault.message : FloatFault → String
  | .empty => "cannot parse float from empty string"
  | .invalid => "invalid float literal"

/-- The double nearest to `digits · 10^exponent`. Exponents far outside the range
of doubles are settled by the number of digits alone. -/
def nearestFloat (digits : List Char) (exponent : Int) : Float :=
  let significant := digits.dropWhile (· == '0')
  let value := natOfDigits significant
  let point := significant.length + exponent
  if value = 0 then 0.0
  else if 400 < point then 1.0 / 0.0
  else if point < -400 then 0.0
  else if exponent < 0 then Float.ofScientific value true exponent.natAbs
  else Float.ofScientific value false exponent.natAbs

/-- The exponent after the digits: nothing, or a mark, a sign and digits. -/
def readExponent : List Char → Option Int
  | [] => some 0
  | mark :: rest =>
      if mark = 'e' ∨ mark = 'E' then
        let (negative, digits) :=
          match rest with
          | '-' :: digits => (true, digits)
          | '+' :: digits => (false, digits)
          | digits => (false, digits)
        if digits.isEmpty || !digits.all Char.isDigit then none
        else if negative then some (-natOfDigits digits) else some (natOfDigits digits)
      else none

/-- The value of a literal without its sign. -/
def readMagnitude (chars : List Char) : Option Float :=
  let word := String.ofList (chars.map Char.toLower)
  if word = "inf" ∨ word = "infinity" then some (1.0 / 0.0)
  else if word = "nan" then some (0.0 / 0.0)
  else
    let whole := chars.takeWhile Char.isDigit
    let rest := chars.dropWhile Char.isDigit
    let (fraction, rest) :=
      match rest with
      | '.' :: rest => (rest.takeWhile Char.isDigit, rest.dropWhile Char.isDigit)
      | rest => ([], rest)
    if whole.isEmpty && fraction.isEmpty then none
    else do
      let exponent ← readExponent rest
      return nearestFloat (whole ++ fraction) (exponent - fraction.length)

/-- Read a double. -/
def readFloat (text : String) : Except FloatFault Float :=
  let signed (negative : Bool) (chars : List Char) : Except FloatFault Float :=
    match readMagnitude chars with
    | some value => .ok (if negative then -value else value)
    | none => .error .invalid
  match text.toList with
  | [] => .error .empty
  | '-' :: chars => signed true chars
  | '+' :: chars => signed false chars
  | chars => signed false chars

end EventRelay.Decimal

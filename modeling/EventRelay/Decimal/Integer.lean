/-!
# Integers in decimal

The decimal text of integers, texts padded to a width, and the reading of
bounded unsigned integers. Reading goes digit by digit, so of a wrong character
and an overflow the one met first is reported.
-/

namespace EventRelay.Decimal

/-- The decimal digits of a natural number. -/
def natDigits (value : Nat) : List Char :=
  Nat.toDigits 10 value

/-- The number that a list of digits denotes. -/
def natOfDigits (digits : List Char) : Nat :=
  Nat.ofDigitChars 10 digits 0

@[simp]
theorem natOfDigits_natDigits (value : Nat) : natOfDigits (natDigits value) = value :=
  Nat.ofDigitChars_toDigits (by decide) (by decide)

/-- The digits of an integer, after a minus sign when it is negative. -/
def intDigits (value : Int) : List Char :=
  if value < 0 then '-' :: natDigits value.natAbs else natDigits value.natAbs

/-- The decimal text of a natural number. -/
def ofNat (value : Nat) : String :=
  String.ofList (natDigits value)

/-- The decimal text of an integer. -/
def ofInt (value : Int) : String :=
  String.ofList (intDigits value)

/-- Digits of a natural number, filled with zeros on the left up to `width`. -/
def padded (width value : Nat) : List Char :=
  let digits := natDigits value
  List.replicate (width - digits.length) '0' ++ digits

/-- Why a text is not an unsigned integer of the wanted size. -/
inductive IntegerFault
  /-- There is no character to read. -/
  | empty
  /-- A character is not a digit. -/
  | invalidDigit
  /-- The number does not fit. -/
  | tooLarge
  deriving DecidableEq, Repr

/-- The wording of an integer fault. -/
def IntegerFault.message : IntegerFault → String
  | .empty => "cannot parse integer from empty string"
  | .invalidDigit => "invalid digit found in string"
  | .tooLarge => "number too large to fit in target type"

/-- Continue reading digits of a number below `bound` from a value read so far. -/
def readDigits (bound : Nat) : Nat → List Char → Except IntegerFault Nat
  | value, [] => .ok value
  | value, char :: rest =>
      if char.isDigit then
        let next := value * 10 + (char.toNat - '0'.toNat)
        if next < bound then readDigits bound next rest else .error .tooLarge
      else .error .invalidDigit

/-- Read a number below `bound`: digits, with at most a plus sign before them. -/
def readUnsigned (bound : Nat) (text : String) : Except IntegerFault Nat :=
  match text.toList with
  | [] => .error .empty
  | ['+'] => .error .invalidDigit
  | '+' :: digits => readDigits bound 0 digits
  | digits => readDigits bound 0 digits

end EventRelay.Decimal

import EventRelay.Text.Utf8

/-!
# Hexadecimal digits

Digits are read in either case and written in lower case. Bytes are written as
two digits each.
-/

namespace EventRelay.Text

/-- The value of a hexadecimal digit in either case. -/
def hexDigit? (char : Char) : Option Nat :=
  if '0' ≤ char ∧ char ≤ '9' then some (char.toNat - '0'.toNat)
  else if 'a' ≤ char ∧ char ≤ 'f' then some (char.toNat - 'a'.toNat + 10)
  else if 'A' ≤ char ∧ char ≤ 'F' then some (char.toNat - 'A'.toNat + 10)
  else none

/-- The hexadecimal digit of a value below sixteen, in lower case. -/
def hexDigit (value : Nat) : Char :=
  if value < 10 then Char.ofNat ('0'.toNat + value) else Char.ofNat ('a'.toNat + (value - 10))

/-- A written digit reads back. -/
theorem hexDigit?_hexDigit {value : Nat} (value_lt : value < 16) :
    hexDigit? (hexDigit value) = some value := by
  have all : ∀ small : Fin 16, hexDigit? (hexDigit small.val) = some small.val := by decide
  exact all ⟨value, value_lt⟩

/-- The digits of bytes, two for each. -/
def hexOfBytes : Bytes → List Char
  | [] => []
  | byte :: rest =>
      hexDigit (byte.toNat / 16) :: hexDigit (byte.toNat % 16) :: hexOfBytes rest

/-- The bytes whose digits are given. -/
def bytesOfHex? : List Char → Option Bytes
  | [] => some []
  | [_] => none
  | high :: low :: rest => do
      let high ← hexDigit? high
      let low ← hexDigit? low
      return UInt8.ofNat (high * 16 + low) :: (← bytesOfHex? rest)

end EventRelay.Text

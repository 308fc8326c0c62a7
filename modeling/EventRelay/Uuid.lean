import EventRelay.Text.Hex

/-!
# Universally unique identifiers

An identifier is thirty-two hexadecimal digits. It is written in lower case in
five groups joined by hyphens; it is also read without hyphens, in braces, and
after the name of its URN namespace.
-/

namespace EventRelay

/-- A universally unique identifier. -/
structure Uuid where
  /-- The digits, each below sixteen. -/
  digits : List (Fin 16)
  /-- There are thirty-two of them. -/
  length_eq : digits.length = 32
  deriving DecidableEq, Repr

namespace Uuid

/-- The identifier made of zeros. -/
def zero : Uuid := ⟨List.replicate 32 0, by decide⟩

instance : Inhabited Uuid := ⟨zero⟩

/-- The identifier with the given digits, if there are thirty-two. -/
def ofDigits? (digits : List (Fin 16)) : Option Uuid :=
  if length_eq : digits.length = 32 then some ⟨digits, length_eq⟩ else none

/-- The digit that a character stands for. -/
def digit? (char : Char) : Option (Fin 16) := do
  let value ← Text.hexDigit? char
  if value_lt : value < 16 then some ⟨value, value_lt⟩ else none

/-- Digits in lower case. -/
def writeDigits (digits : List (Fin 16)) : List Char :=
  digits.map fun digit => Text.hexDigit digit.val

/-- The five groups of digits, a hyphen between two. -/
def write (uuid : Uuid) : List Char :=
  writeDigits (uuid.digits.take 8) ++ '-' ::
    (writeDigits ((uuid.digits.drop 8).take 4) ++ '-' ::
      (writeDigits ((uuid.digits.drop 12).take 4) ++ '-' ::
        (writeDigits ((uuid.digits.drop 16).take 4) ++ '-' ::
          writeDigits (uuid.digits.drop 20))))

/-- The text of an identifier. -/
def toText (uuid : Uuid) : String :=
  String.ofList uuid.write

/-- Read thirty-two digits without hyphens. -/
def readPlain? (chars : List Char) : Option Uuid := do
  let digits ← chars.mapM digit?
  ofDigits? digits

/-- Read five groups of digits with a hyphen between two. -/
def readHyphenated? (chars : List Char) : Option Uuid :=
  let afterFirst := chars.drop 8
  let afterSecond := chars.drop 13
  let afterThird := chars.drop 18
  let afterFourth := chars.drop 23
  if afterFirst.head? = some '-' ∧ afterSecond.head? = some '-' ∧
      afterThird.head? = some '-' ∧ afterFourth.head? = some '-' then
    readPlain? (chars.take 8 ++ (afterFirst.drop 1).take 4 ++ (afterSecond.drop 1).take 4 ++
      (afterThird.drop 1).take 4 ++ afterFourth.drop 1)
  else none

/-- Read an identifier in any of its spellings. -/
def ofText? (text : String) : Option Uuid :=
  let chars := text.toList
  match chars.length with
  | 32 => readPlain? chars
  | 36 => readHyphenated? chars
  | 38 =>
      if chars.head? = some '{' ∧ chars.getLast? = some '}' then
        readHyphenated? ((chars.drop 1).dropLast)
      else none
  | 45 =>
      if (chars.take 9).map Char.toLower = "urn:uuid:".toList then
        readHyphenated? (chars.drop 9)
      else none
  | _ => none

end Uuid

end EventRelay

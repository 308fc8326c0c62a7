import EventRelay.Decimal.Integer
import EventRelay.Instant.Basic
import EventRelay.Text.Blank

/-!
# Reading instants

Two forms are read. The strict form pads every number and leaves no room between
the parts. The relaxed form also takes unpadded numbers, blanks between the
parts, years with a sign, and looser ways to name the offset from universal time.
-/

namespace EventRelay.Instant

open EventRelay.Decimal

/-- A reader takes characters from the front of a text, or fails. -/
abbrev Reader (α : Type) := StateT (List Char) Option α

/-- A number of at least `least` and at most `most` digits. -/
def readNumber (least most : Nat) : Reader Nat := fun chars =>
  let digits := (chars.take most).takeWhile Char.isDigit
  if least ≤ digits.length then some (natOfDigits digits, chars.drop digits.length) else none

/-- One given character. -/
def readChar (char : Char) : Reader Unit := fun chars =>
  match chars with
  | first :: rest => if first = char then some ((), rest) else none
  | [] => none

/-- Any blanks. -/
def readBlanks : Reader Unit := fun chars =>
  some ((), Text.trimStart chars)

/-- What separates a date from a time. -/
def readSeparator : Reader Unit := fun chars =>
  match chars with
  | first :: rest => if first = 'T' ∨ first = 't' ∨ first = ' ' then some ((), rest) else none
  | [] => none

/-- A fraction of a second in nanoseconds: a point and digits, of which nine
count, or nothing. -/
def readFraction : Reader Nat := fun chars =>
  match chars with
  | '.' :: rest =>
      let digits := rest.takeWhile Char.isDigit
      let counted := digits.take 9
      if digits.isEmpty then none
      else some (natOfDigits counted * Nat.pow 10 (9 - counted.length), rest.drop digits.length)
  | chars => some (0, chars)

/-- The sign of an offset. -/
def readSign : Reader Int := fun chars =>
  match chars with
  | '+' :: rest => some (1, rest)
  | '-' :: rest => some (-1, rest)
  | '−' :: rest => some (-1, rest)
  | _ => none

/-- An offset from universal time in seconds: `Z`, or a sign, hours and minutes
with `between` them. -/
def readOffset (between : Reader Unit) : Reader Int := fun chars =>
  match chars with
  | 'Z' :: rest => some (0, rest)
  | 'z' :: rest => some (0, rest)
  | chars =>
      (do
        let sign ← readSign
        let hours ← readNumber 2 2
        between
        let minutes ← readNumber 2 2
        if minutes < 60 then return sign * (hours * 3600 + minutes * 60 : Nat)
        else failure : Reader Int) chars

/-- The parts of a written instant. -/
structure Parts where
  date : Date
  hour : Nat
  minute : Nat
  second : Nat
  nanos : Nat
  /-- The offset from universal time in seconds. -/
  offset : Int
  deriving DecidableEq, Repr

/-- The instant that parts name, if they are in range. Second sixty is a leap
second. -/
def Parts.instant? (parts : Parts) : Option Instant :=
  if parts.date.isValid && parts.hour < 24 && parts.minute < 60 && parts.second ≤ 60 &&
      parts.offset.natAbs < 86400 then
    let ofDay := parts.hour * 3600 + parts.minute * 60 + min parts.second 59
    let leap := if parts.second = 60 then 1000000000 else 0
    ofParts? (parts.date.number * 86400 + ofDay - parts.offset) (parts.nanos + leap)
  else none

/-- The parts of the strict form. -/
def readStrictParts : Reader Parts := do
  let year ← readNumber 4 4
  readChar '-'
  let month ← readNumber 2 2
  readChar '-'
  let day ← readNumber 2 2
  readSeparator
  let hour ← readNumber 2 2
  readChar ':'
  let minute ← readNumber 2 2
  readChar ':'
  let second ← readNumber 2 2
  let nanos ← readFraction
  let offset ← readOffset (readChar ':')
  return ⟨⟨year, month, day⟩, hour, minute, second, nanos, offset⟩

/-- Read the strict form. -/
def readStrict? (text : String) : Option Instant := do
  let (parts, rest) ← readStrictParts.run text.toList
  if rest.isEmpty then parts.instant? else none

/-- A year of the relaxed form: up to four digits, or a sign and any number. -/
def readYear : Reader Int := do
  readBlanks
  fun chars =>
    match chars with
    | '-' :: rest => (readNumber 1 rest.length rest).map fun (year, rest) => (-(year : Int), rest)
    | '+' :: rest => (readNumber 1 rest.length rest).map fun (year, rest) => ((year : Int), rest)
    | chars => (readNumber 1 4 chars).map fun (year, rest) => ((year : Int), rest)

/-- A number of one or two digits after any blanks. -/
def readShort : Reader Nat := do
  readBlanks
  readNumber 1 2

/-- A character after any blanks. -/
def readSpacedChar (char : Char) : Reader Unit := do
  readBlanks
  readChar char

/-- What may stand between the hours and minutes of an offset. -/
def readLooseColon : Reader Unit := fun chars =>
  some ((), chars.dropWhile fun char => char == ':' || Text.isBlankChar char)

/-- An offset of the relaxed form. -/
def readLooseOffset : Reader Int := fun chars =>
  match chars with
  | u :: t :: c :: rest =>
      if u.toUpper = 'U' ∧ t.toUpper = 'T' ∧ c.toUpper = 'C' then some (0, rest)
      else readOffset readLooseColon chars
  | chars => readOffset readLooseColon chars

/-- The parts of the relaxed form. -/
def readRelaxedParts : Reader Parts := do
  let year ← readYear
  readSpacedChar '-'
  let month ← readShort
  readSpacedChar '-'
  let day ← readShort
  readSeparator
  let hour ← readShort
  readSpacedChar ':'
  let minute ← readShort
  readSpacedChar ':'
  let second ← readShort
  let nanos ← readFraction
  readBlanks
  let offset ← readLooseOffset
  readBlanks
  return ⟨⟨year, month, day⟩, hour, minute, second, nanos, offset⟩

/-- Read the relaxed form. -/
def readRelaxed? (text : String) : Option Instant := do
  let (parts, rest) ← readRelaxedParts.run text.toList
  if rest.isEmpty then parts.instant? else none

end EventRelay.Instant

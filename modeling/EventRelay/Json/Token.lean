import EventRelay.Json.Number
import EventRelay.Json.Quoted

/-!
# Tokens of a document

The bytes of a document are split into tokens. A token keeps what is written: the
digits of a number and the bytes between two quotes, which are only known to be
free of raw control characters and of unknown escapes. What they denote is asked
for later, and only of the parts of a document that are used.
-/

namespace EventRelay.Json

/-- A smallest part of a document. -/
inductive Token
  | openList
  | closeList
  | openObject
  | closeObject
  | comma
  | colon
  | null
  | bool (value : Bool)
  | number (numeral : Numeral)
  | text (raw : Bytes)
  deriving DecidableEq, Repr

/-- Whether a byte may stand between tokens. -/
def isSpace (byte : UInt8) : Bool :=
  byte == 0x20 || byte == 0x09 || byte == 0x0A || byte == 0x0D

/-- Whether a byte is a decimal digit. -/
def isDigitByte (byte : UInt8) : Bool :=
  0x30 ≤ byte && byte ≤ 0x39

/-- Whether a byte is a hexadecimal digit. -/
def isHexByte (byte : UInt8) : Bool :=
  isDigitByte byte || (0x41 ≤ byte && byte ≤ 0x46) || (0x61 ≤ byte && byte ≤ 0x66)

/-- The digits at the start of a sequence of bytes, and what follows them. -/
def splitDigits (bytes : Bytes) : List Char × Bytes :=
  ((bytes.takeWhile isDigitByte).map fun byte => Char.ofNat byte.toNat,
    bytes.dropWhile isDigitByte)

/-- The whole part of a number: a zero alone, or digits that start otherwise. -/
def splitWhole? (bytes : Bytes) : Option (List Char × Bytes) :=
  match splitDigits bytes with
  | ([], _) => none
  | ('0' :: _ :: _, _) => none
  | (digits, rest) => some (digits, rest)

/-- The fraction of a number: a point and at least one digit, or nothing. -/
def splitFraction? : Bytes → Option (Option (List Char) × Bytes)
  | 0x2E :: rest =>
      match splitDigits rest with
      | ([], _) => none
      | (digits, rest) => some (some digits, rest)
  | bytes => some (none, bytes)

/-- The digits of an exponent after its sign. -/
def splitExponentDigits? (negative : Bool) (bytes : Bytes) :
    Option (Option (Bool × List Char) × Bytes) :=
  match splitDigits bytes with
  | ([], _) => none
  | (digits, rest) => some (some (negative, digits), rest)

/-- The exponent of a number: a mark, at most a sign, and digits, or nothing. -/
def splitExponent? : Bytes → Option (Option (Bool × List Char) × Bytes)
  | [] => some (none, [])
  | mark :: rest =>
      if mark = 0x65 ∨ mark = 0x45 then
        match rest with
        | 0x2D :: rest => splitExponentDigits? true rest
        | 0x2B :: rest => splitExponentDigits? false rest
        | rest => splitExponentDigits? false rest
      else some (none, mark :: rest)

/-- A number at the start of a sequence of bytes, and what follows it. -/
def splitNumeral? (bytes : Bytes) : Option (Numeral × Bytes) := do
  let (negative, bytes) :=
    match bytes with
    | 0x2D :: rest => (true, rest)
    | bytes => (false, bytes)
  let (whole, bytes) ← splitWhole? bytes
  let (fraction, bytes) ← splitFraction? bytes
  let (exponent, bytes) ← splitExponent? bytes
  return (⟨negative, whole, fraction, exponent⟩, bytes)

/-- The bytes up to a closing quote, and what follows the quote. -/
def splitQuoted? : Bytes → Option (Bytes × Bytes)
  | [] => none
  | 0x22 :: rest => some ([], rest)
  | 0x5C :: 0x75 :: a :: b :: c :: d :: rest =>
      if isHexByte a && isHexByte b && isHexByte c && isHexByte d then
        (splitQuoted? rest).map fun (raw, after) =>
          (0x5C :: 0x75 :: a :: b :: c :: d :: raw, after)
      else none
  | 0x5C :: mark :: rest =>
      if (simpleEscape? (Char.ofNat mark.toNat)).isSome then
        (splitQuoted? rest).map fun (raw, after) => (0x5C :: mark :: raw, after)
      else none
  | byte :: rest =>
      if byte < 0x20 ∨ byte = 0x5C then none
      else (splitQuoted? rest).map fun (raw, after) => (byte :: raw, after)

/-- The token at the start of a sequence of bytes, and what follows it. -/
def Token.split? : Bytes → Option (Token × Bytes)
  | 0x5B :: rest => some (.openList, rest)
  | 0x5D :: rest => some (.closeList, rest)
  | 0x7B :: rest => some (.openObject, rest)
  | 0x7D :: rest => some (.closeObject, rest)
  | 0x2C :: rest => some (.comma, rest)
  | 0x3A :: rest => some (.colon, rest)
  | 0x6E :: 0x75 :: 0x6C :: 0x6C :: rest => some (.null, rest)
  | 0x74 :: 0x72 :: 0x75 :: 0x65 :: rest => some (.bool true, rest)
  | 0x66 :: 0x61 :: 0x6C :: 0x73 :: 0x65 :: rest => some (.bool false, rest)
  | 0x22 :: rest => (splitQuoted? rest).map fun (raw, after) => (.text raw, after)
  | bytes => (splitNumeral? bytes).map fun (numeral, after) => (.number numeral, after)

/-- The tokens of a sequence of bytes, of which `fuel` bounds the number. -/
def Token.scanWithin : Nat → Bytes → Option (List Token)
  | fuel, bytes =>
      match fuel, bytes.dropWhile isSpace with
      | _, [] => some []
      | 0, _ => none
      | fuel + 1, bytes =>
          match Token.split? bytes with
          | none => none
          | some (token, rest) => (Token.scanWithin fuel rest).map (token :: ·)

/-- The tokens of a document. Every token takes at least one byte. -/
def Token.scan (bytes : Bytes) : Option (List Token) :=
  Token.scanWithin bytes.length bytes

end EventRelay.Json

import EventRelay.Text.Hex
import EventRelay.Text.Utf8

/-!
# Quoted texts

Inside quotes a text is written with escapes: the quote, the backslash and the
control characters have one, and any character may be written by the hexadecimal
digits of its UTF-16 units. Reading refuses a unit of a pair that stands alone.
-/

namespace EventRelay.Json

open Text (hexDigit hexDigit?)

/-- The UTF-16 unit written with four hexadecimal digits. -/
def unit? (first second third fourth : Char) : Option Nat := do
  let a ← hexDigit? first
  let b ← hexDigit? second
  let c ← hexDigit? third
  let d ← hexDigit? fourth
  return ((a * 16 + b) * 16 + c) * 16 + d

/-- The character after a backslash that stands for a single character. -/
def simpleEscape? : Char → Option Char
  | '"' => some '"'
  | '\\' => some '\\'
  | '/' => some '/'
  | 'b' => some '\x08'
  | 'f' => some '\x0c'
  | 'n' => some '\n'
  | 'r' => some '\r'
  | 't' => some '\t'
  | _ => none

/-- The character of a pair of UTF-16 units. -/
def charOfPair (high low : Nat) : Char :=
  Char.ofNat (0x10000 + (high - 0xD800) * 0x400 + (low - 0xDC00))

/-- The text that the characters between two quotes stand for. -/
def unescape? : List Char → Option (List Char)
  | [] => some []
  | '\\' :: 'u' :: a :: b :: c :: d :: rest =>
      match unit? a b c d with
      | none => none
      | some unit =>
          if 0xD800 ≤ unit ∧ unit < 0xDC00 then
            match rest with
            | '\\' :: 'u' :: e :: f :: g :: h :: rest =>
                match unit? e f g h with
                | none => none
                | some low =>
                    if 0xDC00 ≤ low ∧ low < 0xE000 then
                      (unescape? rest).map (charOfPair unit low :: ·)
                    else none
            | _ => none
          else if 0xDC00 ≤ unit ∧ unit < 0xE000 then none
          else (unescape? rest).map (Char.ofNat unit :: ·)
  | '\\' :: mark :: rest =>
      match simpleEscape? mark with
      | some char => (unescape? rest).map (char :: ·)
      | none => none
  | '\\' :: [] => none
  | char :: rest => (unescape? rest).map (char :: ·)

/-- The text that the bytes between two quotes stand for. -/
def readQuoted? (raw : Bytes) : Option String := do
  let chars ← Text.decode? raw
  let text ← unescape? chars
  return String.ofList text

/-- The written form of one character between quotes. -/
def escapeChar (char : Char) : List Char :=
  if char = '"' then ['\\', '"']
  else if char = '\\' then ['\\', '\\']
  else if char = '\x08' then ['\\', 'b']
  else if char = '\x0c' then ['\\', 'f']
  else if char = '\n' then ['\\', 'n']
  else if char = '\r' then ['\\', 'r']
  else if char = '\t' then ['\\', 't']
  else if char.toNat < 0x20 then
    ['\\', 'u', '0', '0', hexDigit (char.toNat / 16), hexDigit (char.toNat % 16)]
  else [char]

/-- A text between quotes. -/
def writeQuoted (text : String) : List Char :=
  '"' :: (text.toList.flatMap escapeChar ++ ['"'])

end EventRelay.Json

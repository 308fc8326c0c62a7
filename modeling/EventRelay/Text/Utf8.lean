/-!
# Bytes and UTF-8

Payloads, keys and values travel as bytes; names and reasons are texts. A text
has exactly one byte form, and reading accepts exactly the byte forms of texts:
no overlong form, no surrogate and nothing past the last code point.
-/

namespace EventRelay

/-- A sequence of bytes. -/
abbrev Bytes := List UInt8

namespace Text

/-- The UTF-8 bytes of a sequence of characters. -/
def encode (chars : List Char) : Bytes :=
  chars.flatMap String.utf8EncodeChar

/-- The UTF-8 bytes of a text. -/
def toBytes (text : String) : Bytes :=
  encode text.toList

/-- The character with a code point, if there is one. -/
def charOfNat? (code : Nat) : Option Char :=
  if code < 0xD800 ∨ (0xDFFF < code ∧ code < 0x110000) then some (Char.ofNat code) else none

/-- The six payload bits of a byte that continues a character. -/
def continuation? (byte : UInt8) : Option Nat :=
  if 0x80 ≤ byte ∧ byte < 0xC0 then some (byte.toNat - 0x80) else none

/-- The character written in two bytes. -/
def charOfTwo? (first second : UInt8) : Option Char := do
  let low ← continuation? second
  let code := (first.toNat - 0xC0) * 0x40 + low
  if 0xC0 ≤ first ∧ first < 0xE0 ∧ 0x80 ≤ code then charOfNat? code else none

/-- The character written in three bytes. -/
def charOfThree? (first second third : UInt8) : Option Char := do
  let middle ← continuation? second
  let low ← continuation? third
  let code := (first.toNat - 0xE0) * 0x1000 + middle * 0x40 + low
  if 0xE0 ≤ first ∧ first < 0xF0 ∧ 0x800 ≤ code then charOfNat? code else none

/-- The character written in four bytes. -/
def charOfFour? (first second third fourth : UInt8) : Option Char := do
  let high ← continuation? second
  let middle ← continuation? third
  let low ← continuation? fourth
  let code := (first.toNat - 0xF0) * 0x40000 + high * 0x1000 + middle * 0x40 + low
  if 0xF0 ≤ first ∧ first < 0xF8 ∧ 0x10000 ≤ code then charOfNat? code else none

/-- The characters that a byte sequence is the UTF-8 form of. -/
def decode? : Bytes → Option (List Char)
  | [] => some []
  | first :: rest₁ =>
      if first < 0x80 then
        (decode? rest₁).map (Char.ofNat first.toNat :: ·)
      else
        match rest₁ with
        | [] => none
        | second :: rest₂ =>
            if first < 0xE0 then
              match charOfTwo? first second with
              | some char => (decode? rest₂).map (char :: ·)
              | none => none
            else
              match rest₂ with
              | [] => none
              | third :: rest₃ =>
                  if first < 0xF0 then
                    match charOfThree? first second third with
                    | some char => (decode? rest₃).map (char :: ·)
                    | none => none
                  else
                    match rest₃ with
                    | [] => none
                    | fourth :: rest₄ =>
                        match charOfFour? first second third fourth with
                        | some char => (decode? rest₄).map (char :: ·)
                        | none => none

/-- The text that a byte sequence is the UTF-8 form of. -/
def ofBytes? (bytes : Bytes) : Option String :=
  (decode? bytes).map String.ofList

@[simp]
theorem encode_nil : encode [] = [] := rfl

@[simp]
theorem encode_append (left right : List Char) :
    encode (left ++ right) = encode left ++ encode right := by
  simp [encode]

@[simp]
theorem decode?_nil : decode? [] = some [] := rfl

example : decode? (toBytes "aé漢😀") = some "aé漢😀".toList := by decide +kernel
example : decode? [0xC0, 0x80] = none := by decide +kernel
example : decode? [0xED, 0xA0, 0x80] = none := by decide +kernel
example : decode? [0xF4, 0x90, 0x80, 0x80] = none := by decide +kernel

end Text

end EventRelay

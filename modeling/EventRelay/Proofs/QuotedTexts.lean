import EventRelay.Json.Token
import EventRelay.Proofs.Encoding

/-!
# Quoted texts read back

A character is written between quotes in one of three ways, and in each of them it is found
where the bytes are split at the closing quote and read back where escapes are undone. So a
quoted text stands for itself, whatever follows its closing quote.
-/

namespace EventRelay.Json

open Text

/-! ## How a character is written -/

/-- The ways in which a character is written between quotes. -/
inductive Escaped (char : Char) : List Char → Prop
  | marked {mark : Char} (listed : (mark, char) ∈
      [('"', '"'), ('\\', '\\'), ('b', '\x08'), ('f', '\x0c'), ('n', '\n'), ('r', '\r'),
        ('t', '\t')]) :
      Escaped char ['\\', mark]
  | numbered (control : char.toNat < 0x20) :
      Escaped char
        ['\\', 'u', '0', '0', hexDigit (char.toNat / 16), hexDigit (char.toNat % 16)]
  | plain (visible : 0x20 ≤ char.toNat) (unquote : char ≠ '"') (unescape : char ≠ '\\') :
      Escaped char [char]

theorem escaped_escapeChar (char : Char) : Escaped char (escapeChar char) := by
  unfold escapeChar
  split
  · subst_vars
    exact .marked (by decide)
  split
  · subst_vars
    exact .marked (by decide)
  split
  · subst_vars
    exact .marked (by decide)
  split
  · subst_vars
    exact .marked (by decide)
  split
  · subst_vars
    exact .marked (by decide)
  split
  · subst_vars
    exact .marked (by decide)
  split
  · subst_vars
    exact .marked (by decide)
  split
  · rename_i control
    exact .numbered control
  · rename_i unquote unescape _ _ _ _ _ visible
    exact .plain (Nat.not_lt.mp visible) unquote unescape

namespace Escaped

variable {char : Char} {written : List Char}

/-- However a character is written, it is read back. -/
theorem unescape? (escaped : Escaped char written) (rest : List Char) :
    Json.unescape? (written ++ rest) = (Json.unescape? rest).map (char :: ·) := by
  cases escaped with
  | marked listed =>
      simp only [List.mem_cons, Prod.mk.injEq, List.not_mem_nil, or_false] at listed
      rcases listed with ⟨rfl, rfl⟩ | ⟨rfl, rfl⟩ | ⟨rfl, rfl⟩ | ⟨rfl, rfl⟩ | ⟨rfl, rfl⟩ |
        ⟨rfl, rfl⟩ | ⟨rfl, rfl⟩ <;> rfl
  | numbered control =>
      have high := hexDigit?_hexDigit (show char.toNat / 16 < 16 by omega)
      have low := hexDigit?_hexDigit (show char.toNat % 16 < 16 by omega)
      have unit : unit? '0' '0' (hexDigit (char.toNat / 16)) (hexDigit (char.toNat % 16)) =
          some char.toNat := by
        have zero : hexDigit? '0' = some 0 := rfl
        simp only [unit?, zero, high, low, Option.bind_eq_bind, Option.bind_some]
        congr
        omega
      simp only [List.cons_append, List.nil_append]
      rw [Json.unescape?, unit]
      simp only
      rw [if_neg (by omega), if_neg (by omega), Char.ofNat_toNat]
  | plain visible unquote unescape =>
      rw [List.singleton_append, Json.unescape?]
      · exact fun _ _ _ _ _ same => absurd same unescape
      · exact fun _ _ same => absurd same unescape
      · exact fun same => absurd same unescape

end Escaped

/-! ## Where a quoted text ends -/

/-- Bytes of a quoted text that neither end it nor reach into what follows them. -/
def Inside (bytes : Bytes) : Prop :=
  ∀ rest, splitQuoted? (bytes ++ rest) =
    (splitQuoted? rest).map fun (raw, after) => (bytes ++ raw, after)

theorem inside_nil : Inside [] := by
  intro rest
  cases splitted : splitQuoted? rest <;> simp [splitted]

theorem Inside.append {left right : Bytes} (first : Inside left) (second : Inside right) :
    Inside (left ++ right) := by
  intro rest
  rw [List.append_assoc, first, second, Option.map_map]
  congr
  funext split
  simp

theorem inside_singleton {byte : UInt8} (visible : 0x20 ≤ byte.toNat)
    (unquote : byte.toNat ≠ 0x22) (unescape : byte.toNat ≠ 0x5C) : Inside [byte] := by
  intro rest
  have notQuote : byte ≠ 0x22 := fun same => unquote (congrArg UInt8.toNat same)
  have notEscape : byte ≠ 0x5C := fun same => unescape (congrArg UInt8.toNat same)
  have known : ¬(byte < 0x20 ∨ byte = 0x5C) := by
    rw [UInt8.lt_iff_toNat_lt, not_or]
    exact ⟨Nat.not_lt.mpr visible, notEscape⟩
  rw [List.singleton_append, splitQuoted?]
  · rw [if_neg known]
    rfl
  · exact notQuote
  · exact fun _ _ _ _ _ same => absurd same notEscape
  · exact fun _ _ same => absurd same notEscape

/-- Bytes that could not start an escape or end a text may stand in any number. -/
theorem inside_of_forall {bytes : Bytes} (each : ∀ byte ∈ bytes, Inside [byte]) :
    Inside bytes := by
  induction bytes with
  | nil => exact inside_nil
  | cons byte rest ih =>
      rw [List.forall_mem_cons] at each
      exact each.1.append (ih each.2)

theorem inside_encodeChar {char : Char} (visible : 0x20 ≤ char.toNat) (unquote : char ≠ '"')
    (unescape : char ≠ '\\') : Inside (String.utf8EncodeChar char) := by
  by_cases small : char.toNat < 128
  · have whole := toNat_byte (show char.toNat < 256 by omega)
    rw [encodeChar_of_lt small]
    apply inside_singleton
    · rw [whole]
      exact visible
    · rw [whole]
      exact fun same => unquote (Char.toNat_inj.mp same)
    · rw [whole]
      exact fun same => unescape (Char.toNat_inj.mp same)
  · apply inside_of_forall
    intro byte mem
    have large := le_of_mem_encodeChar (Nat.not_lt.mp small) mem
    exact inside_singleton (by omega) (by omega) (by omega)

/-- However a character is written, its bytes stay inside the text. -/
theorem Escaped.inside {char : Char} {written : List Char} (escaped : Escaped char written) :
    Inside (encode written) := by
  cases escaped with
  | marked listed =>
      simp only [List.mem_cons, Prod.mk.injEq, List.not_mem_nil, or_false] at listed
      rcases listed with ⟨rfl, rfl⟩ | ⟨rfl, rfl⟩ | ⟨rfl, rfl⟩ | ⟨rfl, rfl⟩ | ⟨rfl, rfl⟩ |
        ⟨rfl, rfl⟩ | ⟨rfl, rfl⟩ <;> exact fun _ => rfl
  | numbered control =>
      have digit (value : Fin 16) :
          encode [hexDigit value.val] = [UInt8.ofNat (hexDigit value.val).toNat] ∧
            isHexByte (UInt8.ofNat (hexDigit value.val).toNat) = true := by
        revert value
        decide
      obtain ⟨highWritten, highDigit⟩ := digit ⟨char.toNat / 16, by omega⟩
      obtain ⟨lowWritten, lowDigit⟩ := digit ⟨char.toNat % 16, by omega⟩
      have parts : ['\\', 'u', '0', '0', hexDigit (char.toNat / 16),
          hexDigit (char.toNat % 16)] = ['\\', 'u', '0', '0'] ++
            ([hexDigit (char.toNat / 16)] ++ [hexDigit (char.toNat % 16)]) := rfl
      have mark : encode ['\\', 'u', '0', '0'] = [0x5C, 0x75, 0x30, 0x30] := rfl
      rw [parts, encode_append, encode_append, mark, highWritten, lowWritten]
      intro rest
      have zero : isHexByte 0x30 = true := rfl
      simp only [List.cons_append, List.nil_append]
      rw [splitQuoted?, zero, highDigit, lowDigit]
      rfl
  | plain visible unquote unescape =>
      rw [encode, List.flatMap_singleton]
      exact inside_encodeChar visible unquote unescape

/-! ## Whole texts -/

/-- The bytes of a text between its quotes. -/
def quoted (text : String) : Bytes :=
  encode (text.toList.flatMap escapeChar)

theorem encode_writeQuoted (text : String) :
    encode (writeQuoted text) = 0x22 :: (quoted text ++ [0x22]) := by
  rw [writeQuoted, quoted]
  change encode ['"'] ++ encode (text.toList.flatMap escapeChar ++ ['"']) = _
  rw [encode_append]
  rfl

theorem unescape?_escape (chars : List Char) :
    unescape? (chars.flatMap escapeChar) = some chars := by
  induction chars with
  | nil => rfl
  | cons char rest ih =>
      rw [List.flatMap_cons, (escaped_escapeChar char).unescape?, ih]
      rfl

/-- What stands between the quotes of a text denotes the text. -/
@[simp]
theorem readQuoted?_quoted (text : String) : readQuoted? (quoted text) = some text := by
  rw [readQuoted?, quoted, decode?_encode]
  simp [unescape?_escape]

theorem inside_quoted (text : String) : Inside (quoted text) := by
  rw [quoted]
  induction text.toList with
  | nil => exact inside_nil
  | cons char rest ih =>
      rw [List.flatMap_cons, encode_append]
      exact (escaped_escapeChar char).inside.append ih

/-- The closing quote of a text is found, whatever follows it. -/
theorem splitQuoted?_quoted (text : String) (rest : Bytes) :
    splitQuoted? (quoted text ++ 0x22 :: rest) = some (quoted text, rest) := by
  have closed : splitQuoted? (0x22 :: rest) = some ([], rest) := by rw [splitQuoted?]
  rw [inside_quoted text, closed]
  simp

end EventRelay.Json

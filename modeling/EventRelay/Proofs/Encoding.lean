import EventRelay.Text.Utf8

/-!
# UTF-8 bytes read back

The bytes of a character are read back whatever follows them, and so are those of a whole text.
-/

namespace EventRelay.Text

/-- A number below 256 is the number of its byte. -/
theorem toNat_byte {number : Nat} (small : number < 256) : (UInt8.ofNat number).toNat = number :=
  UInt8.toNat_ofNat_of_lt' small

theorem continuation?_ofNat {bits : Nat} (small : bits < 64) :
    continuation? (UInt8.ofNat (bits + 128)) = some bits := by
  have number := toNat_byte (show bits + 128 < 256 by omega)
  have inside : 0x80 ≤ UInt8.ofNat (bits + 128) ∧ UInt8.ofNat (bits + 128) < 0xC0 := by
    rw [UInt8.le_iff_toNat_le, UInt8.lt_iff_toNat_lt, number]
    constructor
    · exact Nat.le_add_left 128 bits
    · exact Nat.add_lt_add_right small 128
  rw [continuation?, if_pos inside, number]
  simp

theorem charOfNat?_toNat (char : Char) : charOfNat? char.toNat = some char := by
  have valid : char.toNat < 0xD800 ∨ (0xDFFF < char.toNat ∧ char.toNat < 0x110000) := char.valid
  rw [charOfNat?, if_pos valid, Char.ofNat_toNat]

section Characters

variable {char : Char} (rest : Bytes)

theorem charOfTwo?_eq (least : 0x7F < char.toNat) (most : char.toNat ≤ 0x7FF) :
    charOfTwo? (UInt8.ofNat (char.toNat / 64 % 32 + 192))
      (UInt8.ofNat (char.toNat % 64 + 128)) = some char := by
  have first := toNat_byte (show char.toNat / 64 % 32 + 192 < 256 by omega)
  have code : (char.toNat / 64 % 32 + 192 - 0xC0) * 0x40 + char.toNat % 64 = char.toNat := by
    omega
  have inside : 192 ≤ char.toNat / 64 % 32 + 192 ∧ char.toNat / 64 % 32 + 192 < 224 ∧
      0x80 ≤ char.toNat := by
    omega
  simp only [charOfTwo?, continuation?_ofNat (show char.toNat % 64 < 64 by omega),
    UInt8.le_iff_toNat_le, UInt8.lt_iff_toNat_lt, first, code, Option.bind_eq_bind,
    Option.bind_some]
  exact (if_pos inside).trans (charOfNat?_toNat char)

theorem charOfThree?_eq (least : 0x7FF < char.toNat) (most : char.toNat ≤ 0xFFFF) :
    charOfThree? (UInt8.ofNat (char.toNat / 4096 % 16 + 224))
      (UInt8.ofNat (char.toNat / 64 % 64 + 128))
      (UInt8.ofNat (char.toNat % 64 + 128)) = some char := by
  have first := toNat_byte (show char.toNat / 4096 % 16 + 224 < 256 by omega)
  have code : (char.toNat / 4096 % 16 + 224 - 0xE0) * 0x1000 + char.toNat / 64 % 64 * 0x40 +
      char.toNat % 64 = char.toNat := by
    omega
  have inside : 224 ≤ char.toNat / 4096 % 16 + 224 ∧ char.toNat / 4096 % 16 + 224 < 240 ∧
      0x800 ≤ char.toNat := by
    omega
  simp only [charOfThree?, continuation?_ofNat (show char.toNat / 64 % 64 < 64 by omega),
    continuation?_ofNat (show char.toNat % 64 < 64 by omega), UInt8.le_iff_toNat_le,
    UInt8.lt_iff_toNat_lt, first, code, Option.bind_eq_bind, Option.bind_some]
  exact (if_pos inside).trans (charOfNat?_toNat char)

theorem charOfFour?_eq (least : 0xFFFF < char.toNat) :
    charOfFour? (UInt8.ofNat (char.toNat / 262144 % 8 + 240))
      (UInt8.ofNat (char.toNat / 4096 % 64 + 128)) (UInt8.ofNat (char.toNat / 64 % 64 + 128))
      (UInt8.ofNat (char.toNat % 64 + 128)) = some char := by
  have valid : char.toNat < 0xD800 ∨ (0xDFFF < char.toNat ∧ char.toNat < 0x110000) := char.valid
  have first := toNat_byte (show char.toNat / 262144 % 8 + 240 < 256 by omega)
  have code : (char.toNat / 262144 % 8 + 240 - 0xF0) * 0x40000 +
      char.toNat / 4096 % 64 * 0x1000 + char.toNat / 64 % 64 * 0x40 + char.toNat % 64 =
        char.toNat := by
    omega
  have inside : 240 ≤ char.toNat / 262144 % 8 + 240 ∧ char.toNat / 262144 % 8 + 240 < 248 ∧
      0x10000 ≤ char.toNat := by
    omega
  simp only [charOfFour?, continuation?_ofNat (show char.toNat / 4096 % 64 < 64 by omega),
    continuation?_ofNat (show char.toNat / 64 % 64 < 64 by omega),
    continuation?_ofNat (show char.toNat % 64 < 64 by omega), UInt8.le_iff_toNat_le,
    UInt8.lt_iff_toNat_lt, first, code, Option.bind_eq_bind, Option.bind_some]
  exact (if_pos inside).trans (charOfNat?_toNat char)

end Characters

/-- The bytes of a character are read back, whatever follows them. -/
theorem decode?_encodeChar (char : Char) (rest : Bytes) :
    decode? (String.utf8EncodeChar char ++ rest) = (decode? rest).map (char :: ·) := by
  have below {number : Nat} {bound : UInt8} (value : Nat) (is : bound.toNat = value)
      (lt : number < value) : UInt8.ofNat number < bound := by
    have small := bound.toNat_lt
    rw [UInt8.lt_iff_toNat_lt, toNat_byte (by omega), is]
    exact lt
  have above {number : Nat} {bound : UInt8} (value : Nat) (is : bound.toNat = value)
      (small : number < 256) (le : value ≤ number) : ¬UInt8.ofNat number < bound := by
    rw [UInt8.lt_iff_toNat_lt, toNat_byte small, is]
    exact Nat.not_lt.mpr le
  have whole : char.val.toNat = char.toNat := rfl
  unfold String.utf8EncodeChar
  simp only [whole]
  split
  · rw [List.singleton_append, decode?.eq_def]
    simp only
    rw [if_pos (below 128 rfl (by omega)), toNat_byte (by omega), Char.ofNat_toNat]
  · split
    · rw [List.cons_append, List.singleton_append, decode?.eq_def]
      simp only
      rw [if_neg (above 128 rfl (by omega) (by omega)),
        if_pos (below 224 rfl (by omega)), charOfTwo?_eq (by omega) (by omega)]
    · split
      · rw [List.cons_append, List.cons_append, List.singleton_append, decode?.eq_def]
        simp only
        rw [if_neg (above 128 rfl (by omega) (by omega)),
          if_neg (above 224 rfl (by omega) (by omega)),
          if_pos (below 240 rfl (by omega)), charOfThree?_eq (by omega) (by omega)]
      · rw [List.cons_append, List.cons_append, List.cons_append, List.singleton_append,
          decode?.eq_def]
        simp only
        rw [if_neg (above 128 rfl (by omega) (by omega)),
          if_neg (above 224 rfl (by omega) (by omega)),
          if_neg (above 240 rfl (by omega) (by omega)), charOfFour?_eq (by omega)]

@[simp]
theorem decode?_encode (chars : List Char) : decode? (encode chars) = some chars := by
  induction chars with
  | nil => rfl
  | cons char rest ih =>
      rw [encode, List.flatMap_cons, decode?_encodeChar]
      change (decode? (encode rest)).map _ = _
      rw [ih]
      rfl

/-! ## Which bytes a character may have -/

theorem encodeChar_of_lt {char : Char} (small : char.toNat < 128) :
    String.utf8EncodeChar char = [UInt8.ofNat char.toNat] := by
  unfold String.utf8EncodeChar
  exact if_pos (Nat.le_of_lt_succ small)

/-- No byte of a character from 128 on is that of a smaller one. -/
theorem le_of_mem_encodeChar {char : Char} (large : 128 ≤ char.toNat) {byte : UInt8}
    (mem : byte ∈ String.utf8EncodeChar char) : 128 ≤ byte.toNat := by
  have whole : char.val.toNat = char.toNat := rfl
  unfold String.utf8EncodeChar at mem
  simp only [whole] at mem
  rw [if_neg (by omega)] at mem
  have known : ∀ number, 128 ≤ number → number < 256 → 128 ≤ (UInt8.ofNat number).toNat := by
    intro number le small
    rw [toNat_byte small]
    exact le
  split at mem
  · simp only [List.mem_cons, List.not_mem_nil, or_false] at mem
    rcases mem with rfl | rfl <;> exact known _ (by omega) (by omega)
  · split at mem
    · simp only [List.mem_cons, List.not_mem_nil, or_false] at mem
      rcases mem with rfl | rfl | rfl <;> exact known _ (by omega) (by omega)
    · simp only [List.mem_cons, List.not_mem_nil, or_false] at mem
      rcases mem with rfl | rfl | rfl | rfl <;> exact known _ (by omega) (by omega)

end EventRelay.Text

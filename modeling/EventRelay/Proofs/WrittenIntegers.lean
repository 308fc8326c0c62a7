import EventRelay.Json.Token
import EventRelay.Proofs.Encoding

/-!
# Integers read back

The digits of an integer are split off from what follows them, as long as that continues no
number, and an integer of a machine word denotes itself.
-/

namespace EventRelay

/-! ## Digits -/

namespace Decimal

theorem isDigit_of_mem_natDigits {value : Nat} {char : Char} (mem : char ∈ natDigits value) :
    char.isDigit = true :=
  Nat.isDigit_of_mem_toDigits (by decide) (by decide) mem

theorem natDigits_ne_nil (value : Nat) : natDigits value ≠ [] :=
  Nat.toDigits_ne_nil

theorem exists_cons_of_isDigit {digits : List Char} (nonempty : digits ≠ [])
    (each : ∀ char ∈ digits, char.isDigit = true) :
    ∃ first rest, digits = first :: rest ∧ first.isDigit = true := by
  obtain ⟨first, rest, rfl⟩ := List.exists_cons_of_ne_nil nonempty
  exact ⟨first, rest, rfl, each first List.mem_cons_self⟩

/-- A positive number does not start with a zero. -/
theorem head?_natDigits {value : Nat} (positive : 0 < value) :
    (natDigits value).head? ≠ some '0' := by
  induction value using Nat.strongRecOn with
  | ind value ih =>
      rw [natDigits, Nat.toDigits_eq_if (by decide)]
      split
      · have small : ∀ digit : Fin 10, 0 < digit.val →
            [Nat.digitChar digit.val].head? ≠ some '0' := by
          decide
        exact small ⟨value, by assumption⟩ positive
      · have before := ih (value / 10) (by omega) (by omega)
        rw [List.head?_append, Option.or_of_isSome]
        · exact before
        · rw [List.isSome_head?]
          simp [Nat.toDigits_ne_nil]

end Decimal

namespace Json

open Decimal Text

/-- A digit is one byte. -/
theorem exists_byte_of_isDigit {char : Char} (digit : char.isDigit = true) :
    ∃ byte, (∀ others, encode (char :: others) = byte :: encode others) ∧
      isDigitByte byte = true ∧ Char.ofNat byte.toNat = char := by
  obtain ⟨least, most⟩ : 48 ≤ char.toNat ∧ char.toNat ≤ 57 := by
    simpa [Char.isDigit, UInt32.le_iff_toNat_le] using digit
  have whole := toNat_byte (show char.toNat < 256 by omega)
  refine ⟨UInt8.ofNat char.toNat, ?_, ?_, ?_⟩
  · intro others
    rw [encode, List.flatMap_cons, encodeChar_of_lt (by omega)]
    rfl
  · simp only [isDigitByte, UInt8.le_iff_toNat_le, whole, Bool.and_eq_true, decide_eq_true_eq]
    exact ⟨least, most⟩
  · rw [whole, Char.ofNat_toNat]

/-- A number starts with a digit. -/
theorem exists_byte_natDigits (value : Nat) :
    ∃ byte bytes, encode (natDigits value) = byte :: bytes ∧ isDigitByte byte = true := by
  obtain ⟨first, rest, digits, isDigit⟩ :=
    exists_cons_of_isDigit (natDigits_ne_nil value) fun _ => isDigit_of_mem_natDigits
  obtain ⟨byte, written, isByte, _⟩ := exists_byte_of_isDigit isDigit
  exact ⟨byte, encode rest, by rw [digits, written], isByte⟩

/-- What follows a number does not continue it. -/
def EndsNumber (rest : Bytes) : Prop :=
  ∀ byte ∈ rest.head?, isDigitByte byte = false ∧ byte ≠ 0x2E ∧ byte ≠ 0x65 ∧ byte ≠ 0x45

variable {rest : Bytes}

/-- Digits are split off from what continues no number. -/
theorem splitDigits_encode {digits : List Char} (each : ∀ char ∈ digits, char.isDigit = true)
    (ends : EndsNumber rest) : splitDigits (encode digits ++ rest) = (digits, rest) := by
  induction digits with
  | nil =>
      cases rest with
      | nil => rfl
      | cons byte rest =>
          have other := (ends byte rfl).1
          simp [splitDigits, other]
  | cons char digits ih =>
      rw [List.forall_mem_cons] at each
      obtain ⟨byte, written, isDigit, read⟩ := exists_byte_of_isDigit each.1
      obtain ⟨taken, dropped⟩ := Prod.mk.inj (ih each.2)
      rw [written, List.cons_append, splitDigits, List.takeWhile_cons_of_pos isDigit,
        List.dropWhile_cons_of_pos isDigit, List.map_cons, read, taken, dropped]

/-- The whole part of a number is split off: it has digits, and no idle zero before them. -/
theorem splitWhole?_natDigits (value : Nat) (ends : EndsNumber rest) :
    splitWhole? (encode (natDigits value) ++ rest) = some (natDigits value, rest) := by
  rw [splitWhole?, splitDigits_encode (fun _ => isDigit_of_mem_natDigits) ends]
  split
  · rename_i same
    exact absurd (Prod.mk.inj same).1 (natDigits_ne_nil value)
  · rename_i same
    have idle := (Prod.mk.inj same).1
    cases value with
    | zero =>
        have zero : natDigits 0 = ['0'] := rfl
        rw [zero] at idle
        simp at idle
    | succ value =>
        have first := head?_natDigits (Nat.succ_pos value)
        rw [idle] at first
        simp at first
  · rename_i same
    obtain ⟨rfl, rfl⟩ := Prod.mk.inj same
    rfl

/-! ## Integers -/

/-- The written form of an integer. -/
def Numeral.ofInt (value : Int) : Numeral :=
  ⟨decide (value < 0), natDigits value.natAbs, none, none⟩

theorem splitFraction?_of_endsNumber (ends : EndsNumber rest) :
    splitFraction? rest = some (none, rest) := by
  unfold splitFraction?
  split
  · exact absurd rfl (ends _ rfl).2.1
  · rfl

theorem splitExponent?_of_endsNumber (ends : EndsNumber rest) :
    splitExponent? rest = some (none, rest) := by
  cases rest with
  | nil => rfl
  | cons mark rest =>
      obtain ⟨_, _, small, large⟩ := ends mark rfl
      unfold splitExponent?
      exact if_neg (not_or.mpr ⟨small, large⟩)

/-- The digits of an integer are split off from what continues no number. -/
theorem splitNumeral?_intDigits (value : Int) (ends : EndsNumber rest) :
    splitNumeral? (encode (intDigits value) ++ rest) = some (Numeral.ofInt value, rest) := by
  have parts (negative : Bool) :
      ((splitWhole? (encode (natDigits value.natAbs) ++ rest)).bind fun whole =>
        (splitFraction? whole.2).bind fun fraction =>
          (splitExponent? fraction.2).bind fun exponent =>
            some (⟨negative, whole.1, fraction.1, exponent.1⟩, exponent.2)) =
        some ((⟨negative, natDigits value.natAbs, none, none⟩ : Numeral), rest) := by
    rw [splitWhole?_natDigits _ ends]
    simp only [Option.bind_some, splitFraction?_of_endsNumber ends,
      splitExponent?_of_endsNumber ends]
  unfold intDigits Numeral.ofInt
  by_cases negative : value < 0
  · have minus : encode ('-' :: natDigits value.natAbs) = 0x2D :: encode (natDigits value.natAbs) :=
      encode_append ['-'] _
    rw [if_pos negative, minus, decide_eq_true negative]
    exact parts true
  · rw [if_neg negative, decide_eq_false negative, ← parts false, splitNumeral?]
    · rfl
    · intro after signed
      obtain ⟨byte, bytes, written, isDigit⟩ := exists_byte_natDigits value.natAbs
      rw [written, List.cons_append] at signed
      rw [(List.cons.inj signed).1] at isDigit
      contradiction

/-- An integer that fits a machine word denotes itself. -/
theorem Numeral.number?_ofInt {value : Int} (least : Word.leastSigned ≤ value)
    (most : value < UInt64.size) : (Numeral.ofInt value).number? = some (.integer value) := by
  unfold Word.leastSigned at least
  unfold UInt64.size at most
  unfold Numeral.number? Numeral.ofInt Word.signBit UInt64.size
  simp only [natOfDigits_natDigits, Option.isNone_none, Bool.and_self, if_true, decide_eq_true_eq]
  split
  · have size : 0 < value.natAbs ∧ value.natAbs ≤ 9223372036854775808 := by omega
    rw [if_pos size]
    congr
    omega
  · rw [if_pos (by omega)]
    congr
    omega

end Json

end EventRelay

import EventRelay.Instant.Printer
import EventRelay.Instant.Reader
import EventRelay.Proofs.CalendarDays
import EventRelay.Proofs.WrittenIntegers
import Mathlib.Algebra.Group.Nat.Defs

/-!
# Written instants read back

The relaxed form takes more spellings than the one that instants are written in, but it takes
that one: each part is read from where it stands and leaves what follows, and the parts name the
instant that was written, a leap second and a year with a sign included. Of an instant written
with milliseconds only what is less than one is lost.
-/

namespace EventRelay

/-! ## Padded numbers -/

namespace Decimal

@[simp]
theorem natOfDigits_padded (width value : Nat) : natOfDigits (padded width value) = value := by
  rw [padded, natOfDigits, Nat.ofDigitChars_append, Nat.ofDigitChars_replicate_zero, Nat.mul_zero]
  exact natOfDigits_natDigits value

theorem length_padded {width value : Nat} (positive : 0 < width) (fits : value < 10 ^ width) :
    (padded width value).length = width := by
  have length : (natDigits value).length ≤ width :=
    (Nat.length_toDigits_le_iff (by decide) positive).mpr fits
  simp only [padded, List.length_append, List.length_replicate]
  exact Nat.sub_add_cancel length

theorem isDigit_of_mem_padded {width value : Nat} {char : Char} (mem : char ∈ padded width value) :
    char.isDigit = true := by
  rw [padded, List.mem_append] at mem
  rcases mem with zero | digit
  · rw [List.eq_of_mem_replicate zero]
    rfl
  · exact isDigit_of_mem_natDigits digit

theorem exists_cons_padded (width value : Nat) :
    ∃ first rest, padded width value = first :: rest ∧ first.isDigit = true :=
  exists_cons_of_isDigit (List.append_ne_nil_of_right_ne_nil _ (natDigits_ne_nil value))
    fun _ => isDigit_of_mem_padded

end Decimal

namespace Instant

open Decimal Text

/-! ## Readers -/

section Readers

variable {α β : Type} {chars rest : List Char}

/-- One reader after another. -/
theorem bind_reads {reader : Reader α} {next : α → Reader β} {value : α}
    (reads : reader chars = some (value, rest)) : (reader >>= next) chars = next value rest := by
  change (reader chars).bind (fun (value, rest) => next value rest) = _
  rw [reads]
  rfl

/-- Digits are not blank. -/
theorem isBlankChar_of_isDigit {char : Char} (digit : char.isDigit = true) :
    isBlankChar char = false := by
  obtain ⟨least, most⟩ : 48 ≤ char.toNat ∧ char.toNat ≤ 57 := by
    simpa [Char.isDigit, UInt32.le_iff_toNat_le] using digit
  rw [Bool.eq_false_iff]
  intro blank
  simp [isBlankChar, blankRanges] at blank
  omega

theorem readBlanks_cons {first : Char} (visible : isBlankChar first = false) :
    readBlanks (first :: rest) = some ((), first :: rest) := by
  rw [readBlanks, trimStart, List.dropWhile_cons_of_neg (by simp [visible])]

/-- What follows digits is no digit. -/
def EndsDigits (rest : List Char) : Prop :=
  ∀ char ∈ rest.head?, char.isDigit = false

theorem endsDigits_cons {char : Char} (other : char.isDigit = false) (rest : List Char) :
    EndsDigits (char :: rest) := by
  intro first same
  obtain rfl : char = first := Option.some.inj same
  exact other

theorem takeWhile_isDigit {digits : List Char} (each : ∀ char ∈ digits, char.isDigit = true)
    (ends : EndsDigits rest) : (digits ++ rest).takeWhile Char.isDigit = digits := by
  rw [List.takeWhile_append_of_pos each]
  cases rest with
  | nil => exact List.append_nil digits
  | cons char rest =>
      have other := ends char rfl
      rw [List.takeWhile_cons_of_neg (by simp [other]), List.append_nil]

/-- A number of as many digits as a reader takes at most is read, whatever follows it. -/
theorem readNumber_padded {least width value : Nat} (positive : 0 < width)
    (fits : value < 10 ^ width) (least_le : least ≤ width) (rest : List Char) :
    readNumber least width (padded width value ++ rest) = some (value, rest) := by
  have length := length_padded positive fits
  have digits : (padded width value ++ []).takeWhile Char.isDigit = padded width value :=
    takeWhile_isDigit (fun _ => isDigit_of_mem_padded) nofun
  rw [List.append_nil] at digits
  simp only [readNumber]
  rw [List.take_left' length, digits, length, if_pos least_le, natOfDigits_padded,
    List.drop_left' length]

/-- A number that ends is read, however many digits are taken. -/
theorem readNumber_ends {width value : Nat} (ends : EndsDigits rest) :
    readNumber 1 (padded width value ++ rest).length (padded width value ++ rest) =
      some (value, rest) := by
  obtain ⟨first, others, digits, _⟩ := exists_cons_padded width value
  have nonempty : 1 ≤ (padded width value).length := by
    rw [digits]
    exact Nat.le_add_left 1 others.length
  simp only [readNumber]
  rw [List.take_length, takeWhile_isDigit (fun _ => isDigit_of_mem_padded) ends, if_pos nonempty,
    natOfDigits_padded, List.drop_left]

theorem readSpacedChar_cons {char : Char} (visible : isBlankChar char = false)
    (rest : List Char) : readSpacedChar char (char :: rest) = some ((), rest) := by
  rw [readSpacedChar, bind_reads (readBlanks_cons visible), readChar]
  exact if_pos rfl

theorem readShort_padded {value : Nat} (fits : value < 100) (rest : List Char) :
    readShort (padded 2 value ++ rest) = some (value, rest) := by
  obtain ⟨first, others, digits, isDigit⟩ := exists_cons_padded 2 value
  have kept : readBlanks (padded 2 value ++ rest) = some ((), padded 2 value ++ rest) := by
    rw [digits]
    exact readBlanks_cons (isBlankChar_of_isDigit isDigit)
  rw [readShort, bind_reads kept]
  exact readNumber_padded (by decide) fits (by decide) rest

end Readers

/-- A year is read with its sign, if it has one. -/
theorem readYear_writeYear (year : Int) {rest : List Char} (ends : EndsDigits rest) :
    readYear (writeYear year ++ rest) = some (year, rest) := by
  unfold writeYear
  split
  · rename_i unsigned
    have fits : year.toNat < 10 ^ 4 := by omega
    have whole : (year.toNat : Int) = year := Int.toNat_of_nonneg unsigned.1
    obtain ⟨first, others, digits, isDigit⟩ := exists_cons_padded 4 year.toNat
    have number := readNumber_padded (by decide) fits (show 1 ≤ 4 by decide) rest
    rw [digits] at number ⊢
    rw [readYear, List.cons_append, bind_reads (readBlanks_cons (isBlankChar_of_isDigit isDigit))]
    split
    · rename_i same
      rw [(List.cons.inj same).1] at isDigit
      contradiction
    · rename_i same
      rw [(List.cons.inj same).1] at isDigit
      contradiction
    · change Option.map _ (readNumber 1 4 (first :: others ++ rest)) = _
      rw [number]
      simp only [Option.map_some, whole]
  · split
    · rename_i negative
      have whole : -(year.natAbs : Int) = year := by omega
      rw [readYear, List.cons_append, bind_reads (readBlanks_cons (by decide))]
      simp only
      rw [readNumber_ends ends]
      simp only [Option.map_some, whole]
    · rename_i signed
      have whole : (year.natAbs : Int) = year := by omega
      rw [readYear, List.cons_append, bind_reads (readBlanks_cons (by decide))]
      simp only
      rw [readNumber_ends ends]
      simp only [Option.map_some, whole]

/-- Digits after a point count from the left. -/
theorem readFraction_padded {width value : Nat} (positive : 0 < width) (most : width ≤ 9)
    (fits : value < 10 ^ width) {rest : List Char} (ends : EndsDigits rest) :
    readFraction ('.' :: (padded width value ++ rest)) =
      some (value * 10 ^ (9 - width), rest) := by
  have length := length_padded positive fits
  have nonempty : ¬(padded width value).isEmpty = true := by
    rw [List.isEmpty_iff_length_eq_zero, length]
    omega
  have counted : (padded width value).take 9 = padded width value :=
    List.take_of_length_le (by omega)
  simp only [readFraction]
  rw [takeWhile_isDigit (fun _ => isDigit_of_mem_padded) ends, if_neg nonempty, counted,
    natOfDigits_padded, length, List.drop_left' length]
  rfl

/-- What is left of the nanoseconds of a second. -/
def Precision.kept (precision : Precision) (nanos : Nat) : Nat :=
  match precision with
  | .millis => nanos / 1000000 * 1000000
  | .fewest => nanos

/-- A fraction of a second loses what its precision does not keep. -/
theorem readFraction_writeFraction (precision : Precision) {nanos : Nat}
    (small : nanos < 1000000000) (rest : List Char) :
    readFraction (writeFraction precision nanos ++ 'Z' :: rest) =
      some (precision.kept nanos, 'Z' :: rest) := by
  have ends : EndsDigits ('Z' :: rest) := endsDigits_cons rfl rest
  have count (width unit : Nat) (positive : 0 < width) (most : width ≤ 9)
      (fits : nanos / unit < 10 ^ width) (units : 10 ^ (9 - width) = unit) :
      readFraction ('.' :: (padded width (nanos / unit) ++ 'Z' :: rest)) =
        some (nanos / unit * unit, 'Z' :: rest) := by
    rw [readFraction_padded positive most fits ends, units]
  have whole {unit : Nat} (divides : nanos % unit = 0) : nanos / unit * unit = nanos :=
    Nat.div_mul_cancel (Nat.dvd_of_mod_eq_zero divides)
  cases precision with
  | millis => exact count 3 1000000 (by decide) (by decide) (by omega) rfl
  | fewest =>
      simp only [writeFraction, Precision.kept]
      split
      · rename_i none
        rw [none]
        rfl
      split
      · rename_i millis
        rw [List.cons_append, count 3 1000000 (by decide) (by decide) (by omega) rfl, whole millis]
      split
      · rename_i micros
        rw [List.cons_append, count 6 1000 (by decide) (by decide) (by omega) rfl, whole micros]
      · have all := count 9 1 (by decide) (by decide) (by omega) rfl
        rwa [Nat.div_one, Nat.mul_one] at all

/-! ## Whole instants -/

/-- The parts that an instant is written in. -/
def parts (instant : Instant) : Parts where
  date := instant.date
  hour := instant.secondOfDay / 3600
  minute := instant.secondOfDay / 60 % 60
  second := instant.secondOfDay % 60 + if instant.nanos < 1000000000 then 0 else 1
  nanos := instant.nanos % 1000000000
  offset := 0

theorem isValid_date (instant : Instant) : instant.date.isValid = true := by
  obtain ⟨least, most⟩ := instant.inRange
  exact Date.isValid_ofNumber (by omega) (by omega)

theorem secondOfDay_lt (instant : Instant) : instant.secondOfDay < 86400 := by
  unfold secondOfDay
  omega

/-- The parts of an instant name it. -/
theorem instant?_parts (instant : Instant) : instant.parts.instant? = some instant := by
  have number : instant.date.number = instant.seconds / 86400 := Date.number_ofNumber _
  have ofDay : (instant.secondOfDay : Int) = instant.seconds % 86400 :=
    Int.toNat_of_nonneg (Int.emod_nonneg _ (by decide))
  have small := instant.secondOfDay_lt
  have nanos := instant.nanos_lt
  have hour : instant.parts.hour < 24 := by
    simp only [parts]
    omega
  have minute : instant.parts.minute < 60 := Nat.mod_lt _ (by decide)
  have second : instant.parts.second ≤ 60 := by
    simp only [parts]
    split <;> omega
  have offset : instant.parts.offset.natAbs < 86400 := by
    change Int.natAbs 0 < 86400
    decide
  rw [Parts.instant?, if_pos, ofParts?_eq_some_iff]
  · simp only [parts, number]
    split
    · rw [if_neg (by omega)]
      constructor <;> omega
    · rw [if_pos (by omega)]
      constructor <;> omega
  · simp only [Bool.and_eq_true, decide_eq_true_eq]
    exact ⟨⟨⟨⟨instant.isValid_date, hour⟩, minute⟩, second⟩, offset⟩

/-- The parts of an instant are read from its text, as far as its precision keeps them. -/
theorem readRelaxedParts_write (instant : Instant) (precision : Precision) :
    readRelaxedParts (instant.write precision) =
      some ({ instant.parts with nanos := precision.kept instant.parts.nanos }, []) := by
  have valid := instant.isValid_date
  simp only [Date.isValid, Bool.and_eq_true, decide_eq_true_eq] at valid
  have month : instant.date.month < 100 := by omega
  have day : instant.date.day < 100 := by
    have length := Date.monthLength_le instant.date.year instant.date.month
    omega
  have small := instant.secondOfDay_lt
  have second : (instant.secondOfDay % 60 + if instant.nanos < 1000000000 then 0 else 1) < 100 := by
    split <;> omega
  have dash : isBlankChar '-' = false := by decide
  have colon : isBlankChar ':' = false := by decide
  simp only [write, writeDate, List.append_assoc, List.cons_append]
  rw [readRelaxedParts, bind_reads (readYear_writeYear _ (endsDigits_cons rfl _)),
    bind_reads (readSpacedChar_cons dash _), bind_reads (readShort_padded month _),
    bind_reads (readSpacedChar_cons dash _), bind_reads (readShort_padded day _),
    bind_reads (show readSeparator ('T' :: _) = some ((), _) from rfl),
    bind_reads (readShort_padded (by omega) _),
    bind_reads (readSpacedChar_cons colon _), bind_reads (readShort_padded (by omega) _),
    bind_reads (readSpacedChar_cons colon _), bind_reads (readShort_padded second _),
    bind_reads (readFraction_writeFraction precision (by omega) _),
    bind_reads (readBlanks_cons (by decide)),
    bind_reads (show readLooseOffset ['Z'] = some (0, []) from rfl),
    bind_reads (show readBlanks [] = some ((), []) from rfl)]
  rfl

/-- A written instant is read back. -/
theorem readRelaxed?_toText (instant : Instant) : readRelaxed? instant.toText = some instant := by
  rw [readRelaxed?, toText, String.toList_ofList, StateT.run, readRelaxedParts_write]
  exact instant.instant?_parts

/-! ## Milliseconds -/

/-- An instant without what is less than a millisecond. -/
def truncated (instant : Instant) : Instant where
  seconds := instant.seconds
  nanos := instant.nanos / 1000000 * 1000000
  inRange := instant.inRange
  nanos_lt := by
    have nanos_lt := instant.nanos_lt
    omega

end Instant

end EventRelay

import EventRelay.Json.Scalar
import EventRelay.Proofs.WrittenInstants
import EventRelay.Proofs.WrittenValues

/-!
# Scalars read back

Identifiers, instants, texts and machine integers are each written in one of the spellings that
are read, so a written scalar denotes itself. Lists of what denotes itself do too, and a written
object is opened as a record with the members that were written.
-/

namespace EventRelay

namespace Uuid

open Text

theorem digit?_hexDigit (digit : Fin 16) : digit? (hexDigit digit.val) = some digit := by
  simp [digit?, hexDigit?_hexDigit digit.isLt]

theorem mapM_digit?_writeDigits (digits : List (Fin 16)) :
    (writeDigits digits).mapM digit? = some digits := by
  induction digits with
  | nil => rfl
  | cons digit rest ih =>
      rw [writeDigits, List.map_cons, List.mapM_cons, digit?_hexDigit]
      change (do let others ← (writeDigits rest).mapM digit?; return digit :: others) = _
      rw [ih]
      rfl

theorem readPlain?_writeDigits (uuid : Uuid) :
    readPlain? (writeDigits uuid.digits) = some uuid := by
  rw [readPlain?, mapM_digit?_writeDigits]
  exact dif_pos uuid.length_eq

/-- Five groups with hyphens between them are read as the digits without the hyphens. -/
theorem readHyphenated?_groups {first second third fourth : List Char} (last : List Char)
    (firstLength : first.length = 8) (secondLength : second.length = 4)
    (thirdLength : third.length = 4) (fourthLength : fourth.length = 4) :
    readHyphenated? (first ++ '-' :: (second ++ '-' :: (third ++ '-' :: (fourth ++ '-' :: last)))) =
      readPlain? (first ++ second ++ third ++ fourth ++ last) := by
  simp [readHyphenated?, List.drop_append, List.drop_of_length_le, firstLength,
    secondLength, thirdLength, fourthLength]

/-- The groups of digits make up all of them. -/
theorem writeDigits_groups (digits : List (Fin 16)) :
    writeDigits (digits.take 8) ++ writeDigits ((digits.drop 8).take 4) ++
        writeDigits ((digits.drop 12).take 4) ++ writeDigits ((digits.drop 16).take 4) ++
        writeDigits (digits.drop 20) = writeDigits digits := by
  have joined (start count : Nat) :
      (digits.drop start).take count ++ digits.drop (start + count) = digits.drop start := by
    rw [← List.drop_drop, List.take_append_drop]
  simp only [writeDigits, ← List.map_append, List.append_assoc]
  rw [joined 16 4, joined 12 4, joined 8 4, List.take_append_drop]

/-- A written identifier is read back. -/
theorem ofText?_toText (uuid : Uuid) : ofText? uuid.toText = some uuid := by
  have length : uuid.write.length = 36 := by
    simp [write, writeDigits, uuid.length_eq]
  rw [ofText?, toText, String.toList_ofList]
  simp only [length]
  rw [write, readHyphenated?_groups _ (by simp [writeDigits, uuid.length_eq])
    (by simp [writeDigits, uuid.length_eq]) (by simp [writeDigits, uuid.length_eq])
    (by simp [writeDigits, uuid.length_eq]), writeDigits_groups, readPlain?_writeDigits]

end Uuid

namespace Json

/-- A form whose values are written as documents that are read as these values. -/
structure Faithful {α : Type} (write : α → Value) (read : Tree → Option α) : Prop where
  integral (content : α) : (write content).Integral
  reads (content : α) : read (write content).tree = some content

namespace Faithful

variable {α : Type} {write : α → Value} {read : Tree → Option α}

/-- What is written is read back from its bytes. -/
theorem parse? (faithful : Faithful write read) (content : α) :
    (Tree.parse? (write content).toBytes).bind read = some content := by
  rw [(faithful.integral content).parse?_toBytes, Option.bind_some, faithful.reads]

/-! ## Scalars -/

theorem text : Faithful Value.text Tree.text? where
  integral := .text
  reads := readQuoted?_quoted

theorem nullableText : Faithful Value.ofText? Tree.nullableText? where
  integral content := by
    cases content with
    | none => exact .null
    | some content => exact .text content
  reads content := by
    cases content with
    | none => rfl
    | some content => exact congrArg (Option.map some) (text.reads content)

theorem uuid : Faithful Value.ofUuid Tree.uuid? where
  integral uuid := .text uuid.toText
  reads uuid := by
    rw [Tree.uuid?, Value.ofUuid, text.reads]
    exact uuid.ofText?_toText

theorem instant : Faithful Value.ofInstant Tree.instant? where
  integral instant := .text instant.toText
  reads instant := by
    rw [Tree.instant?, Value.ofInstant, text.reads]
    exact instant.readRelaxed?_toText

theorem integer?_integer {least most value : Int} (atLeast : least ≤ value) (atMost : value ≤ most)
    (floor : Word.leastSigned ≤ value) (ceiling : value < UInt64.size) :
    Tree.integer? least most (Value.number (.integer value)).tree = some value := by
  rw [Value.tree, numeral_integer, Tree.integer?, Numeral.number?_ofInt floor ceiling]
  exact if_pos ⟨atLeast, atMost⟩

/-- An unsigned integer of thirty-two bits fits a machine word. -/
theorem word_of_uint32 (value : UInt32) :
    Word.leastSigned ≤ (value.toNat : Int) ∧ (value.toNat : Int) < UInt64.size := by
  have small := value.toNat_lt
  unfold Word.leastSigned UInt64.size
  omega

/-- A signed integer of sixty-four bits fits a machine word. -/
theorem word_of_int64 (value : Int64) :
    Word.leastSigned ≤ value.toInt ∧ value.toInt < UInt64.size := by
  have least := value.le_toInt
  have most := value.toInt_lt
  unfold Word.leastSigned UInt64.size
  omega

theorem uint32 : Faithful Value.ofUInt32 Tree.uint32? where
  integral value := .number (word_of_uint32 value).1 (word_of_uint32 value).2
  reads value := by
    have small := value.toNat_lt
    have most : (value.toNat : Int) ≤ UInt32.size - 1 := by
      unfold UInt32.size
      omega
    obtain ⟨floor, ceiling⟩ := word_of_uint32 value
    rw [Tree.uint32?, Value.ofUInt32,
      integer?_integer (Int.natCast_nonneg _) most floor ceiling, Option.map_some]
    simp

theorem int64 : Faithful Value.ofInt64 Tree.int64? where
  integral value := .number (word_of_int64 value).1 (word_of_int64 value).2
  reads value := by
    have most : value.toInt ≤ Word.mostSigned := Int.le_of_lt_add_one value.toInt_lt
    obtain ⟨floor, ceiling⟩ := word_of_int64 value
    rw [Tree.int64?, Value.ofInt64, integer?_integer floor most floor ceiling, Option.map_some]
    simp

/-! ## Lists and records -/

theorem list (each : Faithful write read) :
    Faithful (fun items => .list (items.map write)) (Tree.list? read) where
  integral items := by
    apply Value.Integral.list
    intro item mem
    obtain ⟨content, _, rfl⟩ := List.mem_map.mp mem
    exact each.integral content
  reads items := by
    rw [Value.tree, Tree.list?]
    induction items with
    | nil => rfl
    | cons content rest ih =>
        rw [List.map_cons, itemTrees, List.mapM_cons, each.reads, ih]
        rfl

end Faithful

/-- A written object is opened with its names. -/
theorem Tree.record?_object (count : Nat) (members : List (String × Value)) :
    Tree.record? count (Value.object members).tree =
      some (.members (members.map fun (name, value) => (name, value.tree))) := by
  have named : (memberTrees members).mapM (fun member =>
      (readQuoted? member.1).bind fun name => some (name, member.2)) =
        some (members.map fun (name, value) => (name, value.tree)) := by
    induction members with
    | nil => rfl
    | cons member rest ih =>
        obtain ⟨name, value⟩ := member
        rw [memberTrees, List.mapM_cons, ih]
        simp
  change ((memberTrees members).mapM fun member =>
    (readQuoted? member.1).bind fun name => some (name, member.2)).bind
      (fun entries => some (Record.members entries)) = _
  rw [named]
  rfl

end Json

end EventRelay

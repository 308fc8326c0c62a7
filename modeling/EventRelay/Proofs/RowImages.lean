import EventRelay.Outbox.Decoding

/-!
# The image that a record holds

Behind its frame and inside its wrapper the value of a record is a document that is a row, or
tells of a change after which there is one. This image, and the schema id of the frame, is all
that decoding takes from the value. There is none after a change that left no row.
-/

namespace EventRelay.Outbox

open Json (Tree Value)

variable {record : SourceRecord} {schemaId : Option Nat} {image? : Option Value}

theorem mapError_eq_ok_iff {ε δ α : Type} {result : Except ε α} {wrap : ε → δ} {value : α} :
    result.mapError wrap = .ok value ↔ result = .ok value := by
  cases result with
  | error fault => exact ⟨nofun, nofun⟩
  | ok other =>
      change Except.ok other = Except.ok value ↔ _
      constructor
      · rintro ⟨⟩
        rfl
      · rintro ⟨⟩
        rfl

theorem eq_ok_of_toOption {ε α : Type} {result : Except ε α} {value : α}
    (made : result.toOption = some value) : result = .ok value := by
  cases result with
  | error fault => contradiction
  | ok other => rw [Option.some.inj made]

/-- What is made of an image, if there is any. -/
def decodeImage (now : Instant) (record : SourceRecord) (schemaId : Option Nat) :
    Option Value → Except DecodeFault Decoded
  | none => .ok (.skipped noImageReason)
  | some image => sealRow now record schemaId image

/-- A record holds an image, or tells of a change that left none, behind a frame with this
schema id. -/
inductive Holds (record : SourceRecord) : Option Nat → Option Value → Prop
  | intro {content : Bytes} {tree : Tree} {value : Value}
      (spoken : record.content? = some content)
      (parsed : Tree.parse? (unframe content).2 = some tree)
      (denotes : Value.ofTree? Json.depthLimit tree = some value) :
      Holds record (unframe content).1 (rowImage? (unwrap tree value))

/-! ## Values without a frame -/

variable {tree : Tree} {value : Value} {text : Bytes}

theorem parse?_nil : Tree.parse? [] = none := rfl

/-- No document starts with a zero byte. -/
theorem parse?_zero (rest : Bytes) : Tree.parse? (0 :: rest) = none := rfl

theorem unframe_of_ne_zero {first : UInt8} (rest : Bytes) (unmarked : first ≠ 0) :
    unframe (first :: rest) = (none, first :: rest) := by
  unfold unframe
  split
  · rename_i same
    exact absurd (List.cons.inj same).1 unmarked
  · rfl

theorem unframe_of_parse? (parsed : Tree.parse? text = some tree) :
    unframe text = (none, text) := by
  cases text with
  | nil => rfl
  | cons first rest =>
      apply unframe_of_ne_zero
      rintro rfl
      rw [parse?_zero] at parsed
      contradiction

/-- A document without a frame is read as it is. -/
theorem holds_of_parse? (told : record.value = some text) (parsed : Tree.parse? text = some tree)
    (denotes : Value.ofTree? Json.depthLimit tree = some value) :
    Holds record none (rowImage? (unwrap tree value)) := by
  have unframed := unframe_of_parse? parsed
  have spoken : record.content? = some text := by
    cases text with
    | nil => contradiction
    | cons first rest =>
        rw [SourceRecord.content?, told]
        rfl
  have holds := Holds.intro spoken (by rw [unframed]; exact parsed) denotes
  rw [unframed] at holds
  exact holds

/-! ## Decoding an image -/

/-- A record is decoded from the image that it holds. -/
theorem Holds.decoder (holds : Holds record schemaId image?) (now : Instant) :
    decoder now record = (decodeImage now record schemaId image?).mapError .decode := by
  obtain @⟨content, tree, value, spoken, parsed, denotes⟩ := holds
  rw [Outbox.decoder, decode, spoken]
  dsimp only
  rw [decodeContent]
  simp only [parsed, denotes]
  cases rowImage? (unwrap tree value) <;> rfl

/-- A record holds one image only. -/
theorem Holds.unique {other : Option Nat} {twin? : Option Value}
    (holds : Holds record schemaId image?) (also : Holds record other twin?) :
    schemaId = other ∧ image? = twin? := by
  obtain @⟨content, tree, value, spoken, parsed, denotes⟩ := holds
  obtain @⟨_, _, _, respoken, reparsed, redenotes⟩ := also
  obtain rfl := Option.some.inj (spoken.symm.trans respoken)
  obtain rfl := Option.some.inj (parsed.symm.trans reparsed)
  obtain rfl := Option.some.inj (denotes.symm.trans redenotes)
  exact ⟨rfl, rfl⟩

/-- A record that holds nothing cannot be decoded. -/
theorem exists_holds_or_fault (now : Instant) (record : SourceRecord) :
    (∃ schemaId image?, Holds record schemaId image?) ∨
      ∃ fault, decoder now record = .error (.decode fault) := by
  rw [decoder, decode]
  cases spoken : record.content? with
  | none => exact .inr ⟨_, rfl⟩
  | some content =>
      dsimp only
      rw [decodeContent]
      cases parsed : Tree.parse? (unframe content).2 with
      | none => exact .inr ⟨_, by simp only [parsed]; rfl⟩
      | some tree =>
          cases denotes : Value.ofTree? Json.depthLimit tree with
          | none => exact .inr ⟨_, by simp only [parsed, denotes]; rfl⟩
          | some value => exact .inl ⟨_, _, spoken, parsed, denotes⟩

/-- Whatever is decoded to an event holds an image that makes the event. -/
theorem exists_holds_of_event {now : Instant} {envelope : Envelope}
    (decoded : decoder now record = .ok (.event envelope)) :
    ∃ schemaId image, Holds record schemaId (some image) ∧
      sealRow now record schemaId image = .ok (.event envelope) := by
  rcases exists_holds_or_fault now record with ⟨schemaId, image?, holds⟩ | ⟨fault, failed⟩
  · rw [holds.decoder] at decoded
    have made := mapError_eq_ok_iff.mp decoded
    cases image? with
    | none => cases made
    | some image => exact ⟨schemaId, image, holds, made⟩
  · rw [failed] at decoded
    contradiction

/-- What is made of an image is the event in which the draft of its row is sealed. -/
theorem exists_row_of_sealRow {now : Instant} {image : Value} {decoded : Decoded}
    (made : sealRow now record schemaId image = .ok decoded) :
    ∃ row envelope, Row.ofValue? image = some row ∧
      (draftOf record schemaId row).seal now = .ok envelope ∧ decoded = .event envelope := by
  unfold sealRow at made
  split at made
  · contradiction
  · rename_i row isRow
    split at made
    · contradiction
    · rename_i envelope sealed
      exact ⟨row, envelope, isRow, sealed, (Except.ok.inj made).symm⟩

end EventRelay.Outbox

import EventRelay.Proofs.EventTimes
import EventRelay.Proofs.HeaderPrecedence

/-!
# The key of a trace

Whatever an event gives rise to goes out with a correlation, by which the messages of one piece
of work are found together. It is the text in the column of the row, and of a row without one
the id of the event, which always says something. A blank text in the column is a text, so it is
taken, and it is all that can leave an event without a key to trace it by.
-/

namespace EventRelay

/-- Headers have a correlation that says something. -/
def Headers.Traced (headers : Headers) : Prop :=
  ∃ key, headers.get? HeaderName.correlation = some key ∧ Text.isBlank key = false

theorem Envelope.Draft.correlationId_of_seal {draft : Envelope.Draft} {now : Instant}
    {envelope : Envelope} (sealed : draft.seal now = .ok envelope) :
    envelope.correlationId = draft.correlationId := by
  unfold Envelope.Draft.seal at sealed
  split at sealed
  · split at sealed
    · cases sealed
      rfl
    · contradiction
  · contradiction

namespace SourceRecord

/-- Neither where a record came from nor what came with it says anything of the correlation. -/
theorem get?_correlation (record : SourceRecord) (envelope : Envelope) :
    (record.propagatedHeaders envelope).get? HeaderName.correlation =
      some (envelope.correlationId.getD envelope.id) := by
  rw [get?_propagatedHeaders, get?_sourceHeaders_of_notMem record (by decide), Option.none_or,
    Envelope.get?_promotedHeaders_eq]
  rfl

/-- The id of an event says something, so only its own correlation may be blank. -/
theorem traced_propagatedHeaders_iff (record : SourceRecord) (envelope : Envelope) :
    (record.propagatedHeaders envelope).Traced ↔
      ∀ own ∈ envelope.correlationId, Text.isBlank own = false := by
  rw [Headers.Traced, get?_correlation]
  simp only [Option.some.injEq, exists_eq_left']
  cases column : envelope.correlationId with
  | none => simp [envelope.id_notBlank]
  | some own => simp

variable {now : Instant} {record : SourceRecord} {envelope : Envelope}

/-- What a record holds is the row that its value holds. -/
theorem row?_of_holds {schemaId : Option Nat} {image : Json.Value}
    (holds : Outbox.Holds record schemaId (some image)) :
    record.content?.bind Outbox.row? = Outbox.Row.ofValue? image := by
  generalize image?_eq : some image = image? at holds
  obtain @⟨content, tree, value, spoken, parsed, denotes⟩ := holds
  rw [spoken, Option.bind_some, Outbox.row?, parsed]
  simp only [Option.bind_eq_bind, Option.bind_some, denotes, ← image?_eq]

/-- The correlation of an event is that of the row in its record. -/
theorem exists_row_of_decoder (decoded : Outbox.decoder now record = .ok (.event envelope)) :
    ∃ row, record.content?.bind Outbox.row? = some row ∧
      envelope.correlationId = row.correlationId := by
  obtain ⟨schemaId, image, holds, made⟩ := Outbox.exists_holds_of_event decoded
  obtain ⟨row, sealedIn, isRow, sealed, same⟩ := Outbox.exists_row_of_sealRow made
  cases same
  exact ⟨row, by rw [row?_of_holds holds, isRow], Envelope.Draft.correlationId_of_seal sealed⟩

/-- Every event goes out with a correlation: the text in the column of its row, or else its id.
It says something exactly if the column does not hold a blank text. -/
theorem traced_iff_column (decoded : Outbox.decoder now record = .ok (.event envelope)) :
    ∃ row, record.content?.bind Outbox.row? = some row ∧
      (record.propagatedHeaders envelope).get? HeaderName.correlation =
        some (row.correlationId.getD envelope.id) ∧
      ((record.propagatedHeaders envelope).Traced ↔
        ∀ own ∈ row.correlationId, Text.isBlank own = false) := by
  obtain ⟨row, isRow, column⟩ := exists_row_of_decoder decoded
  refine ⟨row, isRow, ?_, ?_⟩
  · rw [get?_correlation, column]
  · rw [traced_propagatedHeaders_iff, column]

/-! ## A column without a key -/

/-- A record of a row whose column for the correlation is empty. -/
def unkeyedRecord : SourceRecord :=
  ⟨⟨"outbox", 0, 7⟩, none,
    some (Text.toBytes "\x7b\"id\":\"e-1\",\"type\":\"shipped\",\"correlation_id\":\"\"\x7d"),
    ∅, none⟩

/-- The event of such a record. -/
def unkeyedEvent : Envelope :=
  ⟨"e-1", "shipped", [], ∅, "", "", none, some "", none, none, .epoch, rfl, rfl⟩

/-- An empty column leaves an event without a key, although it has an id. -/
theorem traced_iff_column_blank :
    Outbox.decoder .epoch unkeyedRecord = .ok (.event unkeyedEvent) ∧
      (unkeyedRecord.content?.bind Outbox.row?).map (·.correlationId) = some (some "") ∧
      (unkeyedRecord.propagatedHeaders unkeyedEvent).get? HeaderName.correlation = some "" ∧
      ¬(unkeyedRecord.propagatedHeaders unkeyedEvent).Traced := by
  have decoded : Outbox.decoder .epoch unkeyedRecord = .ok (.event unkeyedEvent) :=
    Outbox.eq_ok_of_toOption (by decide +kernel)
  have column : (unkeyedRecord.content?.bind Outbox.row?).map (·.correlationId) =
      some (some "") := by
    decide +kernel
  obtain ⟨row, isRow, correlation, traced⟩ := traced_iff_column decoded
  have blank : row.correlationId = some "" := by
    rw [isRow] at column
    exact Option.some.inj column
  rw [blank] at correlation
  refine ⟨decoded, column, correlation, fun key => ?_⟩
  exact Bool.false_ne_true (traced.mp key "" blank).symm

end SourceRecord

end EventRelay

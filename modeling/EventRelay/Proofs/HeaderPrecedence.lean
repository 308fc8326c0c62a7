import EventRelay.Proofs.ReservedHeaders
import EventRelay.Relay.Forwarder

/-!
# Which header counts

A message goes out with headers from five places: its own, where its record came from, what
the fields of the event promote, the frame of the value, and what the record came with. Each
place is told here by the names it speaks for, and a name has the value of the first place that
speaks for it. On a dead letter only what describes the failure comes before what the message
would have been sent with.
-/

namespace EventRelay

/-! ## What each place says -/

/-- What is said of where a record came from. -/
def SourceRecord.sourceValue? (record : SourceRecord) : String → Option String
  | "X-Source-Topic" => some record.coordinates.topic
  | "X-Source-Partition" => some (Decimal.ofInt record.coordinates.partition)
  | "X-Source-Offset" => some (Decimal.ofInt record.coordinates.offset)
  | "X-Source-Timestamp" => record.timestamp.map Instant.toMillisText
  | _ => none

/-- What the fields of an event are promoted to. -/
def Envelope.promotedValue? (envelope : Envelope) : String → Option String
  | "CorrelationId" => some (envelope.correlationId.getD envelope.id)
  | "CausationId" => envelope.causationId
  | "X-Original-Outbox-Id" => some envelope.id
  | "X-Original-Event-Type" => some envelope.eventType
  | "X-Original-Aggregate-Type" => some envelope.aggregateType
  | "X-Original-Aggregate-Id" => some envelope.aggregateId
  | "X-Original-Aggregate-Version" => envelope.aggregateVersion.map Decimal.ofInt
  | "X-Original-Tenant-Id" => envelope.tenantId
  | _ => none

/-- What the frame of a value says. -/
def SourceRecord.frameValue? (record : SourceRecord) : String → Option String
  | "X-Schema-Id" => record.schemaId?.map Decimal.ofNat
  | _ => none

/-- What a dead letter says of the failure. -/
def DeadLetter.diagnosticValue? (letter : DeadLetter) : String → Option String
  | "X-DLQ-Id" => some letter.id.toText
  | "X-DLQ-OriginalTopic" => some letter.coordinates.topic
  | "X-DLQ-OriginalPartition" => some (Decimal.ofInt letter.coordinates.partition)
  | "X-DLQ-OriginalOffset" => some (Decimal.ofInt letter.coordinates.offset)
  | "X-DLQ-ErrorReason" => some letter.reason
  | "X-DLQ-ExceptionType" => some letter.kind
  | "X-DLQ-TimestampUtc" => some letter.timestamp.toMillisText
  | "X-DLQ-ConsumerGroup" => some letter.group
  | _ => none

/-! ## What is set is what is said -/

theorem SourceRecord.get?_sourceHeaders_eq (record : SourceRecord) (name : String) :
    record.sourceHeaders.get? name = record.sourceValue? name := by
  by_cases mem : name ∈ HeaderName.source
  · rw [get?_sourceHeaders]
    simp only [HeaderName.source, List.mem_cons, List.not_mem_nil, or_false] at mem
    rcases mem with rfl | rfl | rfl | rfl <;> rfl
  · rw [get?_sourceHeaders_of_notMem record mem]
    unfold sourceValue?
    split <;> first | rfl | exact absurd (by decide) mem

theorem Envelope.get?_promotedHeaders_eq (envelope : Envelope) (name : String) :
    envelope.promotedHeaders.get? name = envelope.promotedValue? name := by
  by_cases mem : name ∈ HeaderName.promoted
  · rw [SourceRecord.get?_promotedHeaders]
    simp only [HeaderName.promoted, List.mem_cons, List.not_mem_nil, or_false] at mem
    rcases mem with rfl | rfl | rfl | rfl | rfl | rfl | rfl | rfl <;> rfl
  · rw [get?_promotedHeaders_of_notMem envelope mem]
    unfold promotedValue?
    split <;> first | rfl | exact absurd (by decide) mem

theorem SourceRecord.get?_schemaHeaders_eq (record : SourceRecord) (name : String) :
    record.schemaHeaders.get? name = record.frameValue? name := by
  rw [get?_schemaHeaders]
  unfold frameValue?
  split
  · rfl
  · rename_i other
    have different : (name == HeaderName.schemaId) = false := beq_eq_false_iff_ne.mpr other
    rw [List.lookup_cons, different]
    rfl

theorem DeadLetter.get?_diagnosticHeaders_eq (letter : DeadLetter) (name : String) :
    letter.diagnosticHeaders.get? name = letter.diagnosticValue? name := by
  by_cases mem : name ∈ HeaderName.diagnostic
  · rw [diagnosticHeaders,
      Headers.get?_ofPresent (show HeaderName.diagnostic.Nodup by decide) rfl]
    simp only [HeaderName.diagnostic, List.mem_cons, List.not_mem_nil, or_false] at mem
    rcases mem with rfl | rfl | rfl | rfl | rfl | rfl | rfl | rfl <;> rfl
  · rw [get?_diagnosticHeaders_of_notMem letter mem]
    unfold diagnosticValue?
    split <;> first | rfl | exact absurd (by decide) mem

/-- The message of a dead letter describes the failure before it says what came with the record. -/
theorem DeadLetter.get?_toMessage (letter : DeadLetter) (suffix name : String) :
    (letter.toMessage suffix).headers.get? name =
      (letter.diagnosticValue? name).or (letter.headers.get? name) := by
  rw [toMessage, Dictionary.get?_merge, get?_diagnosticHeaders_eq]

/-- Nothing is propagated with a dead letter, which has all its headers as its own. -/
theorem DeadLetter.get?_outboundHeaders_toMessage (letter : DeadLetter) (suffix name : String) :
    ((letter.toMessage suffix).outboundHeaders ∅).get? name =
      (letter.diagnosticValue? name).or (letter.headers.get? name) := by
  have alone : (∅ : Headers).get? name = none := rfl
  rw [Message.get?_outboundHeaders, alone, Option.or_none, get?_toMessage]

namespace SourceRecord

/-- A name under which an event is sent has the value of the first layer that speaks for it:
the message itself, where the record came from, the fields of the event, the frame, and the
record as it came. On a dead letter of the record, what describes the failure comes before what
would have been propagated. -/
theorem outboundHeaders_layered {now : Instant} {record : SourceRecord} {envelope : Envelope}
    (decoded : Outbox.decoder now record = .ok (.event envelope)) :
    (∀ (message : Message) (name : String),
      (message.outboundHeaders (record.propagatedHeaders envelope)).get? name =
        (message.headers.get? name).or
          ((record.sourceValue? name).or
            ((envelope.promotedValue? name).or
              ((record.frameValue? name).or (record.headers.get? name))))) ∧
      ∀ (forwarder : Relay.Forwarder) (id : Uuid) (stamp : Instant) (failure : Failure)
        (letter : DeadLetter),
        letter = forwarder.letter id stamp record (record.propagatedHeaders envelope) failure →
        ∀ name, ((letter.toMessage forwarder.suffix).outboundHeaders ∅).get? name =
          (letter.diagnosticValue? name).or ((record.propagatedHeaders envelope).get? name) := by
  constructor
  · intro message name
    rw [Message.get?_outboundHeaders, get?_propagatedHeaders_of_decoder decoded, get?_ownHeaders,
      get?_sourceHeaders_eq, Envelope.get?_promotedHeaders_eq, get?_schemaHeaders_eq]
    simp only [Option.or_assoc]
  · rintro forwarder id stamp failure letter rfl name
    rw [DeadLetter.get?_outboundHeaders_toMessage]
    rfl

/-! ## A header from every layer -/

/-- A framed record of a bare row, two of whose headers the relay sets itself. -/
def framedRecord : SourceRecord :=
  ⟨⟨"outbox", 3, 9⟩, none,
    some ([0, 0, 0, 0, 5] ++ Text.toBytes "\x7b\"id\":\"framed\",\"type\":\"kind\"\x7d"),
    (((∅ : Headers).insert HeaderName.correlation "forged").insert HeaderName.schemaId
      "forged").insert "Trace" "raw", none⟩

/-- The event of such a record. -/
def framedEvent : Envelope :=
  ⟨"framed", "kind", [],
    (((∅ : Headers).insert HeaderName.correlation "forged").insert HeaderName.schemaId
      "5").insert "Trace" "raw", "", "", none, none, none, none, .epoch, rfl, rfl⟩

/-- A message that says itself where it comes from. -/
def outspoken : Message where
  destination := "orders"
  payload := []
  headers := (∅ : Headers).insert HeaderName.sourceTopic "own"

/-- Its headers come from all five layers, and nothing is sent where none of them speaks. -/
theorem outboundHeaders_layered_framed :
    Outbox.decoder .epoch framedRecord = .ok (.event framedEvent) ∧
      ["X-Source-Topic", "X-Source-Offset", "CorrelationId", "X-Schema-Id", "Trace",
          "CausationId"].map
          (outspoken.outboundHeaders (framedRecord.propagatedHeaders framedEvent)).get? =
        [some "own", some "9", some "framed", some "5", some "raw", none] := by
  have decoded : Outbox.decoder .epoch framedRecord = .ok (.event framedEvent) :=
    Outbox.eq_ok_of_toOption (by decide +kernel)
  refine ⟨decoded, ?_⟩
  simp only [List.map_cons, List.map_nil, (outboundHeaders_layered decoded).1]
  decide +kernel

end SourceRecord

end EventRelay

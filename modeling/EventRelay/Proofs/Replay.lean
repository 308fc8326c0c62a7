import EventRelay.Proofs.EventHeaders
import EventRelay.Proofs.HeaderLayers
import EventRelay.Proofs.Registration
import EventRelay.Proofs.RowImages
import EventRelay.Relay.Forwarder

/-!
# Replaying dead letters

A dead letter carries the key and the value of its record as they are, and headers on top of
those that it was handled with. Read as a record it decodes as the record did: to the same
failure, or to the same event but for the headers, from which the same message is made.
-/

namespace EventRelay

namespace Outbox

/-! ## Decoding under other headers -/

variable {left right : SourceRecord}

/-- Two records come from one time, and neither holds an identity in its headers that the
other does not. -/
structure Alike (left right : SourceRecord) : Prop where
  timestamp : left.timestamp = right.timestamp
  routed : ∀ name ∈ HeaderName.routed, right.headers.get? name = left.headers.get? name

theorem Alike.idOf (alike : Alike left right) (row : Row) :
    idOf row right.headers = idOf row left.headers := by
  have same := alike.routed HeaderName.routedId (by decide)
  rw [Outbox.idOf, same, Outbox.idOf]

theorem Alike.eventTypeOf (alike : Alike left right) (row : Row) :
    eventTypeOf row right.headers = eventTypeOf row left.headers := by
  have camel := alike.routed "eventType" (by decide)
  have snake := alike.routed "event_type" (by decide)
  simp only [Outbox.eventTypeOf, HeaderName.routedEventTypes, List.findSome?_cons,
    List.findSome?_nil, camel, snake]

/-- What a frame adds to the headers. -/
def frameHeaders (content : Bytes) : Headers :=
  Headers.ofPresent [(HeaderName.schemaId, (unframe content).1.map Decimal.ofNat)]

/-- Of two records that are alike one value makes the same but for the headers. -/
theorem Alike.decodeContent (alike : Alike left right) (now : Instant) (content : Bytes) :
    decodeContent now right content =
      (decodeContent now left content).map
        (Decoded.withHeaders fun _ => right.headers.merge (frameHeaders content)) := by
  unfold Outbox.decodeContent frameHeaders
  rcases unframe content with ⟨schemaId, body⟩
  dsimp only
  cases Json.Tree.parse? body with
  | none => rfl
  | some tree =>
      dsimp only
      cases Json.Value.ofTree? Json.depthLimit tree with
      | none => rfl
      | some value =>
          dsimp only
          cases rowImage? (unwrap tree value) with
          | none => rfl
          | some image =>
              apply sealRow_withHeaders
              intro row
              rw [draftOf, alike.idOf, alike.eventTypeOf, ← alike.timestamp]
              rfl

theorem Alike.refl (record : SourceRecord) : Alike record record :=
  ⟨rfl, fun _ _ => rfl⟩

/-- An event has the headers of its record, with those of its frame on top. -/
theorem headers_of_decodeContent {record : SourceRecord} {now : Instant} {content : Bytes}
    {envelope : Envelope} (decoded : decodeContent now record content = .ok (.event envelope)) :
    envelope.headers = record.headers.merge (frameHeaders content) := by
  have same := (Alike.refl record).decodeContent now content
  rw [decoded] at same
  have envelopes := Decoded.event.inj (Except.ok.inj same)
  rw [envelopes]

theorem get?_frameHeaders_of_ne {name : String} (content : Bytes)
    (other : name ≠ HeaderName.schemaId) : (frameHeaders content).get? name = none := by
  apply Headers.get?_ofPresent_of_notMem
  simpa using other

end Outbox

/-! ## Headers on the way of a dead letter -/

/-- The headers that a record is handled with, by what it was decoded to. -/
def SourceRecord.handledHeaders (record : SourceRecord) :
    Except Failure Outbox.Decoded → Headers
  | .ok (.event envelope) => record.propagatedHeaders envelope
  | .ok (.skipped _) | .error _ => record.headers

/-- The record that a message is once it lies in a log. -/
def Message.toRecord (message : Message) (coordinates : Coordinates)
    (timestamp : Option Instant) : SourceRecord where
  coordinates := coordinates
  key := message.key
  value := some message.payload
  headers := message.headers
  timestamp := timestamp

/-- Putting on top what is there already changes nothing. -/
theorem Dictionary.merge_eq_self {α : Type} {base upper : Dictionary α}
    (held : ∀ name value, upper.get? name = some value → base.get? name = some value) :
    base.merge upper = base := by
  apply ext_get?
  intro name
  rw [get?_merge]
  cases found : upper.get? name with
  | none => rfl
  | some value => exact (held name value found).symm

namespace Outbox

section Letter

variable {record : SourceRecord} {now : Instant} {content : Bytes} (letter : DeadLetter)
  (suffix : String)

/-- A record that was not decoded to an event is alike to its dead letter. -/
theorem alike_of_headers (headers : letter.headers = record.headers)
    (coordinates : Coordinates) :
    Alike record ((letter.toMessage suffix).toRecord coordinates record.timestamp) where
  timestamp := rfl
  routed := by
    intro name mem
    have undiagnosed : name ∉ HeaderName.diagnostic := by
      revert name
      decide
    rw [← headers]
    exact letter.get?_toMessage_of_notMem suffix undiagnosed

variable {envelope : Envelope}

/-- Under a name that the relay does not use a dead letter has what its event has. -/
theorem get?_of_propagated (headers : letter.headers = record.propagatedHeaders envelope)
    {name : String}
    (foreign : name ∉ HeaderName.promoted ++ HeaderName.source ++ HeaderName.diagnostic) :
    (letter.toMessage suffix).headers.get? name = envelope.headers.get? name := by
  simp only [List.mem_append, not_or] at foreign
  obtain ⟨⟨unpromoted, unsourced⟩, undiagnosed⟩ := foreign
  rw [letter.get?_toMessage_of_notMem suffix undiagnosed, headers,
    record.get?_propagatedHeaders_of_notMem envelope unpromoted unsourced]

/-- A record that was decoded to an event is alike to its dead letter. -/
theorem alike_of_propagated (headers : letter.headers = record.propagatedHeaders envelope)
    (decoded : decodeContent now record content = .ok (.event envelope))
    (coordinates : Coordinates) :
    Alike record ((letter.toMessage suffix).toRecord coordinates record.timestamp) where
  timestamp := rfl
  routed := by
    intro name mem
    have foreign :
        name ∉ HeaderName.promoted ++ HeaderName.source ++ HeaderName.diagnostic ∧
          name ≠ HeaderName.schemaId := by
      revert name
      decide
    change (letter.toMessage suffix).headers.get? name = _
    rw [get?_of_propagated letter suffix headers foreign.1, headers_of_decodeContent decoded,
      Dictionary.get?_merge, get?_frameHeaders_of_ne content foreign.2]
    rfl

/-- A dead letter of an event has the schema id of its frame already. -/
theorem merge_frameHeaders (headers : letter.headers = record.propagatedHeaders envelope)
    (decoded : decodeContent now record content = .ok (.event envelope)) :
    (letter.toMessage suffix).headers.merge (frameHeaders content) =
      (letter.toMessage suffix).headers := by
  apply Dictionary.merge_eq_self
  intro name value found
  by_cases same : name = HeaderName.schemaId
  · subst same
    rw [get?_of_propagated letter suffix headers (by decide), headers_of_decodeContent decoded,
      Dictionary.get?_merge, found]
    rfl
  · rw [get?_frameHeaders_of_ne content same] at found
    contradiction

/-- The dead letter of a record makes of its value what the record made of it, with other
headers. -/
theorem decodeContent_toRecord (coordinates : Coordinates)
    (headers : letter.headers =
      record.handledHeaders ((decodeContent now record content).mapError .decode)) :
    decodeContent now ((letter.toMessage suffix).toRecord coordinates record.timestamp)
        content =
      (decodeContent now record content).map
        (Decoded.withHeaders fun _ => (letter.toMessage suffix).headers) := by
  rcases made : decodeContent now record content with fault | envelope | reason
  · rw [made] at headers
    rw [(alike_of_headers letter suffix headers coordinates).decodeContent, made]
    rfl
  · rw [made] at headers
    have settled := merge_frameHeaders letter suffix headers made
    rw [(alike_of_propagated letter suffix headers made coordinates).decodeContent, made]
    change Except.ok (Decoded.event { envelope with
      headers := (letter.toMessage suffix).headers.merge (frameHeaders content) }) = _
    rw [settled]
    rfl
  · rw [made] at headers
    rw [(alike_of_headers letter suffix headers coordinates).decodeContent, made]
    rfl

end Letter

/-! ## Replaying -/

/-- A record that is no tombstone has a value that is not empty. -/
theorem exists_value_of_not_isTombstone {record : SourceRecord}
    (spoken : record.isTombstone = false) :
    ∃ content, content ≠ [] ∧ record.value = some content := by
  rw [SourceRecord.isTombstone, Option.isNone_eq_false_iff] at spoken
  obtain ⟨content, held⟩ := Option.isSome_iff_exists.mp spoken
  rw [SourceRecord.content?, Option.filter_eq_some_iff] at held
  refine ⟨content, ?_, held.1⟩
  rintro rfl
  exact absurd held.2 (by decide)

/-- Replayed, the dead letter of a record decodes to what the record decoded to, with the
headers of the letter; and of an event the same message is made. -/
theorem decoder_replayed {record : SourceRecord} (spoken : record.isTombstone = false)
    (now : Instant) (forwarder : Relay.Forwarder) (id : Uuid) (dated : Instant)
    (failure : Failure) (coordinates : Coordinates) (topic : String) :
    let decoded := decoder now record
    let letter := forwarder.letter id dated record (record.handledHeaders decoded) failure
    let message := letter.toMessage forwarder.suffix
    decoder now (message.toRecord coordinates record.timestamp) =
        decoded.map (Decoded.withHeaders fun _ => message.headers) ∧
      ∃ registry, Registry.empty.registerAll (Orders.mappers topic) = .ok registry ∧
        ∀ envelope, decoded = .ok (.event envelope) →
          registry.map { envelope with headers := message.headers } =
            registry.map envelope := by
  intro decoded letter message
  constructor
  · obtain ⟨content, nonempty, holds⟩ := exists_value_of_not_isTombstone spoken
    have payload : (message.toRecord coordinates record.timestamp).value = some content := by
      change some (record.value.getD []) = some content
      rw [holds, Option.getD_some]
    have first : decoded = (decodeContent now record content).mapError .decode :=
      decoder_of_value now nonempty holds
    have headers : letter.headers = record.handledHeaders decoded := rfl
    rw [first] at headers
    rw [decoder_of_value now nonempty payload, first,
      decodeContent_toRecord letter forwarder.suffix coordinates headers]
    cases decodeContent now record content <;> rfl
  · obtain ⟨registry, registered, ignores⟩ := Orders.registerAll_mappers topic
    exact ⟨registry, registered, fun envelope _ => ignores envelope message.headers⟩

/-- A row without a type that any mapper is for, set aside and replayed. -/
theorem decoder_replayed_unmapped :
    let value := Text.toBytes "\x7b\"id\":\"1\",\"type\":\"t\"\x7d"
    let record : SourceRecord := ⟨⟨"outbox", 0, 7⟩, none, some value, ∅, none⟩
    let event : Envelope :=
      { id := "1", eventType := "t", payload := [], headers := ∅, aggregateType := "",
        aggregateId := "", aggregateVersion := none, correlationId := none, causationId := none,
        tenantId := none, occurredAt := .epoch, id_notBlank := rfl, eventType_notBlank := rfl }
    let forwarder : Relay.Forwarder := ⟨".dlq", "relay", true⟩
    let letter := forwarder.letter default .epoch record
      (record.handledHeaders (.ok (.event event))) (.unmapped "t")
    let message := letter.toMessage forwarder.suffix
    record.isTombstone = false ∧ decoder .epoch record = .ok (.event event) ∧
      decoder .epoch (message.toRecord ⟨"outbox.dlq", 0, 0⟩ none) =
        .ok (.event { event with headers := message.headers }) := by
  intro value record event forwarder letter message
  have spoken : record.isTombstone = false := by decide +kernel
  have decoded : decoder .epoch record = .ok (.event event) :=
    eq_ok_of_toOption (by decide +kernel)
  have replayed := (decoder_replayed spoken .epoch forwarder default .epoch (.unmapped "t")
    ⟨"outbox.dlq", 0, 0⟩ Orders.defaultTopic).1
  rw [decoded] at replayed
  exact ⟨spoken, decoded, replayed⟩

end Outbox

end EventRelay

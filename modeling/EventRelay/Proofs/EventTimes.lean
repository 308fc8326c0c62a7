import EventRelay.Proofs.Announcements
import EventRelay.Proofs.Registration
import EventRelay.Proofs.ReservedHeaders

/-!
# The time of an event

An event has the time of its row, or else that of its record, and only an event without either
has the time at which it is decoded. The time is all that decoding takes from the clock: it goes
into the document of an announcement and nowhere else.
-/

namespace EventRelay

/-! ## Decoding -/

/-- The clock dates a draft without a time of its own, and decides nothing else. -/
theorem Envelope.Draft.seal_later (draft : Envelope.Draft) (now later : Instant) :
    draft.seal later = (draft.seal now).map fun envelope =>
      { envelope with occurredAt := draft.occurredAt.getD later } := by
  unfold Envelope.Draft.seal
  split
  · split <;> rfl
  · rfl

namespace Outbox

open Json (Tree Value)

/-- The row that a value holds. -/
def row? (content : Bytes) : Option Row := do
  let tree ← Tree.parse? (unframe content).2
  let value ← Value.ofTree? Json.depthLimit tree
  let image ← rowImage? (unwrap tree value)
  Row.ofValue? image

/-- When an event happened, as its row says or else its record. -/
def occurredAt? (record : SourceRecord) : Option Instant :=
  ((record.content?.bind row?).bind fun row => row.occurredAt.bind Row.instant?).or
    record.timestamp

/-- What is decoded, at another time. -/
def Decoded.at (instant : Instant) : Decoded → Decoded
  | .event envelope => .event { envelope with occurredAt := instant }
  | .skipped reason => .skipped reason

/-- Decoding takes from the clock the time of an event without one, and nothing else. -/
theorem decoder_later (now later : Instant) (record : SourceRecord) :
    decoder later record =
      (decoder now record).map (Decoded.at ((occurredAt? record).getD later)) := by
  cases held : record.content? with
  | none => rw [decoder_of_no_content now held, decoder_of_no_content later held]; rfl
  | some content =>
      rw [decoder_of_content now held, decoder_of_content later held]
      unfold occurredAt? row? decodeContent
      rw [held, Option.bind_some]
      rcases unframe content with ⟨schemaId, body⟩
      dsimp only
      cases Tree.parse? body with
      | none => rfl
      | some tree =>
          simp only [Option.bind_eq_bind, Option.bind_some]
          cases Value.ofTree? Json.depthLimit tree with
          | none => rfl
          | some value =>
              simp only [Option.bind_some]
              cases rowImage? (unwrap tree value) with
              | none => rfl
              | some image =>
                  simp only [Option.bind_some, sealRow]
                  cases Row.ofValue? image with
                  | none => rfl
                  | some row =>
                      simp only [Option.bind_some]
                      rw [Envelope.Draft.seal_later _ now later]
                      cases (draftOf record schemaId row).seal now <;> rfl

/-- The time of an event is that of its row or its record, or else that of its decoding. -/
theorem occurredAt_of_decoder {now : Instant} {record : SourceRecord} {envelope : Envelope}
    (decoded : decoder now record = .ok (.event envelope)) :
    envelope.occurredAt = (occurredAt? record).getD now := by
  have same := decoder_later now now record
  rw [decoded] at same
  have envelopes := Decoded.event.inj (Except.ok.inj same)
  rw [envelopes]

end Outbox

/-! ## Mapping -/

namespace Orders

/-- What is announced of an event is determined by it. -/
theorem Announcement.Carries.unique {announcement : Announcement}
    {event : announcement.said.Content} {data other : announcement.told.Content}
    (first : announcement.Carries event data) (second : announcement.Carries event other) :
    other = data := by
  cases announcement with
  | created =>
      obtain ⟨_, _, _, _, summed⟩ := first
      obtain ⟨_, _, _, _, again⟩ := second
      exact Except.ok.inj (again.symm.trans summed)
  | cancelled => exact Eq.trans second (Eq.symm first)
  | shipped => exact Eq.trans second (Eq.symm first)

/-- Two messages announce one event, one with the time `first` and the other with the time
`second`. -/
structure Retimed (first second : Instant) (message other : Message) : Prop where
  destination : other.destination = message.destination
  key : other.key = message.key
  headers : other.headers = message.headers
  /-- Other services read the same from both but for the time. -/
  read : ∃ (statement : Statement) (event : IntegrationEvent statement.Content),
    (Form.integration statement).read? message.payload = some { event with timestamp := first } ∧
      (Form.integration statement).read? other.payload = some { event with timestamp := second }
  payload : other.payload = message.payload ↔ second = first

theorem retimed_announce (destination : String) (envelope : Envelope) (instant : Instant)
    (name : String) (order : Uuid) (statement : Statement) (data : statement.Content) :
    Retimed envelope.occurredAt instant
      (announce destination envelope name order (statement.toValue data))
      (announce destination { envelope with occurredAt := instant } name order
        (statement.toValue data)) where
  destination := rfl
  key := rfl
  headers := rfl
  read := ⟨statement, .ofOrigin envelope name data,
    (Form.integration statement).read?_write (.ofOrigin envelope name data),
    (Form.integration statement).read?_write
      (.ofOrigin { envelope with occurredAt := instant } name data)⟩
  payload := by
    constructor
    · intro same
      have read := (Form.integration statement).read?_write (.ofOrigin envelope name data)
      have reread := (Form.integration statement).read?_write
        (.ofOrigin { envelope with occurredAt := instant } name data)
      have events := read.symm.trans
        ((congrArg (Form.integration statement).read? same).symm.trans reread)
      exact (congrArg IntegrationEvent.timestamp (Option.some.inj events)).symm
    · intro same
      rw [same]

/-- A mapper makes of an event at another time the same message but for the time. -/
theorem retimed_of_mapper {announcement : Announcement} {destination : String}
    {envelope : Envelope} {instant : Instant} {message other : Message}
    (mapped : (announcement.mapper destination envelope).run = .ok (.ok message))
    (remapped : (announcement.mapper destination { envelope with occurredAt := instant }).run =
      .ok (.ok other)) :
    Retimed envelope.occurredAt instant message other := by
  obtain ⟨event, data, read, carries, rfl⟩ := exists_of_mapper mapped
  obtain ⟨again, same, reread, carriesAgain, rfl⟩ := exists_of_mapper remapped
  obtain rfl : event = again := Option.some.inj (read.symm.trans reread)
  obtain rfl := carries.unique carriesAgain
  exact retimed_announce destination envelope instant announcement.name _ announcement.told same

/-- A mapper makes announcements. -/
def Announces (topic : String) (mapper : Mapper) : Prop :=
  ∃ announcement : Announcement, mapper = announcement.mapper topic

theorem announces_of_mem {topic : String} {entry : String × Mapper}
    (mem : entry ∈ mappers topic) : Announces topic entry.2 := by
  simp only [mappers, List.mem_cons, List.not_mem_nil, or_false] at mem
  rcases mem with rfl | rfl | rfl
  · exact ⟨.created, rfl⟩
  · exact ⟨.cancelled, rfl⟩
  · exact ⟨.shipped, rfl⟩

/-- What the registry for order events makes of an event at another time is the same message but
for the time. -/
theorem retimed_of_registry {topic : String} {registry : Registry}
    (registered : Registry.empty.registerAll (mappers topic) = .ok registry) {envelope : Envelope}
    {instant : Instant} {mapper : Mapper} {message other : Message}
    (resolved : registry.resolve envelope.eventType = .ok mapper)
    (mapped : (mapper envelope).run = .ok (.ok message))
    (remapped : (mapper { envelope with occurredAt := instant }).run = .ok (.ok other)) :
    Retimed envelope.occurredAt instant message other := by
  obtain ⟨made, registeredMade, all⟩ :=
    registerAll_mappers_of_forall topic fun _ mem => announces_of_mem mem
  obtain rfl : made = registry := Except.ok.inj (registeredMade.symm.trans registered)
  have announces : Announces topic mapper := by
    unfold Registry.resolve at resolved
    split at resolved
    · rename_i found
      rw [← Except.ok.inj resolved]
      exact all envelope.eventType _ found
    · contradiction
  obtain ⟨announcement, rfl⟩ := announces
  exact retimed_of_mapper mapped remapped

end Orders

end EventRelay

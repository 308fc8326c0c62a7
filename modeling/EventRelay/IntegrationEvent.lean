import EventRelay.Envelope
import EventRelay.Json.Scalar

/-!
# Integration events

What other services read is wrapped in one versioned form, whatever it is about.
-/

namespace EventRelay

open Json (Tree Value)

/-- The version of the form in use. -/
def schemaVersion : UInt32 := 1

/-- Whether a reader of version `current` reads messages of version `given`. -/
def isCompatible (current given : UInt32) : Bool :=
  current == given

/-- An event as other services read it. -/
structure IntegrationEvent (α : Type) where
  /-- The outbox id of the event it came from. -/
  eventId : String
  /-- What happened, in the words of other services. -/
  eventType : String
  /-- When it happened. -/
  timestamp : Instant
  /-- The version of the form it is written in. -/
  schemaVersion : UInt32
  /-- What changed. -/
  source : String
  /-- What ties it to other events of one piece of work. -/
  correlationId : Option String
  /-- What it says. -/
  data : α

namespace IntegrationEvent

variable {α : Type}

/-- The event with the identity and the time of the envelope it came from. -/
def ofOrigin (origin : Envelope) (eventType : String) (data : α) : IntegrationEvent α where
  eventId := origin.id
  eventType := eventType
  timestamp := origin.occurredAt
  schemaVersion := EventRelay.schemaVersion
  source := origin.aggregateType
  correlationId := origin.correlationId
  data := data

/-- The document of an event. -/
def toValue (ofData : α → Value) (event : IntegrationEvent α) : Value :=
  .object
    [("event_id", .text event.eventId),
     ("event_type", .text event.eventType),
     ("timestamp", .ofInstant event.timestamp),
     ("schema_version", .ofUInt32 event.schemaVersion),
     ("source", .text event.source),
     ("correlation_id", .ofText? event.correlationId),
     ("data", ofData event.data)]

/-- Read the document of an event. -/
def ofTree? (readData : Tree → Option α) (tree : Tree) : Option (IntegrationEvent α) := do
  let record ← tree.record? 7
  let eventId ← record.required 0 "event_id" Tree.text?
  let eventType ← record.required 1 "event_type" Tree.text?
  let timestamp ← record.required 2 "timestamp" Tree.instant?
  let schemaVersion ← record.required 3 "schema_version" Tree.uint32?
  let source ← record.required 4 "source" Tree.text?
  let correlationId ← record.optional 5 "correlation_id" Tree.nullableText?
  let data ← record.required 6 "data" readData
  return { eventId, eventType, timestamp, schemaVersion, source, correlationId, data }

/-- Read an event that says something of no known form. It lies one level deep. -/
def ofFreeFormTree? : Tree → Option (IntegrationEvent Value) :=
  ofTree? (Value.ofTree? (Json.depthLimit - 1))

end IntegrationEvent

end EventRelay

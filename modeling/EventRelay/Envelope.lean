import EventRelay.Decimal.Integer
import EventRelay.Headers
import EventRelay.Instant.Basic
import EventRelay.Text.Blank
import EventRelay.Text.Utf8

/-!
# Envelopes

An envelope is one event of the outbox in typed form. It always has an id and an
event type. What it knows about its event is promoted to headers, so that a
message keeps it whatever the message's own form is.
-/

namespace EventRelay

/-- One event of the outbox. -/
structure Envelope where
  /-- The outbox id. -/
  id : String
  /-- What kind of event it is. -/
  eventType : String
  /-- What the event says. -/
  payload : Bytes
  /-- The headers that came with it. -/
  headers : Headers
  /-- The type of the aggregate that changed. -/
  aggregateType : String
  /-- The id of the aggregate that changed. -/
  aggregateId : String
  /-- The version of the aggregate after the change. -/
  aggregateVersion : Option Int
  /-- What ties it to other events of one piece of work. -/
  correlationId : Option String
  /-- What caused it. -/
  causationId : Option String
  /-- The tenant it belongs to. -/
  tenantId : Option String
  /-- When it happened. -/
  occurredAt : Instant
  /-- The id says something. -/
  id_notBlank : Text.isBlank id = false
  /-- The event type says something. -/
  eventType_notBlank : Text.isBlank eventType = false
  deriving DecidableEq

namespace Envelope

/-- Why a draft is not an envelope. -/
inductive Fault
  | missingId
  | missingEventType
  deriving DecidableEq, Repr

/-- The wording of a fault. -/
def Fault.message : Fault → String
  | .missingId => "envelope id is empty"
  | .missingEventType => "envelope event type name is empty"

/-- What is known of an event before it is sealed in an envelope. -/
structure Draft where
  id : String
  eventType : String
  payload : Bytes := []
  headers : Headers := ∅
  aggregateType : String := ""
  aggregateId : String := ""
  aggregateVersion : Option Int := none
  correlationId : Option String := none
  causationId : Option String := none
  tenantId : Option String := none
  occurredAt : Option Instant := none

/-- Seal a draft at the time `now`, which dates an event without a time of its
own. Of a missing id and a missing event type the id is reported. -/
def Draft.seal (draft : Draft) (now : Instant) : Except Fault Envelope :=
  if id_blank : Text.isBlank draft.id = false then
    if eventType_blank : Text.isBlank draft.eventType = false then
      .ok
        { id := draft.id
          eventType := draft.eventType
          payload := draft.payload
          headers := draft.headers
          aggregateType := draft.aggregateType
          aggregateId := draft.aggregateId
          aggregateVersion := draft.aggregateVersion
          correlationId := draft.correlationId
          causationId := draft.causationId
          tenantId := draft.tenantId
          occurredAt := draft.occurredAt.getD now
          id_notBlank := id_blank
          eventType_notBlank := eventType_blank }
    else .error .missingEventType
  else .error .missingId

/-- The headers that an envelope's fields are promoted to. An event tied to no
other is tied to itself. -/
def promotedHeaders (envelope : Envelope) : Headers :=
  Headers.ofPresent
    [(HeaderName.correlation, some (envelope.correlationId.getD envelope.id)),
     (HeaderName.causation, envelope.causationId),
     (HeaderName.outboxId, some envelope.id),
     (HeaderName.outboxEventType, some envelope.eventType),
     (HeaderName.aggregateType, some envelope.aggregateType),
     (HeaderName.aggregateId, some envelope.aggregateId),
     (HeaderName.aggregateVersion, envelope.aggregateVersion.map Decimal.ofInt),
     (HeaderName.tenantId, envelope.tenantId)]

end Envelope

end EventRelay

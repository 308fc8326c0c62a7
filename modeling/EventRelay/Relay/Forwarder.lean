import EventRelay.DeadLetter
import EventRelay.Relay.Environment
import EventRelay.Relay.Report

/-!
# Forwarding dead letters

A forwarder publishes the dead letters of a group of readers. It only publishes:
the offset of the record stays as it is.
-/

namespace EventRelay.Relay

/-- How dead letters are forwarded. -/
structure Forwarder where
  /-- What the topic of a dead letter ends in. -/
  suffix : String
  /-- The group of readers. -/
  group : String
  /-- Whether records are set aside at all. -/
  enabled : Bool := true
  deriving DecidableEq

namespace Forwarder

variable {ω : Type}

/-- The dead letter for a record handled with `headers`. -/
def letter (forwarder : Forwarder) (id : Uuid) (now : Instant) (record : SourceRecord)
    (headers : Headers) (failure : Failure) : DeadLetter where
  id := id
  coordinates := record.coordinates
  key := record.key
  value := record.value.getD []
  headers := headers
  reason := failure.message
  kind := failure.kind.name
  timestamp := now
  group := forwarder.group

/-- Publish the dead letter for a record handled with `headers`. -/
def forward (forwarder : Forwarder) (environment : Environment ω) (record : SourceRecord)
    (headers : Headers) (failure : Failure) : StateM ω (Except Failure DeadLetter) := do
  let id ← environment.freshId
  let now ← environment.now
  let letter := forwarder.letter id now record headers failure
  let message := letter.toMessage forwarder.suffix
  match ← environment.publisher.publish message ∅ with
  | .ok () =>
      environment.note
        (Report.deadLettered message.destination record.coordinates letter.kind)
      return .ok letter
  | .error refusal =>
      environment.note
        (Report.deadLetterFailed message.destination record.coordinates refusal)
      return .error (.deadLetter message.destination refusal.message)

end Forwarder

end EventRelay.Relay

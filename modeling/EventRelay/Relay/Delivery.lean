import EventRelay.Outbox.Decoding
import EventRelay.Relay.Settlement

/-!
# Deliveries

Records that say nothing, or that cannot be decoded, are settled as they come in.
Any other record is delivered with its envelope and the headers to propagate, and
whoever holds the delivery has to settle it.
-/

namespace EventRelay.Relay

/-- A decoded record that is not settled yet. -/
structure Delivery where
  record : SourceRecord
  envelope : Envelope
  deriving DecidableEq

namespace Delivery

variable {ω : Type}

/-- Where the record lies. -/
def coordinates (delivery : Delivery) : Coordinates :=
  delivery.record.coordinates

/-- The headers to propagate with messages that come of the record. -/
def headers (delivery : Delivery) : Headers :=
  delivery.record.propagatedHeaders delivery.envelope

/-- Commit the record. -/
def acknowledge (delivery : Delivery) (environment : Environment ω) :
    Run ω (Except Failure Unit) :=
  commit environment delivery.coordinates

/-- Set the record aside. -/
def fail (delivery : Delivery) (environment : Environment ω) (forwarder : Forwarder)
    (failure : Failure) : Run ω (Except Failure Disposition) :=
  setAside environment forwarder delivery.record delivery.headers failure

/-- Leave the record to be delivered again after a restart. -/
def abandon (delivery : Delivery) (environment : Environment ω) : Run ω Unit :=
  Run.act (environment.note (Report.abandoned delivery.coordinates))

/-- Lose sight of the record. -/
def drop (delivery : Delivery) (environment : Environment ω) : Run ω Unit :=
  Run.act (environment.note
    (Report.dropped delivery.coordinates delivery.envelope.eventType))

end Delivery

/-- What one poll comes to. -/
inductive Received
  /-- No record came in. -/
  | idle
  /-- A record came in and is settled. -/
  | settled (disposition : Disposition)
  /-- A record is delivered. -/
  | delivered (delivery : Delivery)
  deriving DecidableEq

variable {ω : Type}

/-- What a settlement of an incoming record comes to. -/
def asReceived : Except Failure Disposition → Except Failure Received
  | .ok disposition => .ok (.settled disposition)
  | .error failure => .error failure

/-- Settle or deliver a record that came in. -/
def takeIn (environment : Environment ω) (decoder : Outbox.Decoder) (forwarder : Forwarder)
    (record : SourceRecord) : Run ω (Except Failure Received) := do
  Run.count .received
  if record.isTombstone then
    Run.act (environment.note (Report.tombstone record.coordinates))
    return asReceived (← skip environment record.coordinates)
  else
    let now ← Run.act environment.now
    match decoder now record with
    | .ok (.event envelope) => return .ok (.delivered { record, envelope })
    | .ok (.skipped reason) =>
        Run.act (environment.note (Report.skipped record.coordinates reason))
        return asReceived (← skip environment record.coordinates)
    | .error failure =>
        Run.count .decodeFailures
        Run.act (environment.note (Report.undecodable record.coordinates failure))
        return asReceived (← setAside environment forwarder record record.headers failure)

/-- Poll once. -/
def receive (environment : Environment ω) (decoder : Outbox.Decoder) (forwarder : Forwarder)
    (timeout : Duration) : Run ω (Except Failure Received) := do
  match ← Run.act (environment.log.poll timeout) with
  | .error failure => return .error failure
  | .ok .idle | .ok (.endOfPartition _) => return .ok .idle
  | .ok (.record record) => takeIn environment decoder forwarder record

end EventRelay.Relay

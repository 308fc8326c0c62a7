import EventRelay.Registry
import EventRelay.Relay.Delivery
import EventRelay.Retry.Engine

/-!
# The relay loop

A relay takes one record at a time: it polls, maps, publishes with retries, and
settles the record before it looks at the next. It stops when shutdown is asked
for or when it cannot go on without passing over a record.
-/

namespace EventRelay

/-- A relay. -/
structure Relay where
  decoder : Outbox.Decoder
  registry : Registry
  policy : Retry.Policy FailureKind
  forwarder : Relay.Forwarder
  pollTimeout : Duration
  /-- How long to wait before a record is delivered again. -/
  redeliveryBackoff : Duration

namespace Relay

instance : Retry.Classified Failure FailureKind where
  kind := Failure.kind
  message := Failure.message
  kindName := FailureKind.name

variable {ω : Type}

/-- Attempt to publish the message that a mapper makes of a delivery. A mapper
that refuses the envelope ends the attempt at once. -/
def publishAttempt (environment : Environment ω) (mapper : Mapper) (delivery : Delivery)
    (context : Retry.Context) : Run ω (Raced (Except Failure Unit)) := do
  if 1 < context.attempt then Run.count .publishRetries
  match ← Run.check (mapper delivery.envelope).run with
  | .ok message => Run.act (environment.publisher.race message delivery.headers)
  | .error failure => return .finished (.error failure)

/-- The engine that publishes the message of a delivery. -/
def engine (relay : Relay) (environment : Environment ω) (mapper : Mapper)
    (delivery : Delivery) : Retry.Engine ω Failure FailureKind Unit where
  policy := relay.policy
  subject := delivery.coordinates.toText
  signal := environment.signal
  note := environment.note
  operation := publishAttempt environment mapper delivery

/-- Settle a delivery whose message is published. -/
def settlePublished (environment : Environment ω) (delivery : Delivery) :
    Run ω (Except Failure Disposition) := do
  let coordinates := delivery.coordinates
  if ← Run.act environment.signal.isTriggered then
    Run.act (environment.note (Report.publishedTooLate coordinates))
    delivery.abandon environment
    return .ok .abandoned
  else
    match ← delivery.acknowledge environment with
    | .ok () =>
        Run.count .published
        Run.act (environment.note (Report.relayed coordinates delivery.envelope.eventType))
        return .ok .committed
    | .error failure => return .error failure

/-- Settle a delivery whose message was given up on. -/
def settleSurrendered (relay : Relay) (environment : Environment ω) (delivery : Delivery) :
    Retry.Surrender Failure → Run ω (Except Failure Disposition)
  | .cancelled attempts _ => do
      Run.act (environment.note (Report.cancelled delivery.coordinates attempts))
      delivery.abandon environment
      return .ok .abandoned
  | .exhausted attempts failure | .notRetryable attempts failure => do
      Run.act (environment.note
        (Report.givenUp delivery.coordinates delivery.envelope.eventType attempts failure))
      delivery.fail environment relay.forwarder failure

/-- Relay a delivery. -/
def process (relay : Relay) (environment : Environment ω) (delivery : Delivery) :
    Run ω (Except Failure Disposition) := do
  let eventType := delivery.envelope.eventType
  match relay.registry.resolve eventType with
  | .error failure =>
      Run.count .unmappedEvents
      Run.act (environment.note (Report.unmapped delivery.coordinates eventType))
      delivery.fail environment relay.forwarder failure
  | .ok mapper =>
      match ← (relay.engine environment mapper delivery).run with
      | .ok () => settlePublished environment delivery
      | .error surrender => relay.settleSurrendered environment delivery surrender

/-- Take at most one record and settle it. -/
def pollOnce (relay : Relay) (environment : Environment ω) :
    Run ω (Except Failure (Option Disposition)) := do
  match ← receive environment relay.decoder relay.forwarder relay.pollTimeout with
  | .error failure => return .error failure
  | .ok .idle => return .ok none
  | .ok (.settled disposition) => return .ok (some disposition)
  | .ok (.delivered delivery) =>
      match ← relay.process environment delivery with
      | .ok disposition => return .ok (some disposition)
      | .error failure => return .error failure

/-- Stop because the signal was given. A failure that the log reports on its own
makes it no clean stop. -/
def stop (environment : Environment ω) : Run ω (Except Failure Unit) := do
  match ← Run.act environment.log.fatalError with
  | some failure =>
      Run.act (environment.note (Report.stoppingOnFailure failure))
      return .error failure
  | none =>
      Run.act (environment.note Report.stopping)
      return .ok ()

/-- Go on after a poll: wait where a record is to be delivered again, and stop
where a failure is fatal. -/
def goOn (relay : Relay) (environment : Environment ω) :
    Except Failure (Option Disposition) → Run ω (Option (Except Failure Unit))
  | .ok (some .pendingRedelivery) => do
      let backoff := relay.redeliveryBackoff
      Run.act (environment.note (Report.waiting backoff.millis))
      let _ ← Run.act (environment.signal.pause backoff)
      return none
  | .ok _ => return none
  | .error failure => do
      if failure.isFatal then
        Run.act (environment.note (Report.stoppingOnFailure failure))
        Run.act environment.trigger
        return some (.error failure)
      else
        Run.act (environment.note (Report.turnFailed failure))
        return none

/-- One turn of the loop, and its result where the loop ends with it. -/
def turn (relay : Relay) (environment : Environment ω) :
    Run ω (Option (Except Failure Unit)) := do
  if ← Run.act environment.signal.isTriggered then
    return some (← stop environment)
  else
    relay.goOn environment (← relay.pollOnce environment)

/-- At most so many turns of the loop, and its result where it ended. -/
def turns (relay : Relay) (environment : Environment ω) :
    Nat → Run ω (Option (Except Failure Unit))
  | 0 => return none
  | count + 1 => do
      match ← relay.turn environment with
      | some result => return some result
      | none => relay.turns environment count

/-- Run the loop for at most so many turns. -/
def run (relay : Relay) (environment : Environment ω) (most : Nat) :
    Run ω (Option (Except Failure Unit)) := do
  Run.act (environment.note
    (Report.started relay.policy.strategy.name relay.policy.maxRetries))
  relay.turns environment most

end Relay

end EventRelay

import EventRelay.Relay.Forwarder
import EventRelay.Session

/-!
# Settling records

Every record handed out is settled once: its offset is committed, or the log is
rewound to it, or it is left to be delivered again after a restart. A record is
committed only once it is published, set aside or known to say nothing.
-/

namespace EventRelay.Relay

/-- How a record was settled. -/
inductive Disposition
  /-- Its message is published, its offset committed. -/
  | committed
  /-- It says nothing, its offset is committed. -/
  | skipped
  /-- It is set aside, its offset committed. -/
  | deadLettered
  /-- The log is rewound to it. -/
  | pendingRedelivery
  /-- Shutdown came first; its offset stays as it is. -/
  | abandoned
  deriving DecidableEq, Repr

/-- The name of a disposition. -/
def Disposition.name : Disposition → String
  | .committed => "Committed"
  | .skipped => "Skipped"
  | .deadLettered => "DeadLettered"
  | .pendingRedelivery => "PendingRedelivery"
  | .abandoned => "Abandoned"

variable {ω : Type}

/-- Commit a record. -/
def commit (environment : Environment ω) (coordinates : Coordinates) :
    Run ω (Except Failure Unit) := do
  match ← Run.act (environment.log.commit coordinates) with
  | .ok () => return .ok ()
  | .error failure =>
      Run.count .commitFailures
      Run.act (environment.note (Report.commitFailed coordinates failure))
      return .error failure

/-- Rewind the log to a record. A log that cannot be rewound must not be read
further: a later commit would pass over the record. -/
def redeliver (environment : Environment ω) (coordinates : Coordinates) :
    Run ω (Except Failure Disposition) := do
  match ← Run.act (environment.log.rewind coordinates) with
  | .ok () =>
      Run.count .pendingRedeliveries
      return .ok .pendingRedelivery
  | .error failure =>
      return .error <| .fatal <|
        "cannot rewind " ++ coordinates.toText ++ " for redelivery: " ++ failure.message

/-- Set a record aside and then commit it; a record that cannot be set aside is
delivered again. -/
def setAside (environment : Environment ω) (forwarder : Forwarder) (record : SourceRecord)
    (headers : Headers) (failure : Failure) : Run ω (Except Failure Disposition) := do
  if forwarder.enabled then
    match ← Run.act (forwarder.forward environment record headers failure) with
    | .ok _ =>
        match ← commit environment record.coordinates with
        | .ok () =>
            Run.count .deadLettered
            return .ok .deadLettered
        | .error refusal => return .error refusal
    | .error _ =>
        Run.count .deadLetterFailures
        redeliver environment record.coordinates
  else
    Run.act (environment.note (Report.deadLetteringDisabled record.coordinates failure))
    redeliver environment record.coordinates

/-- Commit a record that says nothing. -/
def skip (environment : Environment ω) (coordinates : Coordinates) :
    Run ω (Except Failure Disposition) := do
  match ← commit environment coordinates with
  | .ok () =>
      Run.count .tombstones
      return .ok .skipped
  | .error failure => return .error failure

end EventRelay.Relay

import EventRelay.Failure.Broker
import EventRelay.Settings.Fault
import EventRelay.SourceRecord
import EventRelay.Uuid

/-!
# Failures of the relay

A failure keeps its cause; its wording, its kind and whether it stops the relay
follow from the cause alone.

Where a document cannot be read, what its reader says of the error and of the place
where it lies is left out: one wording stands for all that the reader may say, in
what is logged as in the reason that a dead letter carries.
-/

namespace EventRelay

/-- Why a record could not be decoded. -/
inductive DecodeFault
  /-- The record is a tombstone. -/
  | noValue
  /-- The value is no document; the reader's account of it is left out. -/
  | notDocument
  /-- The document is no row of the outbox; the reader's account of it is left out. -/
  | notRow
  /-- The row makes no envelope. -/
  | incomplete (fault : Envelope.Fault)
  | reported (reason : String)
  deriving DecidableEq, Repr

/-- The wording of a fault. -/
def DecodeFault.message : DecodeFault → String
  | .noValue => "record has no value"
  | .notDocument => "value is not valid JSON: it does not follow the grammar of documents"
  | .notRow => "value is not an outbox row: a column is missing, repeated or of another type"
  | .incomplete fault => fault.message
  | .reported reason => reason

/-- Why a mapper refused an envelope. -/
inductive MappingFault
  /-- The payload is not what events of this type carry; the reader's account of it is
  left out. -/
  | invalidPayload (eventType : String)
  /-- The order that was created has no lines. -/
  | noLines (order : Uuid)
  /-- The shipment has no tracking number. -/
  | noTrackingNumber (order : Uuid)
  | reported (reason : String)
  deriving DecidableEq, Repr

/-- The wording of a fault. -/
def MappingFault.message : MappingFault → String
  | .invalidPayload eventType =>
      eventType ++ " payload is invalid: it does not have the form of its event type"
  | .noLines order => "order " ++ order.toText ++ " has no lines"
  | .noTrackingNumber order => "shipment for order " ++ order.toText ++ " has no tracking number"
  | .reported reason => reason

/-- Why something the relay set out to do did not succeed. -/
inductive Failure
  /-- Reading the source log cannot go on. -/
  | fatal (reason : String)
  /-- An offset could not be committed. -/
  | commit (coordinates : Coordinates) (reason : String)
  /-- A record could not be decoded. -/
  | decode (fault : DecodeFault)
  /-- No mapper is registered for an event type. -/
  | unmapped (eventType : String)
  /-- A mapper refused an envelope. -/
  | mapping (fault : MappingFault)
  /-- A message could not be published. -/
  | publish (destination : String) (kind : FailureKind) (reason : String)
  /-- A dead letter could not be published. -/
  | deadLetter (destination reason : String)
  /-- Settings are not usable. -/
  | settings (fault : SettingsFault)
  /-- The broker's client failed. -/
  | broker (error : BrokerError)
  /-- A document could not be read or written. -/
  | serialization
  deriving DecidableEq

namespace Failure

/-- The name of a failure, which tells its cause apart from others. -/
def name : Failure → String
  | .fatal _ => "Fatal"
  | .commit _ _ => "Commit"
  | .decode _ => "Decode"
  | .unmapped _ => "MappingNotFound"
  | .mapping _ => "Mapping"
  | .publish _ _ _ => "Publish"
  | .deadLetter _ _ => "DeadLetter"
  | .settings _ => "Config"
  | .broker _ => "Kafka"
  | .serialization => "Serialization"

/-- The wording of a failure. -/
def message : Failure → String
  | .fatal reason => "Fatal consumer error: " ++ reason
  | .commit coordinates reason =>
      "Commit failed for " ++ coordinates.toText ++ ": " ++ reason
  | .decode fault => "Envelope decode failed: " ++ fault.message
  | .unmapped eventType => "No mapper registered for event type '" ++ eventType ++ "'"
  | .mapping fault => "Mapping failed: " ++ fault.message
  | .publish destination kind reason =>
      "Publish to '" ++ destination ++ "' failed (" ++ kind.name ++ "): " ++ reason
  | .deadLetter destination reason =>
      "Dead-letter forward to '" ++ destination ++ "' failed: " ++ reason
  | .settings fault => "Configuration error: " ++ fault.message
  | .broker error => "Kafka error: " ++ error.message
  | .serialization => "Serialization error: the document does not have the form expected"

/-- The wording of a failure, the code of a client's error only named. -/
def brief : Failure → String
  | .broker error => "Kafka error: " ++ error.brief
  | failure => failure.message

/-- The kind of a failure. -/
def kind : Failure → FailureKind
  | .decode _ => .decode
  | .unmapped _ => .mappingNotFound
  | .mapping _ | .settings _ => .validation
  | .publish _ kind _ => kind
  | .serialization => .serialization
  | .broker error => error.kind
  | .deadLetter _ _ => .transient
  | .fatal _ | .commit _ _ => .unknown

/-- Whether a failure stops the relay. -/
def isFatal : Failure → Bool
  | .fatal _ | .commit _ _ => true
  | .broker error => error.isFatal
  | _ => false

end Failure

end EventRelay

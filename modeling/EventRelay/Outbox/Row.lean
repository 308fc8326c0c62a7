import EventRelay.Instant.Reader
import EventRelay.Json.Record

/-!
# Rows of the outbox

A row is a record of ten columns, each of which may be left out or null. Some
columns go by several names. Of identities any scalar is accepted and any other
value passed over.
-/

namespace EventRelay.Outbox

open Json (Value)

/-- A row of the outbox. -/
structure Row where
  id : Option Value
  eventType : Option String
  payload : Option Value
  aggregateType : Option String
  aggregateId : Option Value
  aggregateVersion : Option Int
  correlationId : Option String
  causationId : Option String
  tenantId : Option String
  occurredAt : Option Value

/-- The names that the columns go by, column by column. -/
def columnNames : List (List String) :=
  [["id"],
   ["event_type", "eventType", "type"],
   ["payload"],
   ["aggregate_type", "aggregateType", "aggregatetype"],
   ["aggregate_id", "aggregateId", "aggregateid"],
   ["aggregate_version", "aggregateVersion"],
   ["correlation_id", "correlationId"],
   ["causation_id", "causationId"],
   ["tenant_id", "tenantId"],
   ["occurred_at", "occurredAt", "created_at"]]

namespace Row

/-- Read a row. -/
def ofValue? (value : Value) : Option Row := do
  let record ← value.record? columnNames.length
  let free (position : Nat) : Option (Option Value) :=
    record.defaulted position (columnNames.getD position []) fun item => some item.nullable
  let text (position : Nat) : Option (Option String) :=
    record.defaulted position (columnNames.getD position []) Value.nullableText?
  let id ← free 0
  let eventType ← text 1
  let payload ← free 2
  let aggregateType ← text 3
  let aggregateId ← free 4
  let aggregateVersion ←
    record.defaulted 5 (columnNames.getD 5 [])
      (Value.nullableInteger? Word.leastSigned Word.mostSigned)
  let correlationId ← text 6
  let causationId ← text 7
  let tenantId ← text 8
  let occurredAt ← free 9
  return { id, eventType, payload, aggregateType, aggregateId, aggregateVersion,
           correlationId, causationId, tenantId, occurredAt }

/-- The text of an identity: a text that is not empty, or a number as written. -/
def identity? : Value → Option String
  | .text content => if content.isEmpty then none else some content
  | .number number => some (String.ofList number.write)
  | _ => none

/-- The instant that a column holds: a text in strict form, or milliseconds. -/
def instant? : Value → Option Instant
  | .text content => Instant.readStrict? content
  | .number (.integer millis) => Instant.ofMillis? millis
  | _ => none

/-- The bytes of a payload column: a text verbatim, any other value written
without blanks, nothing for nothing. -/
def payloadBytes : Option Value → Bytes
  | none | some .null => []
  | some (.text content) => Text.toBytes content
  | some value => value.toBytes

end Row

end EventRelay.Outbox

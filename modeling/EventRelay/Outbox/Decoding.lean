import EventRelay.Failure.Basic
import EventRelay.Outbox.Row

/-!
# Decoding records

The value of a record is a row of the outbox, or a change event whose image
after the change is one; either may be wrapped together with its schema, and the
whole may stand behind the frame of a schema registry. Identity that the row
lacks is looked for in the record's headers.
-/

namespace EventRelay.Outbox

open Json (Tree Value)

/-- What a record that is no tombstone says. -/
inductive Decoded
  /-- It holds an event. -/
  | event (envelope : Envelope)
  /-- It holds none, for the reason given, and is done with. -/
  | skipped (reason : String)
  deriving DecidableEq

/-- A way of decoding records, given the time at which it is done. -/
abbrev Decoder := Instant → SourceRecord → Except Failure Decoded

/-- The number written in four bytes, the highest first. -/
def frameNumber (a b c d : UInt8) : Nat :=
  ((a.toNat * 256 + b.toNat) * 256 + c.toNat) * 256 + d.toNat

/-- The schema id of a framed value and what the frame holds. A frame is a zero
byte and four bytes of the id, and holds at least one byte. -/
def unframe : Bytes → Option Nat × Bytes
  | 0 :: a :: b :: c :: d :: first :: rest => (some (frameNumber a b c d), first :: rest)
  | bytes => (none, bytes)

/-- How many members of a document go by `name`. -/
def memberCount (name : String) : Tree → Nat
  | .object members =>
      (members.filter fun member => Json.readQuoted? member.1 == some name).length
  | _ => 0

/-- The member of a value under `name`. -/
def member? (name : String) : Value → Option Value
  | .object members => members.lookup name
  | _ => none

/-- What `value`, the value of `tree`, is wrapped around: the payload, where
there are a schema and a payload, each once. -/
def unwrap (tree : Tree) (value : Value) : Value :=
  if memberCount "schema" tree = 1 ∧ memberCount "payload" tree = 1 then
    (member? "payload" value).getD value
  else value

/-- The image after a change, where `value` is a change event, and else `value`
itself. A change event may have no such image. -/
def rowImage? (value : Value) : Option Value :=
  match member? "op" value, member? "after" value with
  | some _, some image => image.nullable
  | _, _ => some value

/-- The event type of a row, or else one that was left in the headers. -/
def eventTypeOf (row : Row) (headers : Headers) : String :=
  let own := row.eventType.filter fun text => !Text.isBlank text
  (own.or (HeaderName.routedEventTypes.findSome? headers.get?)).getD ""

/-- The id of a row, or else one that was left in the headers. -/
def idOf (row : Row) (headers : Headers) : String :=
  ((row.id.bind Row.identity?).or (headers.get? HeaderName.routedId)).getD ""

/-- What a row and the record around it say of an event. -/
def draftOf (record : SourceRecord) (schemaId : Option Nat) (row : Row) : Envelope.Draft where
  id := idOf row record.headers
  eventType := eventTypeOf row record.headers
  payload := Row.payloadBytes row.payload
  headers :=
    record.headers.merge <|
      Headers.ofPresent [(HeaderName.schemaId, schemaId.map Decimal.ofNat)]
  aggregateType := row.aggregateType.getD ""
  aggregateId := (row.aggregateId.bind Row.identity?).getD ""
  aggregateVersion := row.aggregateVersion
  correlationId := row.correlationId
  causationId := row.causationId
  tenantId := row.tenantId
  occurredAt := (row.occurredAt.bind Row.instant?).or record.timestamp

/-- Why a change event without an image is skipped. -/
def noImageReason : String := "change event without an after image"

/-- The envelope that a row and the record around it make at the time `now`. -/
def sealRow (now : Instant) (record : SourceRecord) (schemaId : Option Nat) (image : Value) :
    Except DecodeFault Decoded :=
  match Row.ofValue? image with
  | none => .error .notRow
  | some row =>
      match (draftOf record schemaId row).seal now with
      | .error fault => .error (.incomplete fault)
      | .ok envelope => .ok (.event envelope)

/-- Decode a value that is not empty. -/
def decodeContent (now : Instant) (record : SourceRecord) (content : Bytes) :
    Except DecodeFault Decoded :=
  let (schemaId, body) := unframe content
  match Tree.parse? body with
  | none => .error .notDocument
  | some tree =>
      match Value.ofTree? Json.depthLimit tree with
      | none => .error .notDocument
      | some value =>
          match rowImage? (unwrap tree value) with
          | none => .ok (.skipped noImageReason)
          | some image => sealRow now record schemaId image

/-- Decode a record at the time `now`. -/
def decode (now : Instant) (record : SourceRecord) : Except DecodeFault Decoded :=
  match record.content? with
  | none => .error .noValue
  | some content => decodeContent now record content

/-- The decoder of the outbox. -/
def decoder : Decoder := fun now record =>
  (decode now record).mapError .decode

end EventRelay.Outbox

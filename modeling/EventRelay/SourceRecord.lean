import EventRelay.Decimal.Integer
import EventRelay.Envelope
import EventRelay.Instant.Printer

/-!
# Records of the source log

A record lies at an offset of one partition of one topic. A record without a
value, or with an empty one, is a tombstone: it marks the end of what its key
stood for and says nothing itself.
-/

namespace EventRelay

/-- Where a record lies in the source log. -/
structure Coordinates where
  topic : String
  partition : Int
  offset : Int
  deriving DecidableEq, Repr

/-- The text of coordinates. -/
def Coordinates.toText (coordinates : Coordinates) : String :=
  coordinates.topic ++ "[" ++ Decimal.ofInt coordinates.partition ++ "]@" ++
    Decimal.ofInt coordinates.offset

/-- A record of the source log. -/
structure SourceRecord where
  coordinates : Coordinates
  key : Option Bytes := none
  value : Option Bytes := none
  headers : Headers := ∅
  timestamp : Option Instant := none
  deriving DecidableEq

namespace SourceRecord

/-- The value of a record that is no tombstone. -/
def content? (record : SourceRecord) : Option Bytes :=
  record.value.filter fun value => !value.isEmpty

/-- Whether a record has no value or an empty one. -/
def isTombstone (record : SourceRecord) : Bool :=
  record.content?.isNone

/-- The headers that say where a record came from. -/
def sourceHeaders (record : SourceRecord) : Headers :=
  Headers.ofPresent
    [(HeaderName.sourceTopic, some record.coordinates.topic),
     (HeaderName.sourcePartition, some (Decimal.ofInt record.coordinates.partition)),
     (HeaderName.sourceOffset, some (Decimal.ofInt record.coordinates.offset)),
     (HeaderName.sourceTimestamp, record.timestamp.map Instant.toMillisText)]

/-- The headers propagated with the messages that `envelope`, decoded from
`record`, gives rise to: what came with it, then what its fields promote, then
where it came from. -/
def propagatedHeaders (record : SourceRecord) (envelope : Envelope) : Headers :=
  (envelope.headers.merge envelope.promotedHeaders).merge record.sourceHeaders

theorem get?_propagatedHeaders (record : SourceRecord) (envelope : Envelope) (name : String) :
    (record.propagatedHeaders envelope).get? name =
      (record.sourceHeaders.get? name).or
        ((envelope.promotedHeaders.get? name).or (envelope.headers.get? name)) := by
  simp [propagatedHeaders]

end SourceRecord

end EventRelay

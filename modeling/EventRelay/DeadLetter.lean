import EventRelay.Message
import EventRelay.SourceRecord
import EventRelay.Uuid

/-!
# Dead letters

A record that cannot be relayed is set aside under a topic of its own. Its key
and value stay untouched, so that it can be replayed; what is known of the
failure travels in headers on top of those it had.
-/

namespace EventRelay

/-- A record set aside, and why. -/
structure DeadLetter where
  id : Uuid
  /-- Where the record lay. -/
  coordinates : Coordinates
  key : Option Bytes
  value : Bytes
  /-- The headers the record was handled with. -/
  headers : Headers
  /-- Why it could not be relayed. -/
  reason : String
  /-- The kind of that failure. -/
  kind : String
  /-- When it was set aside. -/
  timestamp : Instant
  /-- The group of readers that set it aside. -/
  group : String
  deriving DecidableEq

namespace DeadLetter

/-- The topic that a dead letter goes to. -/
def destination (letter : DeadLetter) (suffix : String) : String :=
  letter.coordinates.topic ++ suffix

/-- The headers that describe the failure. -/
def diagnosticHeaders (letter : DeadLetter) : Headers :=
  Headers.ofPresent
    [(HeaderName.deadLetterId, some letter.id.toText),
     (HeaderName.deadLetterTopic, some letter.coordinates.topic),
     (HeaderName.deadLetterPartition, some (Decimal.ofInt letter.coordinates.partition)),
     (HeaderName.deadLetterOffset, some (Decimal.ofInt letter.coordinates.offset)),
     (HeaderName.deadLetterReason, some letter.reason),
     (HeaderName.deadLetterKind, some letter.kind),
     (HeaderName.deadLetterTimestamp, some letter.timestamp.toMillisText),
     (HeaderName.deadLetterGroup, some letter.group)]

/-- The message that carries a dead letter. -/
def toMessage (letter : DeadLetter) (suffix : String) : Message where
  destination := letter.destination suffix
  key := letter.key
  payload := letter.value
  headers := letter.headers.merge letter.diagnosticHeaders

end DeadLetter

end EventRelay

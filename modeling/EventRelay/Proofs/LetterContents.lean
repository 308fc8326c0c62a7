import EventRelay.Proofs.HeaderPrecedence
import EventRelay.Proofs.WrittenScalars

/-!
# What a dead letter keeps

The message that carries a dead letter says what was set aside, where it lay, why and when: two
letters have one message only if they agree in all that. Two things are lost on the way, the part
of the time below a millisecond, and what the record had under the names by which a dead letter
describes the failure.
-/

namespace EventRelay.DeadLetter

/-- Two dead letters agree in all but what is less than a millisecond and the headers under the
names that describe a failure. -/
structure Alike (left right : DeadLetter) : Prop where
  id : left.id = right.id
  coordinates : left.coordinates = right.coordinates
  key : left.key = right.key
  value : left.value = right.value
  reason : left.reason = right.reason
  kind : left.kind = right.kind
  group : left.group = right.group
  timestamp : left.timestamp.truncated = right.timestamp.truncated
  headers : ∀ name ∉ HeaderName.diagnostic, left.headers.get? name = right.headers.get? name

attribute [ext] Coordinates Message

variable {left right : DeadLetter}

/-! ## What describes the failure -/

end EventRelay.DeadLetter

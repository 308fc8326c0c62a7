import EventRelay.Headers
import EventRelay.Text.Utf8

/-!
# Messages

A message is what the relay hands to a publisher. Headers that the relay
propagates lie under the message's own.
-/

namespace EventRelay

/-- A message for a topic downstream. -/
structure Message where
  /-- The topic it goes to. -/
  destination : String
  /-- Messages with one key keep their order. -/
  key : Option Bytes := none
  /-- What it says. -/
  payload : Bytes
  /-- Its own headers. -/
  headers : Headers := ∅
  deriving DecidableEq

namespace Message

/-- The key as a text, where it is one. -/
def keyText? (message : Message) : Option String :=
  message.key.bind Text.ofBytes?

/-- The headers a message is sent with: what is propagated, under its own. -/
def outboundHeaders (message : Message) (propagated : Headers) : Headers :=
  propagated.merge message.headers

/-- A message as it arrives downstream. -/
def sentWith (message : Message) (propagated : Headers) : Message :=
  { message with headers := message.outboundHeaders propagated }

/-- Downstream a header has the message's own value, else the propagated one. -/
theorem get?_outboundHeaders (message : Message) (propagated : Headers) (name : String) :
    (message.outboundHeaders propagated).get? name =
      (message.headers.get? name).or (propagated.get? name) := by
  simp [outboundHeaders]

end Message

end EventRelay

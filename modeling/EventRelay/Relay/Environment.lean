import EventRelay.Failure.Basic
import EventRelay.Journal
import EventRelay.Message
import EventRelay.Signal

/-!
# What a relay works with

A relay reads a source log and publishes messages; it is told of shutdown and
may ask for it; it reads a clock, draws fresh identifiers and keeps a journal.
Each of these may answer as it likes and change the world as it likes.
-/

namespace EventRelay.Relay

/-- What a poll of the source log yields. -/
inductive Polled
  | record (record : SourceRecord)
  /-- Nothing arrived in time. -/
  | idle
  /-- A partition has been read to its end. -/
  | endOfPartition (partition : Int)
  deriving DecidableEq

/-- A partitioned log in which the reader keeps its own positions. -/
structure SourceLog (ω : Type) where
  /-- Wait for the next record, at most as long as given. -/
  poll : Duration → StateM ω (Except Failure Polled)
  /-- Keep the position after a record as the one to resume from. -/
  commit : Coordinates → StateM ω (Except Failure Unit)
  /-- Move the read position back to a record. -/
  rewind : Coordinates → StateM ω (Except Failure Unit)
  /-- What has made reading impossible since the last poll. -/
  fatalError : StateM ω (Option Failure)

/-- Where messages go. -/
structure Publisher (ω : Type) where
  /-- Publish a message over propagated headers. -/
  publish : Message → Headers → StateM ω (Except Failure Unit)
  /-- Publish a message over propagated headers, unless the signal is given first. -/
  race : Message → Headers → StateM ω (Raced (Except Failure Unit))

/-- Everything a relay works with. -/
structure Environment (ω : Type) where
  log : SourceLog ω
  publisher : Publisher ω
  signal : Signal ω
  /-- Ask for shutdown. -/
  trigger : StateM ω Unit
  /-- Read the clock. -/
  now : StateM ω Instant
  /-- Draw an identifier that nothing else has. -/
  freshId : StateM ω Uuid
  /-- Keep a notice. -/
  note : Notice → StateM ω Unit

namespace Environment

variable {ω : Type}

/-- An environment whose notices go to a journal beside the world. -/
def journaled (environment : Environment ω) : Environment (Journaled ω) where
  log :=
    { poll := fun timeout => Journaled.act (environment.log.poll timeout)
      commit := fun coordinates => Journaled.act (environment.log.commit coordinates)
      rewind := fun coordinates => Journaled.act (environment.log.rewind coordinates)
      fatalError := Journaled.act environment.log.fatalError }
  publisher :=
    { publish := fun message headers =>
        Journaled.act (environment.publisher.publish message headers)
      race := fun message headers => Journaled.act (environment.publisher.race message headers) }
  signal :=
    { isTriggered := Journaled.act environment.signal.isTriggered
      pause := fun duration => Journaled.act (environment.signal.pause duration) }
  trigger := Journaled.act environment.trigger
  now := Journaled.act environment.now
  freshId := Journaled.act environment.freshId
  note := Journaled.note

end Environment

end EventRelay.Relay

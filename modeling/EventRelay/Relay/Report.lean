import EventRelay.Failure.Basic
import EventRelay.Journal

/-!
# Notices of a relay

What a relay has to say, each thing in one place. Notices that call for someone
to act are marked as alerts.
-/

namespace EventRelay.Relay.Report

/-- Marks a notice that calls for someone to act. -/
def alert : String × Fact := ("alert", .flag true)

/-- The record that a notice is about. -/
def about (coordinates : Coordinates) : String × Fact :=
  ("coordinates", .text coordinates.toText)

/-- The failure that a notice is about. -/
def because (failure : Failure) : String × Fact :=
  ("error", .text failure.message)

/-- The event type that a notice is about. -/
def ofType (eventType : String) : String × Fact :=
  ("event_type", .text eventType)

/-- The kind of a failure that a notice is about. -/
def ofKind (failure : Failure) : String × Fact :=
  ("kind", .text failure.kind.name)

/-- The topic that a notice is about. -/
def toward (destination : String) : String × Fact :=
  ("destination", .text destination)

/-! ## The source log -/

/-- A record was polled. -/
def polled (coordinates : Coordinates) : Notice :=
  ⟨.debug, "Record polled", [about coordinates]⟩

/-- A partition has been read to its end. -/
def partitionEnd (partition : Int) : Notice :=
  ⟨.debug, "Reached end of partition", [("partition", .integer partition)]⟩

/-- A poll failed. -/
def pollFailed (failure : Failure) : Notice :=
  ⟨.error, "Poll failed", [because failure]⟩

/-- An offset was committed. -/
def committed (coordinates : Coordinates) : Notice :=
  ⟨.debug, "Offset committed", [about coordinates]⟩

/-- An offset could not be committed. -/
def commitFailed (coordinates : Coordinates) (failure : Failure) : Notice :=
  ⟨.error, "Offset commit failed", [alert, about coordinates, because failure]⟩

/-- A partition was rewound. -/
def rewound (coordinates : Coordinates) : Notice :=
  ⟨.info, "Partition rewound for redelivery", [about coordinates]⟩

/-- A partition could not be rewound. -/
def rewindFailed (coordinates : Coordinates) (failure : Failure) : Notice :=
  ⟨.error, "Rewind failed", [about coordinates, because failure]⟩

/-! ## Publishing -/

/-- A message was published. -/
def published (destination : String) : Notice :=
  ⟨.debug, "Message published", [toward destination]⟩

/-- A message could not be published. -/
def publishFailed (destination : String) (failure : Failure) : Notice :=
  ⟨.warning, "Publish failed", [toward destination, ofKind failure, because failure]⟩

/-- A record was set aside. -/
def deadLettered (destination : String) (coordinates : Coordinates) (kind : String) : Notice :=
  ⟨.info, "Record dead-lettered",
    [toward destination, about coordinates, ("exception_type", .text kind)]⟩

/-- A record could not be set aside. -/
def deadLetterFailed (destination : String) (coordinates : Coordinates) (failure : Failure) :
    Notice :=
  ⟨.error, "Dead-letter forward failed",
    [alert, toward destination, about coordinates, because failure]⟩

/-- Records are not set aside. -/
def deadLetteringDisabled (coordinates : Coordinates) (failure : Failure) : Notice :=
  ⟨.error, "Dead-lettering disabled, leaving record pending",
    [alert, about coordinates, because failure]⟩

/-! ## Records -/

/-- A tombstone is done with. -/
def tombstone (coordinates : Coordinates) : Notice :=
  ⟨.debug, "Tombstone acknowledged", [about coordinates]⟩

/-- A record without an event is done with. -/
def skipped (coordinates : Coordinates) (reason : String) : Notice :=
  ⟨.debug, "Change event skipped", [about coordinates, ("reason", .text reason)]⟩

/-- A record could not be decoded. -/
def undecodable (coordinates : Coordinates) (failure : Failure) : Notice :=
  ⟨.warning, "Record could not be decoded, dead-lettering", [about coordinates, because failure]⟩

/-- A delivery ended without a commit. -/
def abandoned (coordinates : Coordinates) : Notice :=
  ⟨.debug, "Message abandoned without commit", [about coordinates]⟩

/-- A delivery was lost sight of. -/
def dropped (coordinates : Coordinates) (eventType : String) : Notice :=
  ⟨.error, "Consumed message dropped without acknowledge, fail or abandon",
    [alert, about coordinates, ofType eventType]⟩

/-- Nothing maps events of this type. -/
def unmapped (coordinates : Coordinates) (eventType : String) : Notice :=
  ⟨.error, "No mapper registered for event type, dead-lettering",
    [alert, about coordinates, ofType eventType]⟩

/-- The signal was given while a message was published. -/
def publishedTooLate (coordinates : Coordinates) : Notice :=
  ⟨.info, "Shutdown after publish, leaving offset uncommitted", [about coordinates]⟩

/-- A message was relayed. -/
def relayed (coordinates : Coordinates) (eventType : String) : Notice :=
  ⟨.debug, "Message relayed", [about coordinates, ofType eventType]⟩

/-- The signal was given during retries. -/
def cancelled (coordinates : Coordinates) (attempts : Nat) : Notice :=
  ⟨.info, "Shutdown during retries, abandoning message",
    [about coordinates, ("attempts", .number attempts)]⟩

/-- A message cannot be published. -/
def givenUp (coordinates : Coordinates) (eventType : String) (attempts : Nat)
    (failure : Failure) : Notice :=
  ⟨.warning, "Giving up on message",
    [about coordinates, ofType eventType, ("attempts", .number attempts), ofKind failure,
     because failure]⟩

/-! ## The loop -/

/-- The relay starts. -/
def started (strategy : String) (maxRetries : Nat) : Notice :=
  ⟨.info, "Outbox relay started",
    [("strategy", .text strategy), ("max_retries", .number maxRetries)]⟩

/-- The relay stops because the signal was given. -/
def stopping : Notice :=
  ⟨.info, "Shutdown requested, stopping outbox relay", []⟩

/-- The relay stops because of a failure. -/
def stoppingOnFailure (failure : Failure) : Notice :=
  ⟨.error, "Outbox relay stopping on fatal error", [alert, because failure]⟩

/-- The relay waits before a record is delivered again. -/
def waiting (backoffMillis : Nat) : Notice :=
  ⟨.debug, "Waiting before redelivery", [("backoff_ms", .number backoffMillis)]⟩

/-- A turn of the loop failed. -/
def turnFailed (failure : Failure) : Notice :=
  ⟨.warning, "Relay iteration failed", [because failure]⟩

/-! ## The client -/

/-- The client reported an error that cannot be recovered from. -/
def clientLost (reason : String) : Notice :=
  ⟨.error, "Fatal consumer error, requesting shutdown", [alert, ("reason", .text reason)]⟩

/-- The client reported an error. -/
def clientTroubled (error reason : String) : Notice :=
  ⟨.warning, "Kafka client error", [("error", .text error), ("reason", .text reason)]⟩

/-- A poll met an error that the client recovers from. -/
def pollTroubled (error : String) : Notice :=
  ⟨.warning, "Recoverable consumer error", [("error", .text error)]⟩

end EventRelay.Relay.Report

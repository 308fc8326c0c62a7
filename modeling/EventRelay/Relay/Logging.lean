import EventRelay.Relay.Environment
import EventRelay.Relay.Report

/-!
# Logged environments

A source log and a publisher can be wrapped so that every answer they give is
noted. The answers are passed on unchanged.
-/

namespace EventRelay.Relay

variable {ω : Type}

/-- What is noted of an answer to a poll. -/
def pollNotice? : Except Failure Polled → Option Notice
  | .ok (.record record) => some (Report.polled record.coordinates)
  | .ok (.endOfPartition partition) => some (Report.partitionEnd partition)
  | .ok .idle => none
  | .error failure => some (Report.pollFailed failure)

/-- What is noted of an answer to a commit. -/
def commitNotice (coordinates : Coordinates) : Except Failure Unit → Notice
  | .ok () => Report.committed coordinates
  | .error failure => Report.commitFailed coordinates failure

/-- What is noted of an answer to a rewind. -/
def rewindNotice (coordinates : Coordinates) : Except Failure Unit → Notice
  | .ok () => Report.rewound coordinates
  | .error failure => Report.rewindFailed coordinates failure

/-- What is noted of an answer to a publish. -/
def publishNotice (message : Message) : Except Failure Unit → Notice
  | .ok () => Report.published message.destination
  | .error failure => Report.publishFailed message.destination failure

/-- A log whose answers are noted. -/
def SourceLog.logged (note : Notice → StateM ω Unit) (log : SourceLog ω) : SourceLog ω where
  poll timeout := do
    let answer ← log.poll timeout
    (pollNotice? answer).forM note
    return answer
  commit coordinates := do
    let answer ← log.commit coordinates
    note (commitNotice coordinates answer)
    return answer
  rewind coordinates := do
    let answer ← log.rewind coordinates
    note (rewindNotice coordinates answer)
    return answer
  fatalError := log.fatalError

/-- A publisher whose answers are noted; an attempt cut off gives none. -/
def Publisher.logged (note : Notice → StateM ω Unit) (publisher : Publisher ω) :
    Publisher ω where
  publish message headers := do
    let answer ← publisher.publish message headers
    note (publishNotice message answer)
    return answer
  race message headers := do
    match ← publisher.race message headers with
    | .finished answer =>
        note (publishNotice message answer)
        return .finished answer
    | .cutOff => return .cutOff

/-- An environment whose log and publisher have their answers noted. -/
def Environment.logged (environment : Environment ω) : Environment ω :=
  { environment with
    log := environment.log.logged environment.note
    publisher := environment.publisher.logged environment.note }

end EventRelay.Relay

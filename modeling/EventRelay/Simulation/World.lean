import EventRelay.Relay.Environment
import EventRelay.Simulation.Clock

/-!
# A scripted world

A world for a relay to be tried in: a source log that hands out what is queued, a
broker whose answers are written down beforehand, and a clock that is told to
pass. The world keeps a list of what was done to it.
-/

namespace EventRelay.Simulation

/-- What one poll of the log meets. -/
inductive Item
  | record (record : SourceRecord)
  | endOfPartition (partition : Int)
  | failing (failure : Failure)
  | idle
  deriving DecidableEq

/-- What the broker makes of a message. -/
inductive Verdict
  | accept
  /-- Refuse it for a reason of the broker's own. -/
  | refuse (kind : FailureKind) (reason : String)
  | fail (failure : Failure)
  deriving DecidableEq

/-- The failure that a verdict on a message for `destination` comes to. -/
def Verdict.failure? (destination : String) : Verdict → Option Failure
  | .accept => none
  | .refuse kind reason => some (.publish destination kind reason)
  | .fail failure => some failure

/-- How an attempt to publish goes. -/
structure Outcome where
  /-- How long it takes. -/
  takeMillis : Nat := 0
  /-- Whether shutdown is asked for as it ends. -/
  shutdown : Bool := false
  verdict : Verdict := .accept
  deriving DecidableEq

/-- An attempt that succeeds at once. -/
def Outcome.success : Outcome := { takeMillis := 0 }

/-- What was done to the world. -/
inductive Event
  | attempted (destination : String) (moment : Nat)
  | refused (destination : String) (moment : Nat)
  | delivered (message : Message) (moment : Nat)
  | committed (coordinates : Coordinates)
  | commitRefused (coordinates : Coordinates)
  | rewound (coordinates : Coordinates)
  | rewindRefused (coordinates : Coordinates)
  deriving DecidableEq

/-- A scripted world. -/
structure World where
  clock : Clock := .start
  /-- The time of day, which does not pass. -/
  timeOfDay : Instant
  /-- The identifier given to everything fresh. -/
  freshId : Uuid
  /-- What the polls to come meet. -/
  queue : List Item := []
  /-- The records handed out, latest first. -/
  handedOut : List SourceRecord := []
  /-- How the attempts to come go; when there are no more, they succeed. -/
  outcomes : List Outcome := []
  /-- How every attempt goes at destinations that are broken. -/
  broken : Dictionary Outcome := ∅
  /-- How the commits to come are answered; when there are no more, they succeed. -/
  commitAnswers : List (Option Failure) := []
  /-- How the rewinds to come are answered; when there are no more, they succeed. -/
  rewindAnswers : List (Option Failure) := []
  /-- What has made reading impossible. -/
  fatal : Option Failure := none
  /-- Whether a poll of the empty queue waits; else it asks for shutdown. -/
  keepPolling : Bool := false
  /-- How many polls there were. -/
  polls : Nat := 0
  /-- What was done, latest first. -/
  latest : List Event := []

/-- What is arranged in a world between the steps of a relay. -/
inductive Arrangement
  | push (items : List Item)
  | expect (outcomes : List Outcome)
  | breakDown (destination : String) (outcome : Outcome)
  | heal (destination : String)
  | answerCommits (answers : List (Option Failure))
  | answerRewinds (answers : List (Option Failure))
  | reportFatal (failure : Option Failure)
  | shutDown

namespace World

/-- Arrange something. -/
def arrange (world : World) : Arrangement → World
  | .push items => { world with queue := world.queue ++ items }
  | .expect outcomes => { world with outcomes := world.outcomes ++ outcomes }
  | .breakDown destination outcome =>
      { world with broken := world.broken.insert destination outcome }
  | .heal destination => { world with broken := world.broken.erase destination }
  | .answerCommits answers => { world with commitAnswers := world.commitAnswers ++ answers }
  | .answerRewinds answers => { world with rewindAnswers := world.rewindAnswers ++ answers }
  | .reportFatal failure => { world with fatal := failure }
  | .shutDown => { world with clock := world.clock.trigger }

/-- Keep an event. -/
def keep (world : World) (event : Event) : World :=
  { world with latest := event :: world.latest }

/-- What was done, in order. -/
def events (world : World) : List Event :=
  world.latest.reverse

@[simp]
theorem events_keep (world : World) (event : Event) :
    (world.keep event).events = world.events ++ [event] := by
  simp [keep, events]

/-! ## The log -/

/-- Hand out what is queued first. -/
def poll (timeout : Duration) : StateM World (Except Failure Relay.Polled) := fun world =>
  let world := { world with polls := world.polls + 1 }
  match world.queue with
  | .record record :: queue =>
      (.ok (.record record), { world with queue, handedOut := record :: world.handedOut })
  | .endOfPartition partition :: queue => (.ok (.endOfPartition partition), { world with queue })
  | .failing failure :: queue => (.error failure, { world with queue })
  | .idle :: queue => (.ok .idle, { world with queue })
  | [] =>
      let clock :=
        if world.keepPolling then world.clock.sleep timeout.roundedMillis
        else world.clock.trigger
      (.ok .idle, { world with clock })

/-- Commit, or fail as the script has it. -/
def commit (coordinates : Coordinates) : StateM World (Except Failure Unit) := fun world =>
  let answer := world.commitAnswers.head?.join
  let world := { world with commitAnswers := world.commitAnswers.tail }
  match answer with
  | some failure => (.error failure, world.keep (.commitRefused coordinates))
  | none => (.ok (), world.keep (.committed coordinates))

/-- Put the record last handed out from a place back to the front of the queue. -/
def putBack (world : World) (coordinates : Coordinates) : World :=
  match world.handedOut.find? fun record => record.coordinates = coordinates with
  | some record => { world with queue := .record record :: world.queue }
  | none => world

/-- Rewind, or fail as the script has it. -/
def rewind (coordinates : Coordinates) : StateM World (Except Failure Unit) := fun world =>
  let answer := world.rewindAnswers.head?.join
  let world := { world with rewindAnswers := world.rewindAnswers.tail }
  match answer with
  | some failure => (.error failure, world.keep (.rewindRefused coordinates))
  | none => (.ok (), (world.putBack coordinates).keep (.rewound coordinates))

/-! ## The broker -/

/-- Begin an attempt, and tell how it will go. -/
def beginAttempt (destination : String) : StateM World Outcome := fun world =>
  let world := world.keep (.attempted destination world.clock.now)
  match world.broken.get? destination with
  | some outcome => (outcome, world)
  | none =>
      (world.outcomes.headD .success, { world with outcomes := world.outcomes.tail })

/-- End an attempt as it goes. -/
def endAttempt (message : Message) (headers : Headers) (outcome : Outcome) :
    StateM World (Except Failure Unit) := fun world =>
  let world :=
    if outcome.shutdown then { world with clock := world.clock.trigger } else world
  match outcome.verdict.failure? message.destination with
  | some failure =>
      (.error failure, world.keep (.refused message.destination world.clock.now))
  | none => (.ok (), world.keep (.delivered (message.sentWith headers) world.clock.now))

/-- Publish, however long it takes. -/
def publish (message : Message) (headers : Headers) : StateM World (Except Failure Unit) := do
  let outcome ← beginAttempt message.destination
  modify fun world => { world with clock := world.clock.sleep outcome.takeMillis }
  endAttempt message headers outcome

/-- Publish, unless the signal is given first and heeded. -/
def racePublish (heeding : Bool) (message : Message) (headers : Headers) :
    StateM World (Raced (Except Failure Unit)) := do
  let outcome ← beginAttempt message.destination
  if heeding then
    let (pause, clock) := (← get).clock.wait outcome.takeMillis
    modify fun world => { world with clock }
    match pause with
    | .interrupted => return .cutOff
    | .elapsed => return .finished (← endAttempt message headers outcome)
  else
    modify fun world => { world with clock := world.clock.sleep outcome.takeMillis }
    return .finished (← endAttempt message headers outcome)

/-! ## The world as an environment -/

/-- Do something to the clock of a world. -/
def onClock {α : Type} (action : StateM Clock α) : StateM World α := fun world =>
  let (value, clock) := action world.clock
  (value, { world with clock })

/-- The signal of a world, for those who heed it and those who do not. -/
def signal (heeding : Bool) : Signal World where
  isTriggered := onClock (Clock.signal heeding).isTriggered
  pause duration := onClock ((Clock.signal heeding).pause duration)

/-- A world as the environment of a relay that heeds the signal, or does not. The
world keeps no notices. -/
def environment (heeding : Bool) : Relay.Environment World where
  log :=
    { poll
      commit
      rewind
      fatalError := fun world => (world.fatal, world) }
  publisher :=
    { publish
      race := racePublish heeding }
  signal := signal heeding
  trigger := modify fun world => { world with clock := world.clock.trigger }
  now := fun world => (world.timeOfDay, world)
  freshId := fun world => (world.freshId, world)
  note := fun _ => pure ()

end World

end EventRelay.Simulation

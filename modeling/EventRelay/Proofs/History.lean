import EventRelay.Relay.Environment

/-!
# Histories

A history lists what happened between a relay and what it works with, latest
first. Where the readers of a log stand, what is committed and whether shutdown is
asked for can all be read off a history, so that a moment of a run is a history
and an earlier moment is a suffix of it.
-/

namespace EventRelay

/-- One partition of one topic. -/
structure Place where
  topic : String
  partition : Int
  deriving DecidableEq

/-- The partition that a record lies in. -/
def Coordinates.place (coordinates : Coordinates) : Place :=
  ⟨coordinates.topic, coordinates.partition⟩

theorem Coordinates.eq_of_place {left right : Coordinates} (place : left.place = right.place)
    (offset : left.offset = right.offset) : left = right := by
  cases left
  cases right
  cases place
  cases offset
  rfl

namespace Relay

/-- What may happen between a relay and what it works with. -/
inductive Happening
  /-- A run starts to read every partition at the offset given. -/
  | resumed (start : Place → Nat)
  /-- Shutdown is asked for. -/
  | shutdown
  /-- The relay looked whether the signal has been given. -/
  | looked (given : Bool)
  | polled (answer : Except Failure Polled)
  /-- The relay was told the time. -/
  | told (now : Instant)
  /-- An attempt to publish ended, or was cut off. -/
  | attempted (message : Message) (headers : Headers) (outcome : Raced (Except Failure Unit))
  | paused (ending : Pause)
  /-- A message was published that is not raced against the signal. -/
  | forwarded (message : Message) (headers : Headers) (answer : Except Failure Unit)
  | committed (coordinates : Coordinates) (answer : Except Failure Unit)
  | rewound (coordinates : Coordinates) (answer : Except Failure Unit)

/-- What happened, latest first. -/
abbrev History := List Happening

namespace History

/-- The offset that a partition is read at next. -/
def position : History → Place → Nat
  | [], _ => 0
  | .resumed start :: _, place => start place
  | .polled (.ok (.record record)) :: earlier, place =>
      if record.coordinates.place = place then position earlier place + 1
      else position earlier place
  | .rewound coordinates (.ok ()) :: earlier, place =>
      if coordinates.place = place then coordinates.offset.toNat else position earlier place
  | _ :: earlier, place => position earlier place

/-- The offset up to which a partition is committed. -/
def committed : History → Place → Nat
  | [], _ => 0
  | .committed coordinates (.ok ()) :: earlier, place =>
      if coordinates.place = place then (coordinates.offset + 1).toNat
      else committed earlier place
  | _ :: earlier, place => committed earlier place

/-- Whether shutdown has been asked for since the run started. -/
def given : History → Bool
  | [] => false
  | .resumed _ :: _ => false
  | .shutdown :: _ => true
  | _ :: earlier => given earlier

/-- A moment at which nothing happened since but that shutdown was asked for. -/
inductive Lapses : History → History → Prop
  | refl (history : History) : Lapses history history
  | shutdown {earlier history : History} (lapses : Lapses earlier history) :
      Lapses earlier (.shutdown :: history)

/-- The next thing that happened to the relay after a moment was `happening`, which
was allowed then. -/
def Adds (allowed : History → Happening → Prop) (happening : Happening)
    (earlier later : History) : Prop :=
  ∃ history, Lapses earlier history ∧ allowed history happening ∧ later = happening :: history

end History

/-! ## Environments that keep a history -/

variable {ω α : Type}

/-- What is done happens as told by its answer. -/
def Tells (history : ω → History) (allowed : History → Happening → Prop)
    (action : StateM ω α) (happening : α → Happening) : Prop :=
  ∀ world, History.Adds allowed (happening (action world).1) (history world)
    (history (action world).2)

/-- What is done is of no account. -/
def Silent (history : ω → History) (action : StateM ω α) : Prop :=
  ∀ world, History.Lapses (history world) (history (action world).2)

/-- An environment whose worlds have a history, and in which nothing happens that is
not allowed. -/
structure Environment.Keeps (environment : Environment ω) (history : ω → History)
    (allowed : History → Happening → Prop) : Prop where
  poll : ∀ timeout, Tells history allowed (environment.log.poll timeout) .polled
  commit : ∀ coordinates,
    Tells history allowed (environment.log.commit coordinates) (.committed coordinates)
  rewind : ∀ coordinates,
    Tells history allowed (environment.log.rewind coordinates) (.rewound coordinates)
  fatalError : Silent history environment.log.fatalError
  publish : ∀ message headers,
    Tells history allowed (environment.publisher.publish message headers)
      (.forwarded message headers)
  race : ∀ message headers,
    Tells history allowed (environment.publisher.race message headers)
      (.attempted message headers)
  isTriggered : Tells history allowed environment.signal.isTriggered .looked
  pause : ∀ duration, Tells history allowed (environment.signal.pause duration) .paused
  trigger : Silent history environment.trigger
  now : Tells history allowed environment.now .told
  freshId : Silent history environment.freshId
  note : ∀ notice, Silent history (environment.note notice)

end Relay

end EventRelay

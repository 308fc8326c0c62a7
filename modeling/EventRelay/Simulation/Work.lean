import EventRelay.Retry.Engine
import EventRelay.Simulation.Clock

/-!
# Scripted work

Work for the retry engine of which it is written down how every attempt goes.
-/

namespace EventRelay.Simulation

/-- A failure that says of itself what kind it is of. -/
structure Reported where
  kind : String
  message : String
  deriving DecidableEq, Repr

instance : Retry.Classified Reported String where
  kind := Reported.kind
  message := Reported.message
  kindName := id

/-- How an attempt goes. -/
structure Effort (α : Type) where
  /-- How long it takes. -/
  takeMillis : Nat := 0
  /-- Whether shutdown is asked for as it ends. -/
  shutdown : Bool := false
  verdict : Except Reported α

/-- A place where scripted work is done. -/
structure Workshop (α : Type) where
  clock : Clock := .start
  /-- How the attempts go; the last is repeated. -/
  script : List (Effort α)
  /-- What attempts were told, and when; latest first. -/
  latest : List (Nat × Retry.Context) := []

namespace Workshop

variable {α : Type}

/-- What attempts were told, and when. -/
def attempts (workshop : Workshop α) : List (Nat × Retry.Context) :=
  workshop.latest.reverse

/-- How the attempt with a number goes; without a script it comes to `unscripted`
at once. -/
def effort (workshop : Workshop α) (unscripted : α) (attempt : Nat) : Effort α :=
  (workshop.script[attempt - 1]?.or workshop.script.getLast?).getD { verdict := .ok unscripted }

/-- The signal of a workshop, for those who heed it and those who do not. -/
def signal (heeding : Bool) : Signal (Workshop α) where
  isTriggered workshop :=
    let (given, clock) := (Clock.signal heeding).isTriggered workshop.clock
    (given, { workshop with clock })
  pause duration workshop :=
    let (pause, clock) := (Clock.signal heeding).pause duration workshop.clock
    (pause, { workshop with clock })

/-- Attempt the work, unless the signal is given first and heeded. -/
def attempt (heeding : Bool) (unscripted : α) (context : Retry.Context) :
    StateM (Workshop α) (Raced (Except Reported α)) := fun workshop =>
  let effort := workshop.effort unscripted context.attempt
  let (pause, clock) :=
    if heeding then workshop.clock.wait effort.takeMillis
    else (.elapsed, workshop.clock.sleep effort.takeMillis)
  let told := (workshop.clock.now, context)
  let clock := if pause = .elapsed ∧ effort.shutdown then clock.trigger else clock
  let workshop := { workshop with clock, latest := told :: workshop.latest }
  match pause with
  | .elapsed => (.finished effort.verdict, workshop)
  | .interrupted => (.cutOff, workshop)

/-- The engine that does the work of a workshop. -/
def engine (heeding : Bool) (policy : Retry.Policy String) (subject : String) (unscripted : α) :
    Retry.Engine (Journaled (Workshop α)) Reported String α where
  policy := policy
  subject := subject
  signal :=
    { isTriggered := Journaled.act (signal heeding).isTriggered
      pause := fun duration => Journaled.act ((signal heeding).pause duration) }
  note := Journaled.note
  operation := fun context => Run.act (Journaled.act (attempt heeding unscripted context))

/-- Work that is done with. -/
structure Finished (α : Type) where
  result : Except (Retry.Surrender Reported) α
  workshop : Workshop α
  samples : List Retry.Sample
  notices : List Notice

/-- Do the work of a workshop. -/
def perform (workshop : Workshop α) (heeding : Bool) (policy : Retry.Policy String)
    (subject : String) (unscripted : α) : Except Overflow (Finished α) :=
  let work := (engine heeding policy subject unscripted).run
  match (work.run : StateM (Session (Journaled (Workshop α))) _)
      { world := { world := workshop } } with
  | (.ok result, session) => .ok {
      result
      workshop := session.world.world
      samples := session.samples
      notices := session.world.notices }
  | (.error overflow, _) => .error overflow

end Workshop

end EventRelay.Simulation

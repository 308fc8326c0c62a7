import EventRelay.Relay.Logging
import EventRelay.Session
import EventRelay.Simulation.World

/-!
# Stages

A relay is tried on a stage: a scripted world, journaled, with the counts and
samples of a session. One step after another is performed on it, and of each it
is shown what it came to and what was done meanwhile.
-/

namespace EventRelay.Simulation

/-- A session in a scripted world. -/
abbrev Stage := Session (Journaled World)

/-- How a step is performed. -/
structure Plan where
  /-- After how many milliseconds shutdown is asked for, if the step lasts so long. -/
  shutdownAfter : Option Nat := none
  /-- Whether a poll of the empty queue waits. -/
  keepPolling : Bool := false
  deriving DecidableEq, Repr

/-- What shows of a step. -/
structure Shown (α : Type) where
  result : α
  /-- How often the log was polled. -/
  polls : Nat
  events : List Event
  /-- When the step ended. -/
  moment : Nat
  /-- Whether shutdown has been asked for. -/
  shutdown : Bool
  counters : Counters
  notices : List Notice

namespace Stage

variable {α : Type}

/-- A stage on which nothing was performed yet. -/
def ofWorld (world : World) : Stage where
  world := { world }

/-- A stage as the environment of a relay, whose answers are noted or not. -/
def environment (heeding logging : Bool) : Relay.Environment (Journaled World) :=
  let plain := (World.environment heeding).journaled
  if logging then plain.logged else plain

/-- Arrange something in the world. -/
def arrange (arrangement : Arrangement) : Run (Journaled World) Unit :=
  Run.act (Journaled.act (modify fun world => world.arrange arrangement))

/-- Get ready for a step: nothing is done yet. -/
def ready (stage : Stage) (plan : Plan) : Stage :=
  let world := stage.world.world
  let clock := plan.shutdownAfter.elim world.clock world.clock.schedule
  { stage with
    world :=
      { world :=
          { world with clock, keepPolling := plan.keepPolling, polls := 0, latest := [] }
        latest := [] } }

/-- What shows of a step that has come to `result`. -/
def shown (stage : Stage) (result : α) : Shown α where
  result := result
  polls := stage.world.world.polls
  events := stage.world.world.events
  moment := stage.world.world.clock.now
  shutdown := stage.world.world.clock.given
  counters := stage.counters
  notices := stage.world.notices

/-- Leave a step; a shutdown that is still to come does not come any more. -/
def leave (stage : Stage) : Stage :=
  let world := stage.world.world
  { stage with
    world := { stage.world with world := { world with clock := world.clock.cancel } } }

/-- Perform a step. -/
def perform (stage : Stage) (plan : Plan) (step : Run (Journaled World) α) :
    Except Overflow (Shown α × Stage) :=
  match (step.run : StateM Stage (Except Overflow α)) (stage.ready plan) with
  | (.ok result, after) => .ok (shown after result, leave after)
  | (.error overflow, _) => .error overflow

end Stage

end EventRelay.Simulation

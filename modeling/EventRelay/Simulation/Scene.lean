import EventRelay.Relay.Loop
import EventRelay.Simulation.Stage

/-!
# Scenes

In a scene a relay, or its reader alone, is taken through a list of steps on one
stage. Deliveries that the reader was handed stay in hand until a step settles
them.
-/

namespace EventRelay.Simulation

open Relay (Delivery Disposition)

/-- What is done in one step. -/
inductive Step
  | arrange (arrangement : Arrangement)
  /-- Let the reader receive. -/
  | receive
  /-- Ask what has made reading impossible. -/
  | fatalError
  /-- Acknowledge the delivery at a position in hand. -/
  | acknowledge (position : Nat)
  /-- Fail the delivery at a position in hand. -/
  | fail (position : Nat) (failure : Failure)
  /-- Abandon the delivery at a position in hand. -/
  | abandon (position : Nat)
  /-- Lose sight of the delivery at a position in hand. -/
  | drop (position : Nat)
  /-- Forward a dead letter. -/
  | forward (record : SourceRecord) (headers : Headers) (failure : Failure)
  /-- Let the relay poll once, heeding the signal or not. -/
  | poll (heeding : Bool)
  /-- Run the relay for at most so many turns. -/
  | run (most : Nat)

/-- What a step comes to. -/
inductive Answer
  | done
  /-- There is nothing to tell. -/
  | nothing
  | idle
  | delivered (delivery : Delivery)
  | settled (disposition : Disposition)
  | failed (failure : Failure)
  | notHeld
  | acknowledged
  | abandoned
  | dropped
  | forwarded (letter : DeadLetter)
  /-- The relay stopped. -/
  | stopped
  /-- The relay would go on. -/
  | running
  deriving DecidableEq

/-- The answer that a result amounts to. -/
def Answer.ofResult {α : Type} (answer : α → Answer) : Except Failure α → Answer
  | .ok value => answer value
  | .error failure => .failed failure

/-- A stage with the deliveries in hand, oldest first. -/
structure Scene where
  stage : Stage
  held : List Delivery := []

namespace Scene

/-- What is done in a scene. -/
abbrev Act := Run (Journaled World)

/-- Settle the delivery at a position in hand. -/
def settle (held : List Delivery) (position : Nat) (act : Delivery → Act Answer) :
    Act (Answer × List Delivery) :=
  match held[position]? with
  | none => return (.notHeld, held)
  | some delivery => return (← act delivery, held.eraseIdx position)

/-- Let the reader of a relay receive. -/
def receive (relay : Relay) (environment : Relay.Environment (Journaled World))
    (held : List Delivery) : Act (Answer × List Delivery) := do
  match ← Relay.receive environment relay.decoder relay.forwarder relay.pollTimeout with
  | .error failure => return (.failed failure, held)
  | .ok .idle => return (.idle, held)
  | .ok (.settled disposition) => return (.settled disposition, held)
  | .ok (.delivered delivery) => return (.delivered delivery, held ++ [delivery])

/-- Take a step with the deliveries in hand. -/
def take (relay : Relay) (logging : Bool) (held : List Delivery) :
    Step → Act (Answer × List Delivery)
  | .arrange arrangement => do
      Stage.arrange arrangement
      return (.done, held)
  | .receive => receive relay (Stage.environment true logging) held
  | .fatalError => do
      let failure ← Run.act (Stage.environment true logging).log.fatalError
      return (failure.elim .nothing .failed, held)
  | .acknowledge position => settle held position fun delivery => do
      return .ofResult (fun _ => .acknowledged)
        (← delivery.acknowledge (Stage.environment true logging))
  | .fail position failure => settle held position fun delivery => do
      return .ofResult .settled
        (← delivery.fail (Stage.environment true logging) relay.forwarder failure)
  | .abandon position => settle held position fun delivery => do
      delivery.abandon (Stage.environment true logging)
      return .abandoned
  | .drop position => settle held position fun delivery => do
      delivery.drop (Stage.environment true logging)
      return .dropped
  | .forward record headers failure => do
      let environment := Stage.environment true logging
      let result ← Run.act (relay.forwarder.forward environment record headers failure)
      return (.ofResult .forwarded result, held)
  | .poll heeding => do
      let result ← relay.pollOnce (Stage.environment heeding logging)
      return (.ofResult (fun disposition => disposition.elim .nothing .settled) result, held)
  | .run most => do
      match ← relay.run (Stage.environment true logging) most with
      | none => return (.running, held)
      | some result => return (.ofResult (fun _ => .stopped) result, held)

/-- Play a step, and show it. -/
def play (scene : Scene) (relay : Relay) (logging : Bool) (plan : Plan) (step : Step) :
    Except Overflow (Shown Answer × Scene) := do
  let (shown, stage) ← scene.stage.perform plan (take relay logging scene.held step)
  let (answer, held) := shown.result
  return ({ shown with result := answer }, { stage, held })

/-- Play all steps, and show each. -/
def playAll (relay : Relay) (logging : Bool) :
    Scene → List (Plan × Step) → Except Overflow (List (Shown Answer))
  | _, [] => return []
  | scene, (plan, step) :: rest => do
      let (shown, scene) ← scene.play relay logging plan step
      return shown :: (← playAll relay logging scene rest)

end Scene

end EventRelay.Simulation

import EventRelay.Proofs.Assertions
import EventRelay.Proofs.History

/-!
# Recorded environments

Any environment can be watched: what happens is kept beside the world, and every answer
stays as it is. A statement about all recorded environments is one about all logs, all
publishers and all ways in which a signal may be given.
-/

namespace EventRelay.Relay

/-- A world with what happened in it, latest first. -/
structure Recorded (ω : Type) where
  world : ω
  history : History := []

variable {ω α : Type}

namespace Recorded

/-- Do something to the world that is of no account. -/
def pass (action : StateM ω α) : StateM (Recorded ω) α := fun recorded =>
  let (value, world) := action recorded.world
  (value, { recorded with world })

/-- Do something to the world and keep what happened by it. -/
def keep (happening : α → Happening) (action : StateM ω α) : StateM (Recorded ω) α :=
  fun recorded =>
    let (value, world) := action recorded.world
    (value, { world, history := happening value :: recorded.history })

theorem silent_pass (action : StateM ω α) : Silent Recorded.history (pass action) :=
  fun recorded => .refl recorded.history

theorem tells_keep (happening : α → Happening) (action : StateM ω α) :
    Tells Recorded.history (fun _ _ => True) (keep happening action) happening :=
  fun recorded => ⟨recorded.history, .refl _, trivial, rfl⟩

/-! ## Assertions about what happened -/

/-- What happened is as told. -/
def Holds (told : History → Prop) (session : Session (Recorded ω)) : Prop :=
  told session.world.history

variable {told : History → Prop} {broken : Session (Recorded ω) → Prop}

theorem leads_pass (action : StateM ω α) :
    Run.Leads (Holds told) (Run.act (pass action)) (fun _ => Holds told) broken :=
  Run.leads_act fun _ holds => holds

theorem leads_keep {happening : α → Happening} {action : StateM ω α}
    {after : α → History → Prop}
    (step : ∀ answer history, told history → after answer (happening answer :: history)) :
    Run.Leads (Holds told) (Run.act (keep happening action)) (fun answer => Holds (after answer))
      broken :=
  Run.leads_act fun session holds => step _ session.world.history holds

end Recorded

open Recorded

/-- An environment that is watched. -/
def Environment.recorded (environment : Environment ω) : Environment (Recorded ω) where
  log :=
    { poll := fun timeout => keep .polled (environment.log.poll timeout)
      commit := fun coordinates =>
        keep (.committed coordinates) (environment.log.commit coordinates)
      rewind := fun coordinates =>
        keep (.rewound coordinates) (environment.log.rewind coordinates)
      fatalError := pass environment.log.fatalError }
  publisher :=
    { publish := fun message headers =>
        keep (.forwarded message headers) (environment.publisher.publish message headers)
      race := fun message headers =>
        keep (.attempted message headers) (environment.publisher.race message headers) }
  signal :=
    { isTriggered := keep .looked environment.signal.isTriggered
      pause := fun duration => keep .paused (environment.signal.pause duration) }
  trigger := keep (fun _ => .shutdown) environment.trigger
  now := keep .told environment.now
  freshId := pass environment.freshId
  note := fun notice => pass (environment.note notice)

theorem Environment.keeps_recorded (environment : Environment ω) :
    environment.recorded.Keeps Recorded.history fun _ _ => True where
  poll _ := tells_keep _ _
  commit _ := tells_keep _ _
  rewind _ := tells_keep _ _
  fatalError := silent_pass _
  publish _ _ := tells_keep _ _
  race _ _ := tells_keep _ _
  isTriggered := tells_keep _ _
  pause _ := tells_keep _ _
  trigger recorded := .shutdown (.refl recorded.history)
  now := tells_keep _ _
  freshId := silent_pass _
  note _ := silent_pass _

end EventRelay.Relay

import EventRelay.Proofs.Likeness
import EventRelay.Proofs.Outlines

/-!
# Overseen work

How often an engine attempts its work cannot be seen from outside: an attempt need not leave a
trace in the world. So the work is overseen, and every attempt is noted beside the world before
it is made. The engine takes no notice: it does to the world what it would have done by itself,
and comes to the same result. What is noted are then the calls that the engine makes.
-/

namespace EventRelay.Retry

open Run

variable {ω ε κ α β : Type}

/-- A world with the calls of the work that were made in it, latest first. -/
structure Overseen (ω : Type) where
  world : ω
  calls : List Context := []

namespace Overseen

/-- Do something to the world that is no call of the work. -/
def lift (action : StateM ω α) : StateM (Overseen ω) α := fun overseen =>
  ((action overseen.world).1, { overseen with world := (action overseen.world).2 })

/-- Note a call of the work. -/
def call (context : Context) : StateM (Overseen ω) Unit := fun overseen =>
  ((), { overseen with calls := context :: overseen.calls })

/-- A session without what was noted. -/
def forget (session : Session (Overseen ω)) : Session ω :=
  { session with world := session.world.world }

/-- Run something that makes no note of its own. -/
def within (program : Run ω α) : Run (Overseen ω) α := fun session =>
  let (result, later) := program (forget session)
  (result, { later with world := { session.world with world := later.world } })

end Overseen

/-- The same work, overseen. -/
def Engine.overseen (engine : Engine ω ε κ α) : Engine (Overseen ω) ε κ α where
  policy := engine.policy
  subject := engine.subject
  signal :=
    { isTriggered := Overseen.lift engine.signal.isTriggered
      pause := fun duration => Overseen.lift (engine.signal.pause duration) }
  note notice := Overseen.lift (engine.note notice)
  operation context := do
    Run.act (Overseen.call context)
    Overseen.within (engine.operation context)

/-- A session in which no call was noted yet. -/
def Overseen.start (session : Session ω) : Session (Overseen ω) :=
  { session with world := { world := session.world } }

/-! ## Assertions about overseen work -/

/-- It is as told of the calls that were noted and of the session without them. -/
def Overseen.Holds (told : List Context → Session ω → Prop)
    (session : Session (Overseen ω)) : Prop :=
  told session.world.calls (forget session)

section Assertions

variable {before broken : List Context → Session ω → Prop}
  {after : α → List Context → Session ω → Prop} {stopped : Session (Overseen ω) → Prop}

/-- What makes no note may be told of with whatever was noted before. -/
theorem Overseen.leads_within {program : Run ω α}
    (leads : ∀ calls,
      Leads (before calls) program (fun value => after value calls) (broken calls)) :
    Leads (Holds before) (within program) (fun value => Holds (after value)) (Holds broken) := by
  intro session holds
  have led := leads session.world.calls (forget session) holds
  revert led
  unfold within
  rcases program (forget session) with ⟨overflow | value, later⟩
  · exact id
  · exact id

theorem Overseen.leads_lift {action : StateM ω α}
    (leads : ∀ calls, Leads (before calls) (act action) (fun value => after value calls)
      fun _ => False) :
    Leads (Holds before) (act (lift action)) (fun value => Holds (after value)) stopped :=
  fun session holds => leads session.world.calls (forget session) holds

/-- A call is noted before it is made. -/
theorem Overseen.leads_operation {engine : Engine ω ε κ α} {context : Context}
    {answered : Raced (Except ε α) → List Context → Session ω → Prop}
    (leads : ∀ calls, Leads (before calls) (engine.operation context)
      (fun outcome => answered outcome (context :: calls)) (broken (context :: calls))) :
    Leads (Holds before) (engine.overseen.operation context)
      (fun outcome => Holds (answered outcome)) (Holds broken) := by
  have notes : Leads (Holds before) (act (call context))
      (fun _ => Holds fun calls session => ∃ earlier, calls = context :: earlier ∧
        before earlier session) (Holds broken) :=
    leads_act fun _ holds => ⟨_, rfl, holds⟩
  apply notes.bind
  intro _
  apply leads_within
  intro calls
  apply leads_exists
  intro earlier
  apply leads_and
  rintro rfl
  exact leads earlier

end Assertions

/-! ## Oversight changes nothing -/

/-- It is the world with some calls noted. -/
def Overseen.Of (overseen : Overseen ω) (world : ω) : Prop :=
  overseen.world = world

theorem Overseen.answers_lift (action : StateM ω α) : Answers Of (lift action) action := by
  rintro overseen _ rfl
  exact ⟨rfl, rfl⟩

theorem Overseen.forget_eq {session : Session (Overseen ω)} {rest : Session ω}
    (like : Session.Like Of session rest) : forget session = rest :=
  Session.Like.eq ⟨like.world, like.counters, like.samples⟩

/-- A note of the call is seen by nobody. -/
theorem Overseen.matches_operation (engine : Engine ω ε κ α) (context : Context) :
    Matches Of (engine.overseen.operation context) (engine.operation context) := by
  intro session rest like
  rw [← forget_eq like]
  change (within (engine.operation context) (act (call context) session).2).1 = _ ∧
    Session.Like Of (within (engine.operation context) (act (call context) session).2).2 _
  exact ⟨rfl, rfl, rfl, rfl⟩

/-- An engine takes no notice of being overseen. -/
theorem Engine.like_overseen (engine : Engine ω ε κ α) :
    engine.overseen.Like Overseen.Of engine where
  policy := rfl
  subject := rfl
  signal := ⟨Overseen.answers_lift _, fun _ => Overseen.answers_lift _⟩
  note _ := Overseen.answers_lift _
  operation := Overseen.matches_operation engine

namespace Engine

variable [Classified ε κ] [DecidableEq κ] (engine : Engine ω ε κ α)

/-- The calls of its work that an engine makes, latest first. -/
def calls (session : Session ω) : List Context :=
  (engine.overseen.run (Overseen.start session)).2.world.calls

/-- An engine comes to what it comes to where it is overseen. -/
theorem run_eq_overseen (session : Session ω) :
    engine.run session =
      ((engine.overseen.run (Overseen.start session)).1,
        Overseen.forget (engine.overseen.run (Overseen.start session)).2) := by
  obtain ⟨same, later⟩ := engine.like_overseen.run (Overseen.start session) session ⟨rfl, rfl, rfl⟩
  exact Prod.ext same.symm (Overseen.forget_eq later).symm

end Engine

end EventRelay.Retry

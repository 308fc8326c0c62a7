import EventRelay.Counters
import EventRelay.Overflow
import EventRelay.Retry.Sample

/-!
# Sessions

A session is the world outside together with what a relay keeps of its own: its
counts, and the samples that retried work leaves. Whatever runs in a session
stops at an overflow, and the session then stays as it was at that point.
-/

namespace EventRelay

/-- The world and what a relay keeps of its own. -/
structure Session (ω : Type) where
  world : ω
  counters : Counters := Counters.zero
  /-- The samples left so far, latest first. -/
  samples : List Retry.Sample := []

/-- Something that runs in a session. -/
abbrev Run (ω α : Type) := ExceptT Overflow (StateM (Session ω)) α

namespace Run

variable {ω α : Type}

/-- Do something to the world alone. -/
def act (action : StateM ω α) : Run ω α := fun session =>
  let (value, world) := action session.world
  (.ok value, { session with world })

/-- Count something once. -/
def count (counter : Counter) : Run ω Unit := fun session =>
  (.ok (), { session with counters := session.counters.add counter 1 })

/-- Leave a sample. -/
def leave (sample : Retry.Sample) : Run ω Unit := fun session =>
  (.ok (), { session with samples := sample :: session.samples })

/-- Go on with a result, or stop at an overflow. -/
def check (result : Except Overflow α) : Run ω α := fun session =>
  (result, session)

@[simp]
theorem act_apply (action : StateM ω α) (session : Session ω) :
    act action session =
      (.ok (action session.world).1, { session with world := (action session.world).2 }) := rfl

@[simp]
theorem count_apply (counter : Counter) (session : Session ω) :
    count counter session =
      (.ok (), { session with counters := session.counters.add counter 1 }) := rfl

@[simp]
theorem leave_apply (sample : Retry.Sample) (session : Session ω) :
    leave sample session = (.ok (), { session with samples := sample :: session.samples }) := rfl

@[simp]
theorem check_apply (result : Except Overflow α) (session : Session ω) :
    check result session = (result, session) := rfl

end Run

end EventRelay

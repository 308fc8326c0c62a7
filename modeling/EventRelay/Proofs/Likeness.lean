import EventRelay.Proofs.Assertions

/-!
# Likeness

Two worlds may differ in what no answer depends on, such as what is noted in them. Where every
action answers the same in both and keeps them as related as they were, so does whatever runs in
a session, an engine included: it comes to the same, and it keeps the same counts and samples.
-/

namespace EventRelay

variable {ω χ α β : Type}

/-- In related worlds two actions answer the same, and they leave related worlds. -/
def Answers (related : ω → χ → Prop) (action : StateM ω α) (other : StateM χ α) : Prop :=
  ∀ world rest, related world rest →
    (action world).1 = (other rest).1 ∧ related (action world).2 (other rest).2

/-- Sessions in related worlds, with the same counts and samples. -/
structure Session.Like (related : ω → χ → Prop) (session : Session ω) (other : Session χ) :
    Prop where
  world : related session.world other.world
  counters : session.counters = other.counters
  samples : session.samples = other.samples

/-- Sessions in the same world, with the same counts and samples, are the same. -/
theorem Session.Like.eq {session other : Session ω} (like : Session.Like Eq session other) :
    session = other := by
  obtain ⟨world, counters, samples⟩ := like
  cases session
  cases other
  congr

/-- In like sessions two programs come to the same, and they leave like sessions. -/
def Run.Matches (related : ω → χ → Prop) (program : Run ω α) (other : Run χ α) : Prop :=
  ∀ session rest, Session.Like related session rest →
    (program session).1 = (other rest).1 ∧ Session.Like related (program session).2 (other rest).2

variable {related : ω → χ → Prop}

namespace Answers

theorem refl (action : StateM ω α) : Answers Eq action action := by
  rintro world _ rfl
  exact ⟨rfl, rfl⟩

theorem pure (value : α) :
    Answers related (Pure.pure value : StateM ω α) (Pure.pure value : StateM χ α) :=
  fun _ _ holds => ⟨rfl, holds⟩

theorem bind {action : StateM ω α} {other : StateM χ α} {next : α → StateM ω β}
    {rest : α → StateM χ β} (answers : Answers related action other)
    (answered : ∀ value, Answers related (next value) (rest value)) :
    Answers related (action >>= next) (other >>= rest) := by
  intro world others holds
  obtain ⟨same, kept⟩ := answers world others holds
  change (next (action world).1 (action world).2).1 = (rest (other others).1 (other others).2).1 ∧
    related (next (action world).1 (action world).2).2 (rest (other others).1 (other others).2).2
  rw [same]
  exact answered _ _ _ kept

end Answers

namespace Run.Matches

theorem pure (value : α) :
    Matches related (Pure.pure value : Run ω α) (Pure.pure value : Run χ α) :=
  fun _ _ like => ⟨rfl, like⟩

theorem act {action : StateM ω α} {other : StateM χ α} (answers : Answers related action other) :
    Matches related (Run.act action) (Run.act other) := by
  intro session rest like
  obtain ⟨same, kept⟩ := answers _ _ like.world
  exact ⟨congrArg Except.ok same, ⟨kept, like.counters, like.samples⟩⟩

theorem count (counter : Counter) :
    Matches related (Run.count counter : Run ω Unit) (Run.count counter : Run χ Unit) :=
  fun _ _ like =>
    ⟨rfl, ⟨like.world, congrArg (fun counters => counters.add counter 1) like.counters,
      like.samples⟩⟩

theorem leave (sample : Retry.Sample) :
    Matches related (Run.leave sample : Run ω Unit) (Run.leave sample : Run χ Unit) :=
  fun _ _ like => ⟨rfl, ⟨like.world, like.counters, congrArg (sample :: ·) like.samples⟩⟩

theorem check (result : Except Overflow α) :
    Matches related (Run.check result : Run ω α) (Run.check result : Run χ α) :=
  fun _ _ like => ⟨rfl, like⟩

/-- Whatever would come after an overflow does not. -/
theorem throw {overflow : Overflow} {next : α → Run ω β} {rest : α → Run χ β} :
    Matches related (MonadExcept.throw overflow >>= next) (MonadExcept.throw overflow >>= rest) :=
  fun _ _ like => ⟨rfl, like⟩

theorem bind {program : Run ω α} {other : Run χ α} {next : α → Run ω β} {rest : α → Run χ β}
    (alike : Matches related program other)
    (follow : ∀ value, Matches related (next value) (rest value)) :
    Matches related (program >>= next) (other >>= rest) := by
  intro session others like
  obtain ⟨same, later⟩ := alike session others like
  rw [bind_apply, bind_apply]
  revert same later
  rcases program session with ⟨overflow | value, left⟩ <;>
    rcases other others with ⟨overflow' | value', left'⟩ <;> intro same later
  · exact ⟨congrArg Except.error (Except.error.inj same), later⟩
  · contradiction
  · contradiction
  · obtain rfl := Except.ok.inj same
    exact follow value left left' later

/-- An action comes before what matches anyway. -/
theorem act_bind {action : StateM ω α} {other : StateM χ α} {next : α → Run ω β}
    {rest : α → Run χ β} (answers : Answers related action other)
    (follow : ∀ value, Matches related (next value) (rest value)) :
    Matches related (Run.act action >>= next) (Run.act other >>= rest) :=
  (act answers).bind follow

theorem ite {condition : Prop} [Decidable condition] {program another : Run ω α}
    {other rest : Run χ α} (alike : Matches related program other)
    (also : Matches related another rest) :
    Matches related (if condition then program else another)
      (if condition then other else rest) := by
  split
  · exact alike
  · exact also

end Run.Matches

/-- Two signals answer the same. -/
structure Signal.Like (related : ω → χ → Prop) (signal : Signal ω) (other : Signal χ) :
    Prop where
  isTriggered : Answers related signal.isTriggered other.isTriggered
  pause : ∀ duration, Answers related (signal.pause duration) (other.pause duration)

namespace Retry.Engine

variable {ε κ : Type}

/-- Two engines have the same work to do, and its attempts match. -/
structure Like (related : ω → χ → Prop) (engine : Engine ω ε κ α) (other : Engine χ ε κ α) :
    Prop where
  policy : engine.policy = other.policy
  subject : engine.subject = other.subject
  signal : Signal.Like related engine.signal other.signal
  note : ∀ notice, Answers related (engine.note notice) (other.note notice)
  operation : ∀ context, Run.Matches related (engine.operation context) (other.operation context)

namespace Like

variable {engine : Engine ω ε κ α} {other : Engine χ ε κ α} (like : engine.Like related other)
include like

theorem context (attempt : Nat) (lastError : Option String) :
    engine.context attempt lastError = other.context attempt lastError := by
  unfold Engine.context
  rw [like.policy, like.subject]

theorem surrender (notice : Notice) (reason : Surrender ε) :
    Run.Matches related (do Run.act (engine.note notice); @Engine.surrender _ _ α reason)
      (do Run.act (other.note notice); @Engine.surrender _ _ α reason) :=
  .act_bind (like.note notice) fun _ => (Run.Matches.leave _).bind fun _ => .pure _

theorem succeed (context : Context) (value : α) :
    Run.Matches related (engine.succeed context value) (other.succeed context value) := by
  have leaves : Run.Matches related
      (do Run.leave ⟨.success, context.attempt⟩; return .ok value :
        Run ω (Except (Surrender ε) α))
      (do Run.leave ⟨.success, context.attempt⟩; return .ok value :
        Run χ (Except (Surrender ε) α)) :=
    (Run.Matches.leave _).bind fun _ => .pure _
  exact (Run.Matches.act_bind (like.note _) fun _ => leaves).ite leaves

variable [Classified ε κ]

theorem waitToRetry (context : Context) (failure : ε) :
    Run.Matches related (engine.waitToRetry context failure)
      (other.waitToRetry context failure) := by
  unfold Engine.waitToRetry
  rw [like.policy]
  exact .act_bind (like.note _) fun _ => (Run.Matches.pure _).ite (.act (like.signal.pause _))

variable [DecidableEq κ]

/-- The induction is on the retries left. -/
theorem attemptFrom (budget attempt : Nat) (lastError : Option String) :
    Run.Matches related (engine.attemptFrom budget attempt lastError)
      (other.attemptFrom budget attempt lastError) := by
  unfold Engine.attemptFrom
  rw [like.context, like.policy]
  dsimp only
  apply Run.Matches.ite
  · exact .throw
  apply (like.operation _).bind
  rintro ((failure | value) | _)
  · apply Run.Matches.ite
    · cases budget with
      | zero => exact like.surrender _ _
      | succ budget =>
          apply Run.Matches.act_bind like.signal.isTriggered
          intro given
          apply Run.Matches.ite
          · exact like.surrender _ _
          · apply (like.waitToRetry _ failure).bind
            rintro (_ | _)
            · exact attemptFrom budget (attempt + 1) _
            · exact (Run.Matches.leave _).bind fun _ => .pure _
    · exact like.surrender _ _
  · exact like.succeed _ value
  · exact like.surrender _ _
termination_by budget

/-- Engines with the same work to do come to the same if its attempts do. -/
theorem run : Run.Matches related engine.run other.run := by
  unfold Engine.run
  rw [like.policy]
  exact like.attemptFrom _ 1 none

end Like

end Retry.Engine

end EventRelay

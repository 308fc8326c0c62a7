import EventRelay.Proofs.Assertions

/-!
# Outlines of retried work

An outline of retried work names what holds before an attempt, after it, and before
the delay that follows a failure. Each step of the engine is checked against it once,
and the induction on the retries left is the same for every outline. A closing outline
tells as well of the sample that is left at the end; to most outlines it makes no difference.
-/

namespace EventRelay.Retry

/-- How work that came to this result is counted. -/
def endingOf {ε α : Type} : Except (Surrender ε) α → Ending
  | .ok _ => .success
  | .error reason => reason.ending

namespace Engine

open Run

variable {ω ε κ α : Type} [Classified ε κ] [DecidableEq κ] {broken : Session ω → Prop}

/-- What holds after a delay that may be interrupted. -/
def Rested (elapsed interrupted : Session ω → Prop) : Pause → Session ω → Prop
  | .elapsed => elapsed
  | .interrupted => interrupted

/-! ## Outlines that tell of the sample -/

/-- What holds between the steps of an engine that comes to a result as in `after`. Before the
sample is left it is as in `closing`, which may tell of the result and of the number of the last
attempt. The rest may tell of the retries left and of the number of the attempt, in this order. -/
structure ClosingOutline (engine : Engine ω ε κ α)
    (closing : Except (Surrender ε) α → Nat → Session ω → Prop)
    (after : Except (Surrender ε) α → Session ω → Prop) (broken : Session ω → Prop) where
  /-- What holds before an attempt that is told of a failure. -/
  trying : Nat → Nat → Option String → Session ω → Prop
  /-- What holds after an attempt that ended so. -/
  answered : Nat → Nat → Raced (Except ε α) → Session ω → Prop
  /-- What holds before the delay after a failure. -/
  waiting : Nat → Nat → ε → Session ω → Prop
  notes : ∀ result attempt notice, Leads (closing result attempt) (act (engine.note notice))
    (fun _ => closing result attempt) broken
  leaves : ∀ result attempt, Leads (closing result attempt) (leave ⟨endingOf result, attempt⟩)
    (fun _ => after result) broken
  overflows : ∀ {budget attempt lastError}, UInt32.size ≤ attempt →
    ∀ session, trying budget attempt lastError session → broken session
  attempts : ∀ budget attempt lastError,
    Leads (trying budget attempt lastError)
      (engine.operation (engine.context attempt lastError)) (answered budget attempt) broken
  succeeds : ∀ {budget attempt value} session,
    answered budget attempt (.finished (.ok value)) session → closing (.ok value) attempt session
  drops : ∀ {budget attempt} session, answered budget attempt .cutOff session →
    closing (.error (.cancelled attempt none)) attempt session
  refuses : ∀ {budget attempt failure},
    engine.policy.filter.retries (Classified.kind failure) = false →
    ∀ session, answered budget attempt (.finished (.error failure)) session →
      closing (.error (.notRetryable attempt failure)) attempt session
  exhausts : ∀ {attempt failure}, engine.policy.filter.retries (Classified.kind failure) = true →
    ∀ session, answered 0 attempt (.finished (.error failure)) session →
      closing (.error (.exhausted attempt failure)) attempt session
  looks : ∀ {budget attempt failure},
    engine.policy.filter.retries (Classified.kind failure) = true →
    Leads (answered (budget + 1) attempt (.finished (.error failure)))
      (act engine.signal.isTriggered)
      (fun given => bif given then closing (.error (.cancelled attempt (some failure))) attempt
        else waiting budget attempt failure) broken
  warns : ∀ {budget attempt failure} notice,
    Leads (waiting budget attempt failure) (act (engine.note notice))
      (fun _ => waiting budget attempt failure) broken
  hastens : ∀ {budget attempt failure}, (engine.policy.strategy.delay attempt).isZero = true →
    ∀ session, waiting budget attempt failure session →
      trying budget (attempt + 1) (some (Classified.message failure)) session
  pauses : ∀ {budget attempt failure}, (engine.policy.strategy.delay attempt).isZero = false →
    Leads (waiting budget attempt failure)
      (act (engine.signal.pause (engine.policy.strategy.delay attempt)))
      (Rested (trying budget (attempt + 1) (some (Classified.message failure)))
        (closing (.error (.cancelled attempt (some failure))) attempt)) broken

namespace ClosingOutline

variable {engine : Engine ω ε κ α} {closing : Except (Surrender ε) α → Nat → Session ω → Prop}
  {after : Except (Surrender ε) α → Session ω → Prop}
  (outline : engine.ClosingOutline closing after broken)

include outline in
/-- Work that succeeds leaves a sample, and a notice where it was retried. -/
theorem leads_succeed {context : Context} {value : α} :
    Leads (closing (.ok value) context.attempt) (engine.succeed context value) after broken := by
  unfold succeed
  split
  case' isTrue =>
    apply (outline.notes _ _ _).bind
    intro _
  all_goals exact (outline.leaves (.ok value) _).bind fun _ => leads_pure fun _ told => told

include outline in
/-- Giving up leaves a sample. -/
theorem leads_surrender {reason : Surrender ε} :
    Leads (closing (.error reason) reason.attempts) (surrender reason) after broken :=
  (outline.leaves (.error reason) _).bind fun _ => leads_pure fun _ told => told

include outline in
theorem leads_giveUp {notice : Notice} {reason : Surrender ε} :
    Leads (closing (.error reason) reason.attempts)
      (do act (engine.note notice); surrender reason) after broken :=
  (outline.notes _ _ notice).bind fun _ => outline.leads_surrender

/-- A retry waits for its delay, unless that is none. -/
theorem leads_waitToRetry {budget attempt : Nat} {lastError : Option String} {failure : ε} :
    Leads (outline.waiting budget attempt failure)
      (engine.waitToRetry (engine.context attempt lastError) failure)
      (Rested (outline.trying budget (attempt + 1) (some (Classified.message failure)))
        (closing (.error (.cancelled attempt (some failure))) attempt)) broken := by
  unfold waitToRetry
  apply (outline.warns _).bind
  intro _
  split
  · rename_i undelayed
    exact leads_pure (outline.hastens undelayed)
  · rename_i delayed
    exact outline.pauses (Bool.eq_false_iff.mpr delayed)

/-- Attempts lead where their outline says. The induction is on the retries left. -/
theorem leads (budget attempt : Nat) (lastError : Option String) :
    Leads (outline.trying budget attempt lastError) (engine.attemptFrom budget attempt lastError)
      after broken := by
  unfold attemptFrom
  dsimp only
  by_cases spent : UInt32.size ≤ attempt
  · rw [if_pos spent]
    exact leads_throw (outline.overflows spent)
  · rw [if_neg spent]
    apply (outline.attempts budget attempt lastError).bind
    rintro ((failure | value) | _)
    · dsimp only
      by_cases retried : engine.policy.filter.retries (Classified.kind failure) = true
      · rw [if_pos retried]
        cases budget with
        | zero => exact outline.leads_giveUp.imp (outline.exhausts retried) fun _ _ told => told
        | succ budget =>
            apply (outline.looks retried).bind
            rintro (_ | _)
            · apply outline.leads_waitToRetry.bind
              rintro (_ | _)
              · exact leads budget (attempt + 1) _
              · exact outline.leads_surrender
            · exact outline.leads_giveUp
      · rw [if_neg retried]
        have refused := Bool.eq_false_iff.mpr retried
        exact outline.leads_giveUp.imp (outline.refuses refused) fun _ _ told => told
    · exact outline.leads_succeed.imp outline.succeeds fun _ _ told => told
    · exact outline.leads_giveUp.imp outline.drops fun _ _ told => told
termination_by budget

/-- Work leads where the outline of its attempts says. -/
theorem leads_run :
    Leads (outline.trying engine.policy.maxRetries 1 none) engine.run after broken :=
  outline.leads engine.policy.maxRetries 1 none

end ClosingOutline

/-! ## Outlines to which the sample makes no difference -/

/-- What holds between the steps of an engine that comes to a value as in `after`. It may
tell of the retries left and of the number of the attempt, in this order. -/
structure Outline (engine : Engine ω ε κ α) (after : Except (Surrender ε) α → Session ω → Prop)
    (broken : Session ω → Prop) where
  /-- What holds before an attempt that is told of a failure. -/
  trying : Nat → Nat → Option String → Session ω → Prop
  /-- What holds after an attempt that ended so. -/
  answered : Nat → Nat → Raced (Except ε α) → Session ω → Prop
  /-- What holds before the delay after a failure. -/
  waiting : Nat → Nat → ε → Session ω → Prop
  notes : ∀ result notice,
    Leads (after result) (act (engine.note notice)) (fun _ => after result) broken
  leaves : ∀ result sample, Leads (after result) (leave sample) (fun _ => after result) broken
  overflows : ∀ {budget attempt lastError}, UInt32.size ≤ attempt →
    ∀ session, trying budget attempt lastError session → broken session
  attempts : ∀ budget attempt lastError,
    Leads (trying budget attempt lastError)
      (engine.operation (engine.context attempt lastError)) (answered budget attempt) broken
  succeeds : ∀ {budget attempt value} session,
    answered budget attempt (.finished (.ok value)) session → after (.ok value) session
  drops : ∀ {budget attempt} session,
    answered budget attempt .cutOff session → after (.error (.cancelled attempt none)) session
  refuses : ∀ {budget attempt failure},
    engine.policy.filter.retries (Classified.kind failure) = false →
    ∀ session, answered budget attempt (.finished (.error failure)) session →
      after (.error (.notRetryable attempt failure)) session
  exhausts : ∀ {attempt failure}, engine.policy.filter.retries (Classified.kind failure) = true →
    ∀ session, answered 0 attempt (.finished (.error failure)) session →
      after (.error (.exhausted attempt failure)) session
  looks : ∀ {budget attempt failure},
    engine.policy.filter.retries (Classified.kind failure) = true →
    Leads (answered (budget + 1) attempt (.finished (.error failure)))
      (act engine.signal.isTriggered)
      (fun given => bif given then after (.error (.cancelled attempt (some failure)))
        else waiting budget attempt failure) broken
  warns : ∀ {budget attempt failure} notice,
    Leads (waiting budget attempt failure) (act (engine.note notice))
      (fun _ => waiting budget attempt failure) broken
  hastens : ∀ {budget attempt failure}, (engine.policy.strategy.delay attempt).isZero = true →
    ∀ session, waiting budget attempt failure session →
      trying budget (attempt + 1) (some (Classified.message failure)) session
  pauses : ∀ {budget attempt failure}, (engine.policy.strategy.delay attempt).isZero = false →
    Leads (waiting budget attempt failure)
      (act (engine.signal.pause (engine.policy.strategy.delay attempt)))
      (Rested (trying budget (attempt + 1) (some (Classified.message failure)))
        (after (.error (.cancelled attempt (some failure))))) broken

namespace Outline

variable {engine : Engine ω ε κ α} {after : Except (Surrender ε) α → Session ω → Prop}
  (outline : engine.Outline after broken)

/-- What holds of a result holds before its sample is left as well. -/
def closingOutline : engine.ClosingOutline (fun result _ => after result) after broken where
  trying := outline.trying
  answered := outline.answered
  waiting := outline.waiting
  notes result _ := outline.notes result
  leaves result _ := outline.leaves result _
  overflows := outline.overflows
  attempts := outline.attempts
  succeeds := outline.succeeds
  drops := outline.drops
  refuses := outline.refuses
  exhausts := outline.exhausts
  looks := outline.looks
  warns := outline.warns
  hastens := outline.hastens
  pauses := outline.pauses

/-- Work leads where the outline of its attempts says. -/
theorem leads_run :
    Leads (outline.trying engine.policy.maxRetries 1 none) engine.run after broken :=
  outline.closingOutline.leads_run

end Outline

end Engine

end EventRelay.Retry

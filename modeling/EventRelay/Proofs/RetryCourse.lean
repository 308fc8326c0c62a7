import EventRelay.Proofs.Outlines
import Mathlib.Order.Bounds.Basic

/-!
# The course of retried work

Where the shutdown signal is never given, what a run of the engine does is decided by the
outcomes of its attempts. The run ends with the first attempt that succeeds, or fails with
a kind that is not retried, or has no retries left after it; which attempts are made, what
they are told and how long is waited in between follows from the outcomes alone.
-/

namespace EventRelay.Retry

open Run

/-- What the engine does to the world. -/
inductive Deed
  /-- The work was attempted. -/
  | called (context : Context)
  | waited (duration : Duration)
  deriving DecidableEq

namespace Deed

/-- Whether the work was attempted. -/
def isCall : Deed → Bool
  | .called _ => true
  | .waited _ => false

/-- Waiting for a while; to wait for no time at all is not to wait. -/
def wait (duration : Duration) : List Deed :=
  if duration.isZero then [] else [.waited duration]

@[simp]
theorem countP_wait (duration : Duration) : (wait duration).countP isCall = 0 := by
  unfold wait
  split <;> rfl

end Deed

/-- Work whose attempts have the outcomes listed, from one on, whatever they are told. -/
structure Script (ε κ α : Type) where
  policy : Policy κ
  subject : String
  outcomes : Nat → Except ε α

namespace Script

variable {ε κ α : Type} (script : Script ε κ α)

/-- Attempt the work. -/
def attempt (context : Context) : StateM (List Deed) (Raced (Except ε α)) := do
  let calls := (← get).countP Deed.isCall
  modify (· ++ [.called context])
  return .finished (script.outcomes (calls + 1))

/-- The engine that does the work under a signal that is never given. Its world lists what
was done, latest last. -/
def engine : Engine (List Deed) ε κ α where
  policy := script.policy
  subject := script.subject
  signal :=
    { isTriggered := pure false
      pause := fun duration => do
        modify (· ++ [.waited duration])
        return .elapsed }
  note _ := pure ()
  operation context := Run.act (script.attempt context)

theorem policy_engine : script.engine.policy = script.policy := rfl

theorem attempt_apply (context : Context) (deeds : List Deed) :
    script.attempt context deeds =
      (.finished (script.outcomes (deeds.countP Deed.isCall + 1)), deeds ++ [.called context]) :=
  rfl

/-! ## What the outcomes decide -/

section Outcomes

variable [Classified ε κ]

/-- What the attempt with a number is told of the failure before it. -/
def lastError : Nat → Option String
  | 0 | 1 => none
  | attempt + 2 =>
      match script.outcomes (attempt + 1) with
      | .ok _ => none
      | .error failure => some (Classified.message failure)

/-- The call of the work for the attempt with a number. -/
def call (attempt : Nat) : Deed :=
  .called (script.engine.context attempt (script.lastError attempt))

/-- What is done up to the attempt after so many, all of them made in vain. -/
def approach : Nat → List Deed
  | 0 => []
  | attempts + 1 =>
      approach attempts ++ script.call (attempts + 1) ::
        Deed.wait (script.policy.strategy.delay (attempts + 1))

/-- What is done if the work ends with the attempt with this number. -/
def course (attempt : Nat) : List Deed :=
  script.approach (attempt - 1) ++ [script.call attempt]

theorem countP_approach (attempts : Nat) :
    (script.approach attempts).countP Deed.isCall = attempts := by
  induction attempts with
  | zero => rfl
  | succ attempts ih =>
      unfold approach
      rw [List.countP_append, ih, List.countP_cons_of_pos (by rfl), Deed.countP_wait]

theorem approach_succ (attempts : Nat) :
    script.approach (attempts + 1) = script.course (attempts + 1) ++
      Deed.wait (script.policy.strategy.delay (attempts + 1)) := by
  simp [approach, course]

variable [DecidableEq κ]

/-- The work ends with the attempt with this number. -/
def Ends (attempt : Nat) : Prop :=
  (∃ value, script.outcomes attempt = .ok value) ∨
    (∃ failure, script.outcomes attempt = .error failure ∧
      script.policy.filter.retries (Classified.kind failure) = false) ∨
      attempt = script.policy.maxRetries + 1

/-- What the work comes to if it ends with the attempt with this number. -/
def answer (attempt : Nat) : Except (Surrender ε) α :=
  match script.outcomes attempt with
  | .ok value => .ok value
  | .error failure =>
      if script.policy.filter.retries (Classified.kind failure) then
        .error (.exhausted attempt failure)
      else .error (.notRetryable attempt failure)

variable {script}

theorem isLeast_of_ends {attempts : Nat} (ends : script.Ends (attempts + 1))
    (unended : ∀ earlier, 1 ≤ earlier → earlier ≤ attempts → ¬script.Ends earlier) :
    IsLeast {attempt | 1 ≤ attempt ∧ script.Ends attempt} (attempts + 1) := by
  refine ⟨⟨Nat.succ_pos attempts, ends⟩, ?_⟩
  rintro attempt ⟨first, ended⟩
  rcases Nat.lt_or_ge attempts attempt with later | before
  · exact later
  · exact absurd ended (unended attempt first before)

/-- An attempt that fails with a kind that is retried, and with retries left, is not the
last. -/
theorem not_ends {attempt : Nat} {failure : ε} (found : script.outcomes attempt = .error failure)
    (retried : script.policy.filter.retries (Classified.kind failure) = true)
    (left : attempt ≤ script.policy.maxRetries) : ¬script.Ends attempt := by
  rintro (⟨value, succeeded⟩ | ⟨other, failed, refused⟩ | rfl)
  · rw [found] at succeeded
    contradiction
  · cases found.symm.trans failed
    rw [retried] at refused
    contradiction
  · omega

end Outcomes

/-! ## What the engine does -/

/-- This is what was done. -/
def Did (deeds : List Deed) (session : Session (List Deed)) : Prop :=
  session.world = deeds

variable {script} {broken : Session (List Deed) → Prop} [Classified ε κ]

theorem operation_did (attempts : Nat) :
    Leads (Did (script.approach attempts))
      (script.engine.operation
        (script.engine.context (attempts + 1) (script.lastError (attempts + 1))))
      (fun outcome session => outcome = .finished (script.outcomes (attempts + 1)) ∧
        Did (script.course (attempts + 1)) session) broken := by
  change Leads _ (act (script.attempt _)) _ _
  apply leads_act
  intro session did
  rw [attempt_apply, show session.world = script.approach attempts from did, countP_approach]
  exact ⟨rfl, rfl⟩

variable [DecidableEq κ]

/-- The work has come to this result with the first attempt that could be the last. -/
def Finished (script : Script ε κ α) (result : Except (Surrender ε) α)
    (session : Session (List Deed)) : Prop :=
  ∃ attempt, IsLeast {attempt | 1 ≤ attempt ∧ script.Ends attempt} attempt ∧
    result = script.answer attempt ∧ Did (script.course attempt) session

/-- So many attempts were made and none could be the last; so many retries are left after
the next. -/
structure Unended (script : Script ε κ α) (budget attempts : Nat) : Prop where
  left : attempts + budget = script.policy.maxRetries
  unended : ∀ earlier, 1 ≤ earlier → earlier ≤ attempts → ¬script.Ends earlier

variable {budget attempts : Nat}

/-- After an attempt that failed with a kind that is retried, with retries left, the work
goes on. -/
theorem Unended.succ {failure : ε} (ahead : script.Unended (budget + 1) attempts)
    (found : script.outcomes (attempts + 1) = .error failure)
    (retried : script.policy.filter.retries (Classified.kind failure) = true) :
    script.Unended budget (attempts + 1) where
  left := by
    have left := ahead.left
    omega
  unended := by
    intro earlier first reached
    rcases Nat.le_or_eq_of_le_succ reached with before | rfl
    · exact ahead.unended earlier first before
    · have left := ahead.left
      exact not_ends found retried (by omega)

theorem Unended.finished {result : Except (Surrender ε) α} {session : Session (List Deed)}
    (ahead : script.Unended budget attempts) (ends : script.Ends (attempts + 1))
    (answered : script.answer (attempts + 1) = result)
    (did : Did (script.course (attempts + 1)) session) : script.Finished result session :=
  ⟨attempts + 1, isLeast_of_ends ends ahead.unended, answered.symm, did⟩

/-- Wherever the work goes on, it ends with the first attempt that can be the last. -/
def outline (below : script.policy.maxRetries + 1 < UInt32.size) :
    script.engine.Outline script.Finished (fun _ => False) where
  trying budget attempt lastError session :=
    ∃ attempts, attempt = attempts + 1 ∧ lastError = script.lastError attempt ∧
      script.Unended budget attempts ∧ Did (script.approach attempts) session
  answered budget attempt outcome session :=
    ∃ attempts, attempt = attempts + 1 ∧ outcome = .finished (script.outcomes attempt) ∧
      script.Unended budget attempts ∧ Did (script.course attempt) session
  waiting budget attempt failure session :=
    ∃ attempts, attempt = attempts + 1 ∧ script.outcomes attempt = .error failure ∧
      script.Unended budget attempt ∧ Did (script.course attempt) session
  notes _ _ := leads_act fun _ finished => finished
  leaves _ _ := leads_leave fun _ finished => finished
  overflows := by
    rintro budget attempt lastError spent session ⟨attempts, rfl, _, ahead, _⟩
    have left := ahead.left
    omega
  attempts := by
    intro budget attempt lastError
    apply leads_exists
    intro attempts
    apply leads_and
    rintro rfl
    apply leads_and
    rintro rfl
    apply leads_and
    intro ahead
    apply (operation_did attempts).imp (fun _ did => did)
    rintro outcome session ⟨found, did⟩
    exact ⟨attempts, rfl, found, ahead, did⟩
  succeeds := by
    rintro budget attempt value session ⟨attempts, rfl, found, ahead, did⟩
    injection found with found
    exact ahead.finished (.inl ⟨value, found.symm⟩) (by simp [answer, ← found]) did
  drops := by
    rintro budget attempt session ⟨attempts, rfl, found, _⟩
    contradiction
  refuses := by
    rintro budget attempt failure refused session ⟨attempts, rfl, found, ahead, did⟩
    injection found with found
    rw [policy_engine] at refused
    exact ahead.finished (.inr (.inl ⟨failure, found.symm, refused⟩))
      (by simp [answer, ← found, refused]) did
  exhausts := by
    rintro attempt failure retried session ⟨attempts, rfl, found, ahead, did⟩
    injection found with found
    rw [policy_engine] at retried
    exact ahead.finished (.inr (.inr (congrArg (· + 1) ahead.left)))
      (by simp [answer, ← found, retried]) did
  looks := by
    intro budget attempt failure retried
    apply leads_act
    rintro session ⟨attempts, rfl, found, ahead, did⟩
    injection found with found
    exact ⟨attempts, rfl, found.symm, ahead.succ found.symm retried, did⟩
  warns _ := leads_act fun _ waiting => waiting
  hastens := by
    rintro budget attempt failure undelayed session ⟨attempts, rfl, found, ahead, did⟩
    refine ⟨attempts + 1, rfl, by simp [lastError, found], ahead, ?_⟩
    rw [policy_engine] at undelayed
    rw [approach_succ, Deed.wait, if_pos undelayed, List.append_nil]
    exact did
  pauses := by
    intro budget attempt failure delayed
    apply leads_act
    rintro session ⟨attempts, rfl, found, ahead, did⟩
    refine ⟨attempts + 1, rfl, by simp [lastError, found], ahead, ?_⟩
    rw [policy_engine] at delayed
    rw [approach_succ, Deed.wait, if_neg (Bool.eq_false_iff.mp delayed)]
    exact congrArg (· ++ _) did

theorem run_finished (below : script.policy.limit.toNat < UInt32.size - 1) :
    Leads (Did []) script.engine.run script.Finished (fun _ => False) := by
  have most : script.policy.maxRetries ≤ script.policy.limit.toNat := by
    unfold Policy.maxRetries
    split <;> omega
  apply (outline (by omega)).leads_run.imp _ fun _ _ finished => finished
  intro session did
  exact ⟨0, rfl, rfl, ⟨Nat.zero_add _, by omega⟩, did⟩

/-- A run under a signal that is never given ends with the first attempt that succeeds, or
fails with a kind that is not retried, or has no retries left; it comes to what that attempt
came to, after the calls and waits up to that attempt. -/
theorem run_course (script : Script ε κ α) (below : script.policy.limit.toNat < UInt32.size - 1)
    (session : Session (List Deed)) :
    ∃ attempt, IsLeast {attempt | 1 ≤ attempt ∧ script.Ends attempt} attempt ∧
      (script.engine.run { session with world := [] }).1 = .ok (script.answer attempt) ∧
        (script.engine.run { session with world := [] }).2.world = script.course attempt := by
  have led := run_finished below { session with world := [] } rfl
  revert led
  rcases script.engine.run { session with world := [] } with ⟨_ | result, later⟩
  · exact False.elim
  · rintro ⟨attempt, least, rfl, did⟩
    exact ⟨attempt, least, rfl, did⟩

/-- A failure that is retried, and after a wait one that is not. -/
theorem run_course_refused :
    let passes : Failure := .publish "orders" .timeout "slow"
    let stays : Failure := .publish "orders" .validation "refused"
    let interval := Duration.ofMillis 10
    let script : Script Failure FailureKind Unit :=
      { policy := ⟨.intervals [interval], 1, { ignore := [.validation] }⟩
        subject := "outbox[0]@7"
        outcomes := fun attempt => .error (if attempt = 1 then passes else stays) }
    let done := script.engine.run { world := [] }
    script.policy.limit.toNat < UInt32.size - 1 ∧
      done.1 = .ok (.error (.notRetryable 2 stays)) ∧
        done.2.world =
          [.called ⟨"outbox[0]@7", 1, 1, "interval", none⟩, .waited interval,
            .called ⟨"outbox[0]@7", 2, 1, "interval", some passes.message⟩] := by
  intro passes stays interval script done
  have below : script.policy.limit.toNat < UInt32.size - 1 := by decide
  rcases run_course script below { world := [] } with ⟨attempt, least, result, course⟩
  have second : IsLeast {attempt | 1 ≤ attempt ∧ script.Ends attempt} 2 := by
    apply isLeast_of_ends (.inr (.inl ⟨stays, rfl, by decide⟩))
    intro earlier first reached
    obtain rfl := Nat.le_antisymm reached first
    exact not_ends rfl (by decide) (by decide)
  obtain rfl := least.unique second
  exact ⟨below, result, course⟩

end Script

end EventRelay.Retry

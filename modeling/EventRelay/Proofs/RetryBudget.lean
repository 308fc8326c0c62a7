import EventRelay.Proofs.RetryCourse
import EventRelay.Settings.Basic

/-!
# The budget of retries

Where the shutdown signal is never given and every attempt fails with a kind that is retried,
work is attempted once more than its limit says. The limit may be any number of thirty-two
bits and attempts are counted in as many, so for the greatest limit there is one attempt that
cannot be counted, and the work stops at an overflow in front of it.
-/

namespace EventRelay.Retry.Script

open Run

variable {ε κ α : Type} [Classified ε κ] {script : Script ε κ α}
  {attempts budget : Nat} {failure : ε} {session : Session (List Deed)}

/-! ## One attempt in vain -/

theorem operation_apply (did : Did (script.approach attempts) session) :
    script.engine.operation
        (script.engine.context (attempts + 1) (script.lastError (attempts + 1))) session =
      (.ok (.finished (script.outcomes (attempts + 1))),
        { session with world := script.course (attempts + 1) }) := by
  change act (script.attempt _) session = _
  rw [act_apply, attempt_apply, show session.world = script.approach attempts from did,
    countP_approach]
  rfl

theorem waitToRetry_apply (context : Context) :
    script.engine.waitToRetry context failure session =
      (.ok .elapsed, { session with
        world := session.world ++ Deed.wait (script.policy.strategy.delay context.attempt) }) := by
  unfold Engine.waitToRetry
  rw [policy_engine, Deed.wait]
  change (if _ then pure Pause.elapsed else _ : Run _ _) session = _
  split
  · rw [List.append_nil]
    rfl
  · rfl

theorem countP_course (attempts : Nat) :
    (script.course (attempts + 1)).countP Deed.isCall = attempts + 1 := by
  rw [course, List.countP_append, Nat.add_sub_cancel, countP_approach]
  rfl

variable [DecidableEq κ]

/-- An attempt that fails with a kind that is retried is followed by the next, as long as
there are retries. -/
theorem attemptFrom_succ (countable : attempts + 1 < UInt32.size)
    (found : script.outcomes (attempts + 1) = .error failure)
    (retried : script.policy.filter.retries (Classified.kind failure) = true)
    (did : Did (script.approach attempts) session) :
    script.engine.attemptFrom (budget + 1) (attempts + 1) (script.lastError (attempts + 1))
        session =
      script.engine.attemptFrom budget (attempts + 2) (script.lastError (attempts + 2))
        { session with world := script.approach (attempts + 1) } := by
  have told : script.lastError (attempts + 2) = some (Classified.message failure) := by
    simp [lastError, found]
  rw [Engine.attemptFrom, if_neg (by omega)]
  change (script.engine.operation _ >>= _) session = _
  rw [bind_apply, operation_apply did, found, told, approach_succ]
  dsimp only
  rw [policy_engine, if_pos retried, bind_apply]
  -- The look at the signal finds nothing, so a wait is next.
  change (script.engine.waitToRetry _ failure >>= _) _ = _
  rw [bind_apply, waitToRetry_apply]
  rfl

/-- Without retries it is the last. -/
theorem attemptFrom_zero (countable : attempts + 1 < UInt32.size)
    (found : script.outcomes (attempts + 1) = .error failure)
    (retried : script.policy.filter.retries (Classified.kind failure) = true)
    (did : Did (script.approach attempts) session) :
    script.engine.attemptFrom 0 (attempts + 1) (script.lastError (attempts + 1)) session =
      (.ok (.error (.exhausted (attempts + 1) failure)),
        { session with
          world := script.course (attempts + 1)
          samples := ⟨.exhausted, attempts + 1⟩ :: session.samples }) := by
  rw [Engine.attemptFrom, if_neg (by omega)]
  change (script.engine.operation _ >>= _) session = _
  rw [bind_apply, operation_apply did, found]
  dsimp only
  rw [policy_engine, if_pos retried]
  rfl

/-- An attempt that cannot be counted is not made. -/
theorem attemptFrom_size (lastError : Option String) :
    script.engine.attemptFrom budget UInt32.size lastError session =
      (.error .addition, session) := by
  rw [Engine.attemptFrom, if_pos (Nat.le_refl _)]
  rfl

/-! ## Nothing but attempts in vain -/

/-- Every attempt fails, with a kind that is retried. -/
def FailsAlways (script : Script ε κ α) : Prop :=
  ∀ attempt, ∃ failure, script.outcomes attempt = .error failure ∧
    script.policy.filter.retries (Classified.kind failure) = true

/-- After any number of attempts that the limit allows, the work is at the next. The induction
is on the attempts made; each of them can be counted because the retries can. -/
theorem run_of_failsAlways (fails : script.FailsAlways) (session : Session (List Deed))
    (left : attempts ≤ script.policy.maxRetries) :
    script.engine.run { session with world := [] } =
      script.engine.attemptFrom (script.policy.maxRetries - attempts) (attempts + 1)
        (script.lastError (attempts + 1)) { session with world := script.approach attempts } := by
  induction attempts with
  | zero => rfl
  | succ attempts ih =>
      have countable := script.policy.maxRetries_lt
      obtain ⟨failure, found, retried⟩ := fails (attempts + 1)
      have did : Did (script.approach attempts)
          { session with world := script.approach attempts } := rfl
      have budget : script.policy.maxRetries - attempts =
          script.policy.maxRetries - (attempts + 1) + 1 := by omega
      rw [ih (by omega), budget, attemptFrom_succ (by omega) found retried did]

/-- If the attempt after all retries can be counted, the work is exhausted with it. -/
theorem run_of_countable (fails : script.FailsAlways) (session : Session (List Deed))
    (countable : script.policy.maxRetries + 1 < UInt32.size)
    (found : script.outcomes (script.policy.maxRetries + 1) = .error failure)
    (retried : script.policy.filter.retries (Classified.kind failure) = true) :
    script.engine.run { session with world := [] } =
      (.ok (.error (.exhausted (script.policy.maxRetries + 1) failure)),
        { session with
          world := script.course (script.policy.maxRetries + 1)
          samples := ⟨.exhausted, script.policy.maxRetries + 1⟩ :: session.samples }) := by
  have did : Did (script.approach script.policy.maxRetries)
      { session with world := script.approach script.policy.maxRetries } := rfl
  rw [run_of_failsAlways fails session (Nat.le_refl _), Nat.sub_self,
    attemptFrom_zero countable found retried did]

/-- If it cannot be counted, the work stops at the overflow before it. -/
theorem run_of_full (fails : script.FailsAlways) (session : Session (List Deed))
    (full : script.policy.maxRetries + 1 = UInt32.size) :
    script.engine.run { session with world := [] } =
      (.error .addition, { session with world := script.approach script.policy.maxRetries }) := by
  rw [run_of_failsAlways fails session (Nat.le_refl _), full, attemptFrom_size]

omit [Classified ε κ] [DecidableEq κ] in
/-- A strategy that retries at all makes use of the limit. -/
theorem maxRetries_eq_limit (retries : script.policy.strategy ≠ .never) :
    script.policy.maxRetries = script.policy.limit.toNat := by
  unfold Policy.maxRetries
  split
  · contradiction
  · rfl

/-- Work that always fails with a kind that is retried is attempted once more than its limit
says, and is exhausted then, if and only if so many attempts can be counted. Settings are
accepted whatever the limit is; with the one limit for which they cannot be counted, the work
stops at an overflow after as many attempts as the limit says. -/
theorem exhausted_iff_countable (script : Script ε κ α)
    (retries : script.policy.strategy ≠ .never) (fails : script.FailsAlways)
    (session : Session (List Deed)) :
    let limit := script.policy.limit.toNat
    let done := script.engine.run { session with world := [] }
    let calls := done.2.world.countP Deed.isCall
    (∀ settings : Settings,
        { settings with retryLimit := script.policy.limit }.validate = settings.validate) ∧
      ((∃ failure, script.outcomes (limit + 1) = .error failure ∧
          done.1 = .ok (.error (.exhausted (limit + 1) failure)) ∧ calls = limit + 1) ↔
        limit + 1 < UInt32.size) ∧
      (limit + 1 = UInt32.size → done.1 = .error .addition ∧ calls = limit) := by
  intro limit done calls
  have most : script.policy.maxRetries = limit := maxRetries_eq_limit retries
  obtain ⟨failure, found, retried⟩ := fails (limit + 1)
  rw [← most] at found ⊢
  have overflows (full : script.policy.maxRetries + 1 = UInt32.size) :
      done.1 = .error .addition ∧ calls = script.policy.maxRetries := by
    have ran : done = _ := run_of_full fails session full
    exact ⟨congrArg Prod.fst ran,
      (congrArg (fun done => done.2.world.countP Deed.isCall) ran).trans (countP_approach _ _)⟩
  refine ⟨fun _ => rfl, ⟨?_, ?_⟩, overflows⟩
  · rintro ⟨_, _, exhausted, _⟩
    have below := script.policy.maxRetries_lt
    by_contra uncountable
    rw [(overflows (by omega)).1] at exhausted
    contradiction
  · intro countable
    have ran : done = _ := run_of_countable fails session countable found retried
    exact ⟨failure, found, congrArg Prod.fst ran,
      (congrArg (fun done => done.2.world.countP Deed.isCall) ran).trans (countP_course _)⟩

/-- The greatest limit, which no work that always fails comes to. -/
theorem exhausted_iff_countable_greatest :
    let late : Failure := .publish "orders" .timeout "slow"
    let script : Script Failure FailureKind Unit :=
      { policy := ⟨.immediate, 4294967295, {}⟩
        subject := "outbox[0]@7"
        outcomes := fun _ => .error late }
    let done := script.engine.run { world := [] }
    script.policy.strategy ≠ .never ∧ script.FailsAlways ∧
      done.1 = .error .addition ∧ done.2.world.countP Deed.isCall = 4294967295 := by
  intro late script done
  have retries : script.policy.strategy ≠ .never := nofun
  have fails : script.FailsAlways := fun _ => ⟨late, rfl, rfl⟩
  exact ⟨retries, fails, (exhausted_iff_countable script retries fails { world := [] }).2.2 rfl⟩

end EventRelay.Retry.Script

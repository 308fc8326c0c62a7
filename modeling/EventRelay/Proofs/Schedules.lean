import EventRelay.Proofs.Completion
import EventRelay.Proofs.SettingUp
import EventRelay.Proofs.Transcripts
import EventRelay.Proofs.WordDurations

/-!
# Waits by a schedule

A list of intervals is waited in turn, and the last of them repeats. Increments grow by a step
each time, until they come to the longest duration and stay there. What an engine waits in a run
is what its strategy has for the retries it makes, however the run ends.
-/

namespace EventRelay.Retry

/-! ## Closed forms -/

namespace Strategy

variable {schedule : List Duration} {initial step : Duration} {retry : Nat}

/-- The intervals are taken in turn, and the last for every retry after them. -/
theorem getElem?_intervals (scheduled : schedule ≠ []) (first : 1 ≤ retry) :
    schedule[min retry schedule.length - 1]? = some ((intervals schedule).delay retry) := by
  have filled := List.length_pos_iff.mpr scheduled
  change _ = some ((schedule[retry - 1]?.or schedule.getLast?).getD Duration.zero)
  rcases Nat.lt_or_ge (retry - 1) schedule.length with within | beyond
  · have listed : schedule[retry - 1]? = some schedule[retry - 1] := List.getElem?_eq_getElem within
    rw [Nat.min_eq_left (by omega), listed]
    rfl
  · rw [Nat.min_eq_right (by omega), List.getElem?_eq_none beyond, List.getLast?_eq_getElem?,
      List.getElem?_eq_getElem (by omega)]
    rfl

theorem delay_intervals_nil (retry : Nat) : (intervals []).delay retry = Duration.zero := by
  simp [delay]

/-- To stop at the longest duration twice is to stop at it once. -/
theorem nanos_incremental (initial step : Duration) (retry : Nat) :
    ((incremental initial step).delay retry).nanos =
      min longestNanos (initial.nanos + (retry - 1) * step.nanos) := by
  change (initial.add (step.scale (retry - 1))).nanos = _
  rw [Duration.nanos_add, Duration.nanos_scale, Nat.mul_comm]
  omega

theorem incremental_le_incremental (initial step : Duration) {earlier later : Nat}
    (ordered : earlier ≤ later) :
    ((incremental initial step).delay earlier).nanos ≤
      ((incremental initial step).delay later).nanos := by
  have steps : (earlier - 1) * step.nanos ≤ (later - 1) * step.nanos :=
    Nat.mul_le_mul_right _ (Nat.sub_le_sub_right ordered 1)
  rw [nanos_incremental, nanos_incremental]
  omega

/-- No wait is shorter than the first. -/
theorem initial_le_incremental (initial step : Duration) (retry : Nat) :
    initial.nanos ≤ ((incremental initial step).delay retry).nanos := by
  have most := initial.nanos_le
  rw [nanos_incremental]
  omega

/-- What is waited before so many retries; to wait for no time at all is not to wait. -/
def waits (strategy : Strategy) (retries : Nat) : List Duration :=
  ((List.range retries).map fun earlier => strategy.delay (earlier + 1)).filter fun wait =>
    !wait.isZero

theorem waits_succ (strategy : Strategy) (retries : Nat) :
    strategy.waits (retries + 1) = strategy.waits retries ++
      if (strategy.delay (retries + 1)).isZero then [] else [strategy.delay (retries + 1)] := by
  unfold waits
  rw [List.range_succ, List.map_append, List.filter_append]
  congr 1
  cases undelayed : (strategy.delay (retries + 1)).isZero <;> simp [undelayed]

theorem exists_delay_of_mem_waits {strategy : Strategy} {retries : Nat} {wait : Duration}
    (waited : wait ∈ strategy.waits retries) : ∃ retry, wait = strategy.delay retry := by
  obtain ⟨listed, -⟩ := List.mem_filter.mp waited
  obtain ⟨earlier, -, rfl⟩ := List.mem_map.mp listed
  exact ⟨earlier + 1, rfl⟩

end Strategy

/-! ## The waits of a run -/

namespace Engine

open Run Transcribed

variable {ω ε κ α : Type} (engine : Engine ω ε κ α)

/-- The same work, with every wait taken down. -/
def timed : Engine (Transcribed Duration ω) ε κ α where
  policy := engine.policy
  subject := engine.subject
  signal :=
    { isTriggered := lift engine.signal.isTriggered
      pause := fun duration => ask duration (engine.signal.pause duration) }
  note notice := lift (engine.note notice)
  operation context := within (engine.operation context)

theorem like_timed : engine.timed.Like Of engine where
  policy := rfl
  subject := rfl
  signal := ⟨answers_lift _, fun duration => answers_ask duration _⟩
  note _ := answers_lift _
  operation _ := matches_within _

/-- Every attempt but the first is a retry that was waited for, and where the signal was given a
wait may have been broken off. -/
def Counts (retries : Nat) : Except (Surrender ε) α → Prop
  | .ok _ => True
  | .error reason => retries + 1 = reason.attempts ∨
      reason.isCancelled = true ∧ retries = reason.attempts

/-- What was waited is what the strategy has for so many retries, no more than there may be. -/
def Waited (fits : Nat → Prop) (transcript : List Duration) : Prop :=
  ∃ retries ≤ engine.policy.maxRetries, fits retries ∧
    transcript = engine.policy.strategy.waits retries

/-- The attempt with a number comes after the waits for the retries before it. -/
def WaitedUpTo (budget attempt : Nat) (transcript : List Duration) : Prop :=
  ∃ retries, attempt = retries + 1 ∧ retries + budget = engine.policy.maxRetries ∧
    transcript = engine.policy.strategy.waits retries

section

variable {engine} {budget attempt : Nat} {fits : Nat → Prop} {transcript : List Duration}

theorem WaitedUpTo.waited (upTo : engine.WaitedUpTo budget attempt transcript)
    (counts : ∀ retries, attempt = retries + 1 → fits retries) :
    engine.Waited fits transcript := by
  obtain ⟨retries, made, left, waits⟩ := upTo
  exact ⟨retries, by omega, counts retries made, waits⟩

theorem WaitedUpTo.hastened (upTo : engine.WaitedUpTo (budget + 1) attempt transcript)
    (undelayed : (engine.policy.strategy.delay attempt).isZero = true) :
    engine.WaitedUpTo budget (attempt + 1) transcript := by
  obtain ⟨retries, rfl, left, rfl⟩ := upTo
  refine ⟨retries + 1, rfl, by omega, ?_⟩
  rw [Strategy.waits_succ, if_pos undelayed, List.append_nil]

/-- With one retry fewer left, one wait more was made. -/
theorem WaitedUpTo.paused (upTo : engine.WaitedUpTo (budget + 1) attempt transcript)
    (delayed : (engine.policy.strategy.delay attempt).isZero = false) :
    engine.WaitedUpTo budget (attempt + 1)
      (transcript ++ [engine.policy.strategy.delay attempt]) := by
  obtain ⟨retries, rfl, left, rfl⟩ := upTo
  refine ⟨retries + 1, rfl, by omega, ?_⟩
  rw [Strategy.waits_succ, if_neg (Bool.eq_false_iff.mp delayed)]

end

variable [Classified ε κ]

/-- To wait is no overflow. -/
theorem completes_waitToRetry (context : Context) (failure : ε) :
    Completes (engine.waitToRetry context failure) := by
  unfold waitToRetry
  apply completes_act_bind
  intro _
  split
  · exact completes_pure _
  · exact completes_act _

variable [DecidableEq κ]

/-- What an engine waits in a run. -/
def waits (session : Session ω) : List Duration :=
  (engine.timed.run (start session)).2.world.transcript

/-- An engine comes to what it comes to where its waits are taken down. -/
theorem run_eq_timed (session : Session ω) :
    engine.run session =
      ((engine.timed.run (start session)).1, forget (engine.timed.run (start session)).2) :=
  eq_of_matches engine.like_timed.run session

/-- Each retry that is made was waited for, in a run that ends and in one that overflows. -/
def waiting (engine : Engine ω ε κ α) :
    engine.timed.Outline (fun result => Holds (engine.Waited fun retries => Counts retries result))
      (Holds (engine.Waited fun _ => True)) where
  trying budget attempt _ := Holds (engine.WaitedUpTo budget attempt)
  answered budget attempt _ := Holds (engine.WaitedUpTo budget attempt)
  waiting budget attempt _ := Holds (engine.WaitedUpTo (budget + 1) attempt)
  notes _ _ := leads_lift _
  leaves _ _ := Transcribed.leads_leave _
  overflows _ _ upTo := upTo.waited fun _ _ => trivial
  attempts _ _ _ := (leads_within _).mono fun _ upTo => upTo.waited fun _ _ => trivial
  succeeds _ upTo := upTo.waited fun _ _ => trivial
  drops _ upTo := upTo.waited fun _ made => .inl made.symm
  refuses _ _ upTo := upTo.waited fun _ made => .inl made.symm
  exhausts _ _ upTo := upTo.waited fun _ made => .inl made.symm
  looks _ := by
    apply (leads_lift _).imp (fun _ upTo => upTo)
    rintro (_ | _) session upTo
    · exact upTo
    · exact upTo.waited fun _ made => .inl made.symm
  warns _ := leads_lift _
  hastens undelayed _ upTo := upTo.hastened undelayed
  pauses delayed := by
    apply (leads_ask _ fun _ upTo => WaitedUpTo.paused upTo delayed).imp (fun _ upTo => upTo)
    rintro (_ | _) session upTo
    · exact upTo
    · exact upTo.waited fun _ made => .inr ⟨rfl, (Nat.succ.inj made).symm⟩

/-- Whatever is answered, and whenever the signal is given, an engine waits what its strategy has
for the retries that it makes. -/
theorem waited_run (engine : Engine ω ε κ α) (session : Session ω) :
    ∃ retries ≤ engine.policy.maxRetries,
      engine.waits session = engine.policy.strategy.waits retries ∧
        ∀ result, (engine.run session).1 = .ok result → Counts retries result := by
  have led := (waiting engine).leads_run (start session) ⟨0, rfl, Nat.zero_add _, rfl⟩
  rw [engine.run_eq_timed, waits]
  revert led
  rcases engine.timed.run (start session) with ⟨overflow | result, later⟩
  · rintro ⟨retries, most, -, waits⟩
    exact ⟨retries, most, waits, nofun⟩
  · rintro ⟨retries, most, counts, waits⟩
    refine ⟨retries, most, waits, ?_⟩
    rintro _ ⟨⟩
    exact counts

end Engine

end EventRelay.Retry

namespace EventRelay.Settings

open Retry

variable {settings : Settings}

/-- The wait before the first retry that increments are set to begin with. -/
def firstWait (settings : Settings) : Duration :=
  Duration.ofMillis settings.incrementalInitialMillis

theorem firstWait_le (chosen : settings.retryStrategy = .incremental) {retries : Nat}
    {wait : Duration} (waited : wait ∈ settings.strategy.waits retries) :
    settings.firstWait.nanos ≤ wait.nanos := by
  obtain ⟨retry, rfl⟩ := Strategy.exists_delay_of_mem_waits waited
  rw [strategy, chosen]
  exact Strategy.initial_le_incremental _ _ retry

/-- In a run of an engine no wait is an overflow, and what is waited, taken down without changing
the run, is what settings have for the retries that are made; increments never wait less than they
are set to begin with. -/
structure WaitsIn {ω ε α : Type} [Classified ε FailureKind] (settings : Settings)
    (engine : Engine ω ε FailureKind α) (session : Session ω) : Prop where
  completes : ∀ context failure, Run.Completes (engine.waitToRetry context failure)
  untouched : engine.run session = ((engine.timed.run (Transcribed.start session)).1,
    Transcribed.forget (engine.timed.run (Transcribed.start session)).2)
  waited : ∃ retries ≤ settings.retryLimit.toNat,
    engine.waits session = settings.strategy.waits retries ∧
      ∀ result, (engine.run session).1 = .ok result → Engine.Counts retries result
  least : settings.retryStrategy = .incremental →
    ∀ wait ∈ engine.waits session, settings.firstWait.nanos ≤ wait.nanos

/-- An engine with the policy that is set waits as is set, unless nothing is to be retried. -/
theorem waitsIn_of_retryPolicy {ω ε α : Type} [Classified ε FailureKind]
    {engine : Engine ω ε FailureKind α} (made : settings.retryPolicy = .ok engine.policy)
    (retried : settings.retryStrategy ≠ .never) (session : Session ω) :
    settings.WaitsIn engine session := by
  obtain ⟨retries, most, waits, counts⟩ := engine.waited_run session
  rw [strategy_of_retryPolicy made] at waits
  rw [maxRetries_of_retryPolicy made, if_neg retried] at most
  refine ⟨engine.completes_waitToRetry, engine.run_eq_timed session,
    ⟨retries, most, waits, counts⟩, ?_⟩
  intro incremental wait waited
  rw [waits] at waited
  exact firstWait_le incremental waited

/-- Intervals are waited in turn and the last repeats, and no interval is no wait. Increments
come to the exact sum, or to the longest duration where that is too long, on words as well, and
never get shorter. Settings that are accepted and choose either make a policy under which every
engine waits as is set. -/
theorem schedules_in_closed_form {ω ε α : Type} [Classified ε FailureKind] :
    (∀ schedule retry, schedule ≠ [] → 1 ≤ retry → schedule[min retry schedule.length - 1]? =
      some ((Strategy.intervals schedule).delay retry)) ∧
    (∀ retry, (Strategy.intervals []).delay retry = Duration.zero) ∧
    (∀ initial step retry, ((Strategy.incremental initial step).delay retry).nanos =
      min longestNanos (initial.nanos + (retry - 1) * step.nanos)) ∧
    (∀ (initial step : Duration) (retry : UInt32), ∃ wait,
      initial.words.increment step.words retry = .ok wait ∧
        wait.whole = (Strategy.incremental initial step).delay retry.toNat) ∧
    (∀ initial step earlier later, earlier ≤ later →
      ((Strategy.incremental initial step).delay earlier).nanos ≤
        ((Strategy.incremental initial step).delay later).nanos) ∧
    ∀ settings : Settings, settings.validate = .ok () →
      settings.retryStrategy = .interval ∨ settings.retryStrategy = .incremental →
      ∃ policy, settings.retryPolicy = .ok policy ∧
        ∀ (engine : Engine ω ε FailureKind α) (session : Session ω), engine.policy = policy →
          settings.WaitsIn engine session := by
  refine ⟨fun _ _ => Strategy.getElem?_intervals, Strategy.delay_intervals_nil,
    Strategy.nanos_incremental, Duration.Words.exists_increment,
    fun initial step _ _ => Strategy.incremental_le_incremental initial step, ?_⟩
  intro settings accepted chosen
  obtain ⟨policy, made⟩ := exists_retryPolicy accepted
  refine ⟨policy, made, fun engine session held => ?_⟩
  subst held
  have retried : settings.retryStrategy ≠ .never := by
    rintro never
    rw [never] at chosen
    exact chosen.elim nofun nofun
  exact waitsIn_of_retryPolicy made retried session

theorem schedules_in_closed_form_incremental :
    let settings : Settings :=
      { retryStrategy := .incremental, retryLimit := 3, incrementalInitialMillis := 250
        incrementalStepMillis := 50 }
    settings.validate = .ok () ∧ settings.retryStrategy = .incremental ∧
      ∃ policy, settings.retryPolicy = .ok policy ∧
        let engine : Engine Unit Failure FailureKind Unit :=
          { policy
            subject := "outbox[0]@7"
            signal := { isTriggered := pure false, pause := fun _ => pure .elapsed }
            note := fun _ => pure ()
            operation := fun _ => pure (.finished (.error (.publish "orders" .timeout "slow"))) }
        let waits := engine.waits { world := () }
        waits = [250, 300, 350].map Duration.ofMillis ∧
          ∀ wait ∈ waits, (Duration.ofMillis 250).nanos ≤ wait.nanos := by
  intro settings
  have accepted : settings.validate = .ok () :=
    validate_eq_ok_iff_fault?.mpr (by decide +kernel)
  obtain ⟨-, -, -, -, -, waits⟩ :=
    schedules_in_closed_form (ω := Unit) (ε := Failure) (α := Unit)
  obtain ⟨policy, made, runs⟩ := waits settings accepted (.inr rfl)
  refine ⟨accepted, rfl, policy, made, ?_⟩
  intro engine waits
  refine ⟨?_, (runs engine { world := () } rfl).least rfl⟩
  have built : settings.retryPolicy = .ok _ := rfl
  obtain rfl := Except.ok.inj (built.symm.trans made)
  decide +kernel

end EventRelay.Settings

import EventRelay.Proofs.Outlines

/-!
# What comes to a value

Nothing that a relay does stops at an overflow, but for two sums: those that a mapper
makes, and the number of attempts. Where neither overflows, a delivery is settled.
-/

namespace EventRelay

namespace Run

variable {ω α β : Type}

/-- From every session, what runs comes to a value. -/
def Completes (program : Run ω α) : Prop :=
  ∀ session, ∃ value later, program session = (.ok value, later)

/-- From every session, what runs comes to a value as told. -/
def Yields (told : α → Prop) (program : Run ω α) : Prop :=
  ∀ session, ∃ value later, program session = (.ok value, later) ∧ told value

theorem Completes.bind {program : Run ω α} {next : α → Run ω β} (completes : Completes program)
    (rest : ∀ value, Completes (next value)) : Completes (program >>= next) := by
  intro session
  rcases completes session with ⟨value, later, ran⟩
  rw [bind_apply, ran]
  exact rest value later

theorem completes_pure (value : α) : Completes (pure value : Run ω α) :=
  fun session => ⟨value, session, rfl⟩

theorem completes_act (action : StateM ω α) : Completes (act action) :=
  fun session => ⟨_, _, act_apply action session⟩

theorem completes_count (counter : Counter) : Completes (count counter : Run ω Unit) :=
  fun session => ⟨_, _, count_apply counter session⟩

theorem completes_leave (sample : Retry.Sample) : Completes (leave sample : Run ω Unit) :=
  fun session => ⟨_, _, leave_apply sample session⟩

theorem completes_check (value : α) : Completes (check (.ok value) : Run ω α) :=
  fun session => ⟨value, session, rfl⟩

/-- What never leaves a session at an overflow comes to a value. -/
theorem completes_of_leads {program : Run ω α}
    (leads : Leads (fun _ => True) program (fun _ _ => True) (fun _ => False)) :
    Completes program := by
  intro session
  have led := leads session trivial
  revert led
  rcases program session with ⟨_ | value, later⟩
  · exact False.elim
  · exact fun _ => ⟨value, later, rfl⟩

/-- What completes comes to a value whatever else is known. -/
theorem Completes.leads {fact : Prop} {program : Run ω α} (completes : Completes program) :
    Leads (fun _ => fact) program (fun _ _ => fact) (fun _ => False) := by
  intro session known
  rcases completes session with ⟨value, later, ran⟩
  rw [ran]
  exact known

/-- What completes after an action completes together with it. -/
theorem completes_act_bind (action : StateM ω α) {next : α → Run ω β}
    (rest : ∀ value, Completes (next value)) : Completes (act action >>= next) :=
  (completes_act action).bind rest

theorem Completes.yields {told : β → Prop} {program : Run ω α} {next : α → Run ω β}
    (completes : Completes program) (rest : ∀ value, Yields told (next value)) :
    Yields told (program >>= next) := by
  intro session
  rcases completes session with ⟨value, later, ran⟩
  rw [bind_apply, ran]
  exact rest value later

theorem yields_pure {told : α → Prop} {value : α} (holds : told value) :
    Yields told (pure value : Run ω α) :=
  fun session => ⟨value, session, rfl, holds⟩

theorem yields_act_bind {told : β → Prop} (action : StateM ω α) {next : α → Run ω β}
    (rest : ∀ value, Yields told (next value)) : Yields told (act action >>= next) :=
  (completes_act action).yields rest

theorem yields_count_bind {told : β → Prop} (counter : Counter) {next : Unit → Run ω β}
    (rest : Yields told (next ())) : Yields told (count counter >>= next) :=
  (completes_count counter).yields fun _ => rest

end Run

namespace Retry.Engine

open Run

variable {ω ε κ α : Type} [Classified ε κ] [DecidableEq κ]

/-- Attempts that each come to a value are made as long as they can be counted. -/
def countable {engine : Engine ω ε κ α}
    (each : ∀ context, Completes (engine.operation context)) :
    engine.Outline (fun _ _ => True) (fun _ => False) where
  trying budget attempt _ _ := attempt + budget < UInt32.size
  answered budget attempt _ _ := attempt + budget < UInt32.size
  waiting budget attempt _ _ := attempt + 1 + budget < UInt32.size
  notes _ _ := (completes_act _).leads
  leaves _ _ := (completes_leave _).leads
  overflows _ _ counted := by omega
  attempts _ _ _ := (each _).leads
  succeeds _ _ := trivial
  drops _ _ := trivial
  refuses _ _ _ := trivial
  exhausts _ _ _ := trivial
  looks _ := by
    apply (completes_act _).leads.imp (fun _ counted => counted)
    rintro (_ | _) session counted
    · change _ < _
      omega
    · trivial
  warns _ := (completes_act _).leads
  hastens _ _ counted := counted
  pauses _ := by
    apply (completes_act _).leads.imp (fun _ counted => counted)
    rintro (_ | _) session counted
    · exact counted
    · trivial

/-- Work whose attempts each come to a value does so, as long as they can be counted. -/
theorem completes_run {engine : Engine ω ε κ α}
    (each : ∀ context, Completes (engine.operation context))
    (few : engine.policy.maxRetries + 1 < UInt32.size) : Completes engine.run := by
  apply completes_of_leads
  apply (countable each).leads_run.imp _ fun _ _ _ => trivial
  intro session _
  change _ < _
  omega

end Retry.Engine

namespace Relay

open Run

variable {ω : Type} (relay : Relay) (environment : Environment ω)

/-! ## Settling -/

/-- A delivery is not skipped: it is published, set aside, left pending or abandoned, or
a failure tells why its settlement did not go through. -/
def NotSkipped (result : Except Failure Disposition) : Prop :=
  result ≠ .ok .skipped

theorem completes_commit (coordinates : Coordinates) :
    Completes (commit environment coordinates) := by
  unfold commit
  apply completes_act_bind
  rintro (failure | ⟨⟩)
  · apply (completes_count _).bind
    intro _
    exact completes_act_bind _ fun _ => completes_pure _
  · exact completes_pure _

theorem yields_redeliver (coordinates : Coordinates) :
    Yields NotSkipped (redeliver environment coordinates) := by
  unfold redeliver
  apply yields_act_bind
  rintro (failure | ⟨⟩)
  · exact yields_pure nofun
  · exact yields_count_bind _ (yields_pure nofun)

theorem yields_setAside (forwarder : Forwarder) (record : SourceRecord) (headers : Headers)
    (failure : Failure) :
    Yields NotSkipped (setAside environment forwarder record headers failure) := by
  unfold setAside
  split
  · apply yields_act_bind
    rintro (refusal | letter)
    · exact yields_count_bind _ (yields_redeliver environment _)
    · apply (completes_commit environment _).yields
      rintro (refusal | ⟨⟩)
      · exact yields_pure nofun
      · exact yields_count_bind _ (yields_pure nofun)
  · exact yields_act_bind _ fun _ => yields_redeliver environment _

theorem yields_settlePublished (delivery : Delivery) :
    Yields NotSkipped (settlePublished environment delivery) := by
  unfold settlePublished
  apply yields_act_bind
  intro given
  split
  · apply yields_act_bind
    intro _
    exact yields_act_bind _ fun _ => yields_pure nofun
  · apply (completes_commit environment _).yields
    rintro (failure | ⟨⟩)
    · exact yields_pure nofun
    · apply yields_count_bind
      exact yields_act_bind _ fun _ => yields_pure nofun

theorem yields_settleSurrendered (delivery : Delivery) (surrender : Retry.Surrender Failure) :
    Yields NotSkipped (relay.settleSurrendered environment delivery surrender) := by
  unfold settleSurrendered
  cases surrender with
  | cancelled attempts last =>
      apply yields_act_bind
      intro _
      exact yields_act_bind _ fun _ => yields_pure nofun
  | exhausted attempts failure =>
      exact yields_act_bind _ fun _ => yields_setAside environment _ _ _ _
  | notRetryable attempts failure =>
      exact yields_act_bind _ fun _ => yields_setAside environment _ _ _ _

/-! ## Publishing -/

variable {relay} {mapper : Mapper} {delivery : Delivery}

theorem completes_publishAttempt {result : Except Failure Message}
    (mapped : (mapper delivery.envelope).run = .ok result) (context : Retry.Context) :
    Completes (publishAttempt environment mapper delivery context) := by
  unfold publishAttempt
  rw [mapped]
  split
  case' isTrue =>
    apply (completes_count _).bind
    intro _
  all_goals
    apply (completes_check result).bind
    rintro (failure | message)
    · exact completes_pure _
    · exact completes_act _

/-- A delivery is settled where its mapper finds that all amounts fit and all attempts
can be counted. -/
theorem yields_process {result : Except Failure Message}
    (resolved : relay.registry.resolve delivery.envelope.eventType = .ok mapper)
    (mapped : (mapper delivery.envelope).run = .ok result)
    (countable : relay.policy.maxRetries + 1 < UInt32.size) :
    Yields NotSkipped (relay.process environment delivery) := by
  unfold process
  simp only [resolved]
  have attempts : Completes (relay.engine environment mapper delivery).run :=
    Retry.Engine.completes_run (completes_publishAttempt environment mapped) countable
  apply attempts.yields
  rintro (surrender | ⟨⟩)
  · exact yields_settleSurrendered relay environment delivery surrender
  · exact yields_settlePublished environment delivery

/-- An amount that does not fit stops a relay at the first attempt, with nothing done. -/
theorem process_eq_of_overflow {overflow : Overflow}
    (resolved : relay.registry.resolve delivery.envelope.eventType = .ok mapper)
    (overflows : (mapper delivery.envelope).run = .error overflow) (session : Session ω) :
    relay.process environment delivery session = (.error overflow, session) := by
  have first (context : Retry.Context) (isFirst : context.attempt = 1) :
      publishAttempt environment mapper delivery context session = (.error overflow, session) := by
    unfold publishAttempt
    rw [if_neg (by omega), overflows]
    exact bind_error rfl _
  have attempts : (relay.engine environment mapper delivery).run session =
      (.error overflow, session) := by
    unfold Retry.Engine.run Retry.Engine.attemptFrom
    rw [if_neg (by decide)]
    exact bind_error (first ((relay.engine environment mapper delivery).context 1 none) rfl) _
  unfold process
  simp only [resolved]
  exact bind_error attempts _

end Relay

end EventRelay

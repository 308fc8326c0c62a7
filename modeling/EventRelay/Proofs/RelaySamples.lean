import EventRelay.Proofs.RetrySamples

/-!
# Samples of a relay

A relay retries nothing but the publishing of what it maps. Over any run of its loop the samples
that are left are those of these calls of the engine, one after another.
-/

namespace EventRelay

/-! ## Programs that retain what is told of the samples -/

namespace Run

variable {ω α β : Type} {told : List Retry.Sample → Prop}

theorem retains_pure (value : α) : Retains told (pure value : Run ω α) :=
  fun _ holds => holds

theorem retains_act (action : StateM ω α) : Retains told (act action) :=
  fun _ holds => holds

theorem retains_count (counter : Counter) : Retains told (count counter : Run ω Unit) :=
  fun _ holds => holds

theorem Retains.bind {program : Run ω α} {next : α → Run ω β} (retains : Retains told program)
    (rest : ∀ value, Retains told (next value)) : Retains told (program >>= next) := by
  intro session holds
  have kept := retains session holds
  rw [bind_apply]
  revert kept
  rcases program session with ⟨_ | value, later⟩
  · exact id
  · exact rest value later

theorem retains_act_bind (action : StateM ω α) {next : α → Run ω β}
    (rest : ∀ value, Retains told (next value)) : Retains told (act action >>= next) :=
  (retains_act action).bind rest

theorem retains_count_bind (counter : Counter) {next : Unit → Run ω β}
    (rest : Retains told (next ())) : Retains told (count counter >>= next) :=
  (retains_count counter).bind fun _ => rest

end Run

namespace Relay

open Run

variable {ω : Type} {told : List Retry.Sample → Prop} (relay : Relay)
  (environment : Environment ω)

/-! ## Settling -/

theorem retains_commit (coordinates : Coordinates) :
    Retains told (commit environment coordinates) := by
  unfold commit
  apply retains_act_bind
  rintro (failure | ⟨⟩)
  · exact retains_count_bind _ (retains_act_bind _ fun _ => retains_pure _)
  · exact retains_pure _

theorem retains_redeliver (coordinates : Coordinates) :
    Retains told (redeliver environment coordinates) := by
  unfold redeliver
  apply retains_act_bind
  rintro (failure | ⟨⟩)
  · exact retains_pure _
  · exact retains_count_bind _ (retains_pure _)

theorem retains_setAside (forwarder : Forwarder) (record : SourceRecord) (headers : Headers)
    (failure : Failure) :
    Retains told (setAside environment forwarder record headers failure) := by
  unfold setAside
  split
  · apply retains_act_bind
    rintro (refusal | letter)
    · exact retains_count_bind _ (retains_redeliver environment _)
    · refine (retains_commit environment _).bind ?_
      rintro (refusal | ⟨⟩)
      · exact retains_pure _
      · exact retains_count_bind _ (retains_pure _)
  · exact retains_act_bind _ fun _ => retains_redeliver environment _

theorem retains_skip (coordinates : Coordinates) :
    Retains told (skip environment coordinates) := by
  unfold skip
  refine (retains_commit environment coordinates).bind ?_
  rintro (failure | ⟨⟩)
  · exact retains_pure _
  · exact retains_count_bind _ (retains_pure _)

theorem retains_receive (decoder : Outbox.Decoder) (forwarder : Forwarder) (timeout : Duration) :
    Retains told (receive environment decoder forwarder timeout) := by
  unfold receive
  apply retains_act_bind
  rintro (failure | record | _ | partition)
  · exact retains_pure _
  · unfold takeIn
    apply retains_count_bind
    split
    · apply retains_act_bind
      intro _
      exact (retains_skip environment _).bind fun _ => retains_pure _
    · apply retains_act_bind
      intro now
      rcases decoder now record with failure | envelope | reason
      · apply retains_count_bind
        apply retains_act_bind
        intro _
        exact (retains_setAside environment _ _ _ _).bind fun _ => retains_pure _
      · exact retains_pure _
      · apply retains_act_bind
        intro _
        exact (retains_skip environment _).bind fun _ => retains_pure _
  · exact retains_pure _
  · exact retains_pure _

theorem retains_settlePublished (delivery : Delivery) :
    Retains told (settlePublished environment delivery) := by
  unfold settlePublished
  apply retains_act_bind
  intro given
  split
  · apply retains_act_bind
    intro _
    exact retains_act_bind _ fun _ => retains_pure _
  · refine (retains_commit environment _).bind ?_
    rintro (failure | ⟨⟩)
    · exact retains_pure _
    · apply retains_count_bind
      exact retains_act_bind _ fun _ => retains_pure _

theorem retains_settleSurrendered (delivery : Delivery) (surrender : Retry.Surrender Failure) :
    Retains told (relay.settleSurrendered environment delivery surrender) := by
  unfold settleSurrendered
  cases surrender with
  | cancelled attempts last =>
      apply retains_act_bind
      intro _
      exact retains_act_bind _ fun _ => retains_pure _
  | exhausted attempts failure =>
      exact retains_act_bind _ fun _ => retains_setAside environment _ _ _ _
  | notRetryable attempts failure =>
      exact retains_act_bind _ fun _ => retains_setAside environment _ _ _ _

/-! ## Calls of the engine -/

theorem unsampled_publishAttempt (mapper : Mapper) (delivery : Delivery)
    (context : Retry.Context) :
    Unsampled (publishAttempt environment mapper delivery context) := by
  rw [unsampled_iff_retains]
  intro told session holds
  have attempts : Leads (OfSamples told) (publishAttempt environment mapper delivery context)
      (fun _ => OfSamples told) (OfSamples told) :=
    leads_publishAttempt (retains_count _).leads (fun _ holds => holds)
      (fun _ _ _ holds => holds) fun _ _ => (retains_act _).leads
  exact attempts.reached holds

/-- The call of the engine that publishes what a mapper makes of a delivery. -/
def call (mapper : Mapper) (delivery : Delivery) (before : Session ω) : Retry.Call where
  engine := relay.engine environment mapper delivery
  before := before
  unsampled := unsampled_publishAttempt environment mapper delivery

/-- The samples are those of calls that the relay made since, each for a delivery that a mapper
is registered for. -/
def Sampled (start : List Retry.Sample) (samples : List Retry.Sample) : Prop :=
  ∃ calls : List Retry.Call, Retry.Successive start calls samples ∧
    ∀ call ∈ calls, ∃ mapper delivery before,
      relay.registry.resolve delivery.envelope.eventType = .ok mapper ∧
        call = relay.call environment mapper delivery before

theorem retains_process (start : List Retry.Sample) (delivery : Delivery) :
    Retains (relay.Sampled environment start) (relay.process environment delivery) := by
  unfold process
  dsimp only
  cases resolved : relay.registry.resolve delivery.envelope.eventType with
  | error failure =>
      apply retains_count_bind
      exact retains_act_bind _ fun _ => retains_setAside environment _ _ _ _
  | ok mapper =>
      have called : Retains (relay.Sampled environment start)
          (relay.engine environment mapper delivery).run := by
        rintro session ⟨calls, successive, made⟩
        let call := relay.call environment mapper delivery session
        refine ⟨calls ++ [call], successive.append call rfl, ?_⟩
        rw [List.forall_mem_append, List.forall_mem_singleton]
        exact ⟨made, mapper, delivery, session, resolved, rfl⟩
      refine called.bind ?_
      rintro (surrender | ⟨⟩)
      · exact retains_settleSurrendered relay environment delivery surrender
      · exact retains_settlePublished environment delivery

/-! ## The loop -/

theorem retains_pollOnce (start : List Retry.Sample) :
    Retains (relay.Sampled environment start) (relay.pollOnce environment) := by
  unfold pollOnce
  refine (retains_receive environment _ _ _).bind ?_
  rintro (failure | _ | disposition | delivery)
  · exact retains_pure _
  · exact retains_pure _
  · exact retains_pure _
  · refine (retains_process relay environment start delivery).bind ?_
    rintro (failure | disposition)
    · exact retains_pure _
    · exact retains_pure _

/-- The loop itself leaves no sample. -/
theorem leads_turn_sampled (start : List Retry.Sample) :
    Leads (OfSamples (relay.Sampled environment start)) (relay.turn environment)
      (fun _ => OfSamples (relay.Sampled environment start))
      (OfSamples (relay.Sampled environment start)) := by
  apply leads_turn (retains_act _).leads
  · exact leads_stop (retains_act _).leads fun _ _ => (retains_act _).leads
  · exact (retains_pollOnce relay environment start).leads
  · intro result
    exact leads_goOn (fun _ => (retains_act _).leads) (fun _ _ holds => holds)
      (fun _ => (retains_act _).leads) fun _ _ _ => (retains_act _).leads

/-- However long a relay runs and whatever it meets, the samples that it leaves are those of the
calls of the engine that it makes, one after another. -/
theorem sampled_run (most : Nat) (session : Session ω) :
    relay.Sampled environment session.samples (relay.run environment most session).2.samples := by
  have turns := leads_turns (leads_turn_sampled relay environment session.samples)
    (fun _ holds => holds) (fun _ holds => holds) most
  unfold run
  refine ((retains_act _).leads.bind fun _ => turns).reached ?_
  exact ⟨[], rfl, List.forall_mem_nil _⟩

end Relay

end EventRelay

import EventRelay.Proofs.LateAttempts
import EventRelay.Proofs.Outlines
import EventRelay.Proofs.PartitionedLog
import Mathlib.Control.Monad.Basic

/-!
# What is abandoned at shutdown

A relay that is asked to shut down while it attempts to publish looks at the signal
after the attempt, unless the attempt failed for good: with a failure that is not
retried, or with no retries left. So the delivery is abandoned in exactly the other
cases.
-/

namespace EventRelay.Relay

open Run

variable {relay : Relay} {delivery : Delivery} {mapper : Mapper} {base : History} {budget : Nat}

/-! ## The engine -/

section Runs

variable {ω : Type} {environment : Environment ω} {history : ω → History}
  {allowed : History → Happening → Prop} {broken : Session ω → Prop}
  (keeps : environment.Keeps history allowed)
  (truthful : ∀ moment given, allowed moment (.looked given) → given = moment.given)

include keeps in
theorem publishAttempt_since (context : Retry.Context) :
    Leads (Since history base (Trying relay delivery mapper base budget))
      (publishAttempt environment mapper delivery context)
      (fun result => Since history base (Answered relay delivery mapper base result budget))
      (Since history base (Unlate base)) := by
  apply leads_publishAttempt leads_count_since
  · intro session holds
    exact holds.imp fun since trying => trying.unlate
  · intro failure mapped session holds
    exact holds.imp fun since trying => .of_refused trying mapped
  · intro message mapped
    apply leads_since (keeps.race message delivery.headers) Trying.steady
    intro result since trying _
    exact .of_attempted trying mapped

include keeps in
theorem pause_since (duration : Duration) :
    Leads (Since history base (Trying relay delivery mapper base budget))
      (act (environment.signal.pause duration))
      (fun _ => Since history base (Trying relay delivery mapper base budget)) broken := by
  apply leads_keep_since (keeps.pause duration) Trying.steady
  intro ending since trying
  exact ⟨trying.quiet.cons rfl, trying.counted, trying.unlate⟩

/-- What is told of late attempts as an engine goes on. -/
def Trying.outline (base : History) (keeps : environment.Keeps history allowed)
    (truthful : ∀ moment given, allowed moment (.looked given) → given = moment.given) :
    (relay.engine environment mapper delivery).Outline
      (fun value => Since history base (Ended relay base value))
      (Since history base (Unlate base)) where
  trying budget _ _ := Since history base (Trying relay delivery mapper base budget)
  answered budget _ result :=
    Since history base (Answered relay delivery mapper base result budget)
  waiting budget _ _ := Since history base (Trying relay delivery mapper base budget)
  notes _ notice := leads_silent_since (keeps.note notice) Ended.steady
  leaves _ _ := leads_leave_since
  overflows _ _ holds := holds.imp fun _ trying => trying.unlate
  attempts _ _ _ := publishAttempt_since keeps _
  succeeds _ holds := holds.imp fun _ answered => answered.published
  drops _ holds := holds.imp fun _ answered => answered.spared_of_cutOff
  refuses refused _ holds :=
    holds.imp fun _ answered => answered.doomed_of_refused (Bool.eq_false_iff.mp refused)
  exhausts _ _ holds := holds.imp fun _ answered => answered.doomed_of_spent
  looks retried := by
    apply Leads.imp (leads_look_since keeps truthful Answered.steady
      (fun since answered _ => answered.spared_of_given retried)
      fun since answered notGiven => answered.trying_of_not_given notGiven) (fun _ holds => holds)
    rintro (_ | _) session holds
    · exact holds
    · exact holds
  warns notice := leads_silent_since (keeps.note notice) Trying.steady
  hastens _ _ holds := holds
  pauses _ := by
    apply (pause_since keeps _).imp (fun _ holds => holds)
    rintro (_ | _) session holds
    · exact holds
    · exact holds.imp fun _ trying => trying.spared

/-! ## Settling -/

theorem leads_judged {result : Except Failure Disposition} (settled : result ≠ .ok .abandoned) :
    Leads (Since history base (Doomed relay base)) (pure result)
      (fun result => Since history base (Judged relay base result)) broken := by
  apply leads_pure
  intro session holds
  exact holds.imp fun since doomed => doomed.judged settled

include keeps in
theorem commit_since (coordinates : Coordinates) :
    Leads (Since history base (Doomed relay base)) (commit environment coordinates)
      (fun _ => Since history base (Doomed relay base)) broken := by
  unfold commit
  apply (leads_keep_since (keeps.commit coordinates) Doomed.steady fun _ _ doomed => doomed).bind
  rintro (failure | ⟨⟩)
  · apply leads_count_since.bind
    intro _
    apply (leads_silent_since (keeps.note _) Doomed.steady).bind
    intro _
    exact leads_pure fun _ holds => holds
  · exact leads_pure fun _ holds => holds

include keeps in
theorem redeliver_since (coordinates : Coordinates) :
    Leads (Since history base (Doomed relay base)) (redeliver environment coordinates)
      (fun result => Since history base (Judged relay base result)) broken := by
  unfold redeliver
  apply (leads_keep_since (keeps.rewind coordinates) Doomed.steady fun _ _ doomed => doomed).bind
  rintro (failure | ⟨⟩)
  · exact leads_judged (by simp)
  · apply leads_count_since.bind
    intro _
    exact leads_judged (by simp)

include keeps in
theorem forward_since (record : SourceRecord) (headers : Headers) (failure : Failure) :
    Leads (Since history base (Doomed relay base))
      (act (relay.forwarder.forward environment record headers failure))
      (fun _ => Since history base (Doomed relay base)) broken := by
  unfold Forwarder.forward
  rw [act_bind]
  apply (leads_silent_since keeps.freshId Doomed.steady).bind
  intro id
  rw [act_bind]
  apply (leads_keep_since keeps.now Doomed.steady fun _ _ doomed => doomed).bind
  intro now
  rw [act_bind]
  apply (leads_keep_since (keeps.publish _ _) Doomed.steady fun _ _ doomed => doomed).bind
  rintro (refusal | ⟨⟩)
  · rw [act_bind]
    apply (leads_silent_since (keeps.note _) Doomed.steady).bind
    intro _
    exact leads_pure fun _ holds => holds
  · rw [act_bind]
    apply (leads_silent_since (keeps.note _) Doomed.steady).bind
    intro _
    exact leads_pure fun _ holds => holds

include keeps in
theorem setAside_since (record : SourceRecord) (headers : Headers) (failure : Failure) :
    Leads (Since history base (Doomed relay base))
      (setAside environment relay.forwarder record headers failure)
      (fun result => Since history base (Judged relay base result)) broken := by
  unfold setAside
  split
  · apply (forward_since keeps record headers failure).bind
    rintro (refusal | letter)
    · apply leads_count_since.bind
      intro _
      exact redeliver_since keeps record.coordinates
    · apply (commit_since keeps record.coordinates).bind
      rintro (refusal | ⟨⟩)
      · exact leads_judged (by simp)
      · apply leads_count_since.bind
        intro _
        exact leads_judged (by simp)
  · apply (leads_silent_since (keeps.note _) Doomed.steady).bind
    intro _
    exact redeliver_since keeps record.coordinates

include keeps in
theorem abandon_since (delivery : Delivery) :
    Leads (Since history base (Spared relay base))
      (delivery.abandon environment >>= fun _ => pure (.ok .abandoned))
      (fun result => Since history base (Judged relay base result)) broken := by
  apply (leads_silent_since (keeps.note _) Spared.steady).bind
  intro _
  apply leads_pure
  intro session holds
  exact holds.imp fun since spared => spared.judged

include keeps truthful in
theorem settlePublished_since (delivery : Delivery) :
    Leads (Since history base (Published base)) (settlePublished environment delivery)
      (fun result => Since history base (Judged relay base result)) broken := by
  unfold settlePublished
  apply Leads.bind (leads_look_since keeps truthful Published.steady
    (fun since published _ => published.spared)
    fun since published notGiven => published.doomed notGiven)
  rintro (_ | _)
  · apply (commit_since keeps delivery.record.coordinates).bind
    rintro (failure | ⟨⟩)
    · exact leads_judged (by simp)
    · apply leads_count_since.bind
      intro _
      apply (leads_silent_since (keeps.note _) Doomed.steady).bind
      intro _
      exact leads_judged (by simp)
  · apply (leads_silent_since (keeps.note _) Spared.steady).bind
    intro _
    exact abandon_since keeps delivery

include keeps in
theorem settleSurrendered_since (delivery : Delivery) (surrender : Retry.Surrender Failure) :
    Leads (Since history base (Ended relay base (.error surrender)))
      (relay.settleSurrendered environment delivery surrender)
      (fun result => Since history base (Judged relay base result)) broken := by
  unfold settleSurrendered
  cases surrender with
  | cancelled attempts last =>
      apply (leads_silent_since (keeps.note _) Spared.steady).bind
      intro _
      exact abandon_since keeps delivery
  | exhausted attempts failure =>
      apply (leads_silent_since (keeps.note _) Doomed.steady).bind
      intro _
      exact setAside_since keeps delivery.record delivery.headers failure
  | notRetryable attempts failure =>
      apply (leads_silent_since (keeps.note _) Doomed.steady).bind
      intro _
      exact setAside_since keeps delivery.record delivery.headers failure

include keeps truthful in
theorem process_since
    (resolved : relay.registry.resolve delivery.envelope.eventType = .ok mapper) :
    Leads (Since history base (Trying relay delivery mapper base relay.policy.maxRetries))
      (relay.process environment delivery)
      (fun result => Since history base (Judged relay base result))
      (Since history base (Unlate base)) := by
  unfold process
  simp only [resolved]
  apply (Trying.outline base keeps truthful).leads_run.bind
  rintro (surrender | ⟨⟩)
  · exact settleSurrendered_since keeps delivery surrender
  · exact settlePublished_since keeps truthful delivery

end Runs

/-- A moment from which on nothing has happened. -/
theorem Trying.nil : Trying relay delivery mapper base relay.policy.maxRetries [] where
  quiet := by
    intro happening mem
    contradiction
  counted _ _ := Nat.zero_add _
  unlate := by
    intro outcome earlier last
    contradiction

/-- Where shutdown had been asked for when the last attempt to publish ended, a delivery
is abandoned, nothing having been set aside or committed, exactly if that attempt did
not fail for good. -/
theorem abandoned_iff_spares {χ : Type} (relay : Relay) (content : Content) (whims : Whims χ)
    (delivery : Delivery)
    (resolved : relay.registry.resolve delivery.envelope.eventType = .ok mapper)
    (session : Session (Course χ)) :
    ∃ since, (relay.process (content.environment whims) delivery session).2.world.history =
        since ++ session.world.history ∧
      ∀ outcome earlier, since.lastAttempt? = some (.finished outcome, earlier) →
        History.given (earlier ++ session.world.history) = true →
        (((relay.process (content.environment whims) delivery session).1 =
            .ok (.ok .abandoned) ∧ since.IsQuiet) ↔
          relay.Spares earlier outcome) := by
  have led := process_since (content.keeps whims) (fun _ _ may => may) resolved session
    ⟨[], rfl, .nil⟩
  revert led
  rcases relay.process (content.environment whims) delivery session with ⟨overflow | result, later⟩
  · rintro ⟨since, whole, unlate⟩
    refine ⟨since, whole, ?_⟩
    intro outcome earlier last given
    exact (unlate _ earlier last given).elim
  · rintro ⟨since, whole, judged⟩
    refine ⟨since, whole, ?_⟩
    intro outcome earlier last given
    simpa using judged _ earlier last given outcome rfl

/-- A message that is refused for good after shutdown was asked for: the delivery is not
abandoned. -/
theorem abandoned_iff_spares_refused :
    let relay : Relay :=
      { passing with policy := ⟨.immediate, 1, { ignore := [.validation] }⟩ }
    let whims : Whims Unit :=
      { Whims.smooth ⟨"outbox", 0⟩ with
        fires := pure true
        race := fun _ _ => pure (.finished (.error (.publish "orders" .validation "refused"))) }
    let record : SourceRecord := ⟨⟨"outbox", 0, 0⟩, none, some [1], ∅, none⟩
    let content := Content.single ⟨"outbox", 0⟩ [record]
    let done := relay.process (content.environment whims) ⟨record, eventOf record⟩ opening
    relay.registry.resolve "created" = .ok (.forwarding "orders" ∅) ∧
      ∃ since, done.2.world.history = since ++ opening.world.history ∧
        ∃ outcome earlier, since.lastAttempt? = some (.finished outcome, earlier) ∧
          History.given (earlier ++ opening.world.history) = true ∧
          ¬(done.1 = .ok (.ok .abandoned) ∧ since.IsQuiet) := by
  intro relay whims record content done
  have resolved : relay.registry.resolve "created" = .ok (.forwarding "orders" ∅) := by
    simp [relay, passing, Registry.resolve]
  have attempted : done.2.world.history.lastAttempt?.map Prod.fst =
      some (.finished (.error (.publish "orders" .validation "refused"))) := by
    decide +kernel
  have asked : done.2.world.history.lastAttempt?.map (fun found => found.2.given) =
      some true := by
    decide +kernel
  obtain ⟨since, ran, judged⟩ :=
    abandoned_iff_spares relay content whims ⟨record, eventOf record⟩ resolved opening
  refine ⟨resolved, since, ran, ?_⟩
  rw [ran, History.lastAttempt?_append since rfl, Option.map_map, Option.map_eq_some_iff]
    at attempted asked
  obtain ⟨⟨outcome, earlier⟩, last, rfl⟩ := attempted
  obtain ⟨found, same, given⟩ := asked
  obtain rfl := Option.some.inj (last.symm.trans same)
  refine ⟨_, earlier, last, given, ?_⟩
  rw [judged _ earlier last given]
  intro spares
  have retried := (spares _ rfl).1
  contradiction

end EventRelay.Relay

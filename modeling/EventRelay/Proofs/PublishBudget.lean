import EventRelay.Proofs.Isolation
import EventRelay.Proofs.Recording
import EventRelay.Proofs.OverseenWork

/-!
# What one delivery may publish

A record that says nothing is not published, and one that cannot be decoded or that nothing
maps is set aside at most, without a second attempt. Only where there is a message does the
relay try again: each attempt calls the mapper, hands the same message to the publisher under
the same headers, and counts as a retry unless it is the first. After the last attempt at most
one dead letter is published, and none if an attempt had succeeded.
-/

namespace EventRelay.Relay

open Run Recorded Retry

/-! ## Calls of the publisher and of the mapper -/

namespace Happening

/-- Whether the publisher was called. -/
def isPublisherCall : Happening → Bool
  | .attempted _ _ _ | .forwarded _ _ _ => true
  | _ => false

/-- Whether an attempt to publish succeeded. -/
def isSuccess : Happening → Bool
  | .attempted _ _ (.finished (.ok ())) => true
  | _ => false

end Happening

/-- The calls of the publisher, latest first. -/
def History.publisherCalls (history : History) : List Happening :=
  history.filter Happening.isPublisherCall

variable {ω α : Type}

/-- How often a mapper is called in a poll. Every attempt to publish starts with one call, and
there is no other. -/
def mapperCalls (relay : Relay) (environment : Environment ω) (session : Session ω) : Nat :=
  match receive environment relay.decoder relay.forwarder relay.pollTimeout session with
  | (.ok (.ok (.delivered delivery)), later) =>
      match relay.registry.resolve delivery.envelope.eventType with
      | .ok mapper => ((relay.engine environment mapper delivery).calls later).length
      | .error _ => 0
  | _ => 0

/-! ## What has been spent -/

/-- Since the start the publisher was called so, and so many retries were counted. -/
structure Spent (start : Session (Recorded ω)) (made : List Happening) (retries : Nat)
    (session : Session (Recorded ω)) : Prop where
  published : session.world.history.publisherCalls = made ++ start.world.history.publisherCalls
  retried : session.counters.get .publishRetries =
    start.counters.get .publishRetries + retries

variable {start : Session (Recorded ω)} {made : List Happening} {retries : Nat}
  {broken : Session (Recorded ω) → Prop}

theorem Spent.none (session : Session (Recorded ω)) : Spent session [] 0 session :=
  ⟨rfl, rfl⟩

theorem spent_pass (action : StateM ω α) :
    Leads (Spent start made retries) (act (pass action)) (fun _ => Spent start made retries)
      broken :=
  leads_act fun _ spent => ⟨spent.published, spent.retried⟩

theorem spent_call {happening : α → Happening} {action : StateM ω α}
    (calls : ∀ answer, (happening answer).isPublisherCall = true) :
    Leads (Spent start made retries) (act (keep happening action))
      (fun answer => Spent start (happening answer :: made) retries) broken := by
  apply leads_act
  intro session spent
  refine ⟨?_, spent.retried⟩
  change History.publisherCalls (_ :: session.world.history) = _
  rw [History.publisherCalls, List.filter_cons_of_pos (calls _)]
  exact congrArg _ spent.published

theorem spent_other {happening : α → Happening} {action : StateM ω α}
    (other : ∀ answer, (happening answer).isPublisherCall = false) :
    Leads (Spent start made retries) (act (keep happening action))
      (fun _ => Spent start made retries) broken := by
  apply leads_act
  intro session spent
  refine ⟨?_, spent.retried⟩
  change History.publisherCalls (_ :: session.world.history) = _
  rw [History.publisherCalls, List.filter_cons_of_neg (by simp [other])]
  exact spent.published

theorem spent_count {counter : Counter} (other : counter ≠ .publishRetries) :
    Leads (Spent start made retries) (count counter) (fun _ => Spent start made retries)
      broken := by
  apply leads_count
  intro session spent
  refine ⟨spent.published, ?_⟩
  rw [Counters.get_add, if_neg (Ne.symm other)]
  exact spent.retried

theorem spent_retry :
    Leads (Spent start made retries) (count .publishRetries)
      (fun _ => Spent start made (retries + 1)) broken := by
  apply leads_count
  intro session spent
  refine ⟨spent.published, ?_⟩
  rw [Counters.get_add, if_pos rfl, spent.retried, Nat.add_assoc]

/-! ## Settling -/

section Settling

variable (environment : Environment ω)

theorem commit_spends (coordinates : Coordinates) :
    Leads (Spent start made retries) (commit environment.recorded coordinates)
      (fun _ => Spent start made retries) broken := by
  unfold commit
  apply (spent_other fun _ => rfl).bind
  rintro (failure | ⟨⟩)
  · apply (spent_count (by decide)).bind
    intro _
    exact (spent_pass _).bind fun _ => leads_pure fun _ spent => spent
  · exact leads_pure fun _ spent => spent

theorem redeliver_spends (coordinates : Coordinates) :
    Leads (Spent start made retries) (redeliver environment.recorded coordinates)
      (fun _ => Spent start made retries) broken := by
  unfold redeliver
  apply (spent_other fun _ => rfl).bind
  rintro (failure | ⟨⟩)
  · exact leads_pure fun _ spent => spent
  · exact (spent_count (by decide)).bind fun _ => leads_pure fun _ spent => spent

theorem skip_spends (coordinates : Coordinates) :
    Leads (Spent start made retries) (skip environment.recorded coordinates)
      (fun _ => Spent start made retries) broken := by
  unfold skip
  apply (commit_spends environment coordinates).bind
  rintro (failure | ⟨⟩)
  · exact leads_pure fun _ spent => spent
  · exact (spent_count (by decide)).bind fun _ => leads_pure fun _ spent => spent

theorem abandon_spends (delivery : Delivery) :
    Leads (Spent start made retries)
      (delivery.abandon environment.recorded >>= fun _ => pure (.ok .abandoned))
      (fun _ : Except Failure Disposition => Spent start made retries) broken :=
  (spent_pass _).bind fun _ => leads_pure fun _ spent => spent

theorem settlePublished_spends (delivery : Delivery) :
    Leads (Spent start made retries) (settlePublished environment.recorded delivery)
      (fun _ => Spent start made retries) broken := by
  unfold settlePublished
  apply (spent_other fun _ => rfl).bind
  rintro (_ | _)
  · apply (commit_spends environment delivery.coordinates).bind
    rintro (failure | ⟨⟩)
    · exact leads_pure fun _ spent => spent
    · apply (spent_count (by decide)).bind
      intro _
      exact (spent_pass _).bind fun _ => leads_pure fun _ spent => spent
  · exact (spent_pass _).bind fun _ => abandon_spends environment delivery

/-- A dead letter of the record is published. -/
def Happening.Forwards (relay : Relay) (record : SourceRecord) (call : Happening) : Prop :=
  ∃ message answer, call = .forwarded message ∅ answer ∧ relay.SetsAside record message

/-- What is published where a record is set aside: at most one dead letter, and none where dead
letters are not sent. -/
structure Letters (relay : Relay) (record : SourceRecord) (letters : List Happening) : Prop where
  once : letters.length ≤ 1
  forwards : ∀ call ∈ letters, call.Forwards relay record
  disabled : relay.forwarder.enabled = false → letters = []

theorem Letters.none (relay : Relay) (record : SourceRecord) : relay.Letters record [] where
  once := Nat.zero_le 1
  forwards _ mem := absurd mem List.not_mem_nil
  disabled _ := rfl

theorem Letters.single {relay : Relay} {record : SourceRecord} {call : Happening}
    (enabled : relay.forwarder.enabled = true) (forwards : call.Forwards relay record) :
    relay.Letters record [call] where
  once := Nat.le_refl 1
  forwards other mem := by
    obtain rfl := List.mem_singleton.mp mem
    exact forwards
  disabled off := by
    rw [enabled] at off
    contradiction

/-- The record may have been set aside since. -/
def SetAside (relay : Relay) (record : SourceRecord) (start : Session (Recorded ω))
    (made : List Happening) (retries : Nat) (session : Session (Recorded ω)) : Prop :=
  ∃ letters, relay.Letters record letters ∧ Spent start (letters ++ made) retries session

theorem Spent.setAside {relay : Relay} {record : SourceRecord} {session : Session (Recorded ω)}
    (spent : Spent start made retries session) : relay.SetAside record start made retries session :=
  ⟨[], .none relay record, spent⟩

theorem forward_spends (relay : Relay) (record : SourceRecord) (headers : Headers)
    (failure : Failure) :
    Leads (Spent start made retries)
      (act (relay.forwarder.forward environment.recorded record headers failure))
      (fun _ session => ∃ call, call.Forwards relay record ∧
        Spent start (call :: made) retries session) broken := by
  unfold Forwarder.forward
  rw [act_bind]
  apply (spent_pass _).bind
  intro id
  rw [act_bind]
  apply (spent_other fun _ => rfl).bind
  intro now
  rw [act_bind]
  apply (spent_call fun _ => rfl).bind
  have forwards (answer : Except Failure Unit) :
      (Happening.forwarded ((relay.forwarder.letter id now record headers failure).toMessage
        relay.forwarder.suffix) ∅ answer).Forwards relay record :=
    ⟨_, answer, rfl, id, now, headers, failure, rfl⟩
  rintro (refusal | ⟨⟩)
  · rw [act_bind]
    exact (spent_pass _).bind fun _ => leads_pure fun _ spent => ⟨_, forwards _, spent⟩
  · rw [act_bind]
    exact (spent_pass _).bind fun _ => leads_pure fun _ spent => ⟨_, forwards _, spent⟩

theorem setAside_spends (relay : Relay) (record : SourceRecord) (headers : Headers)
    (failure : Failure) :
    Leads (Spent start made retries)
      (setAside environment.recorded relay.forwarder record headers failure)
      (fun _ => relay.SetAside record start made retries) broken := by
  unfold setAside
  split
  · rename_i enabled
    apply (forward_spends environment relay record headers failure).bind
    rintro (refusal | letter)
    · apply leads_exists
      intro call
      apply leads_and
      intro forwards
      apply (spent_count (by decide)).bind
      intro _
      exact (redeliver_spends environment record.coordinates).imp (fun _ spent => spent)
        fun _ _ spent => ⟨[call], .single enabled forwards, spent⟩
    · apply leads_exists
      intro call
      apply leads_and
      intro forwards
      apply (commit_spends environment record.coordinates).bind
      rintro (refusal | ⟨⟩)
      · exact leads_pure fun _ spent => ⟨[call], .single enabled forwards, spent⟩
      · apply (spent_count (by decide)).bind
        intro _
        exact leads_pure fun _ spent => ⟨[call], .single enabled forwards, spent⟩
  · apply (spent_pass _).bind
    intro _
    exact (redeliver_spends environment record.coordinates).imp (fun _ spent => spent)
      fun _ _ spent => spent.setAside

end Settling

/-! ## Attempts -/

/-- What so many calls of the mapper have led to: attempts to publish what it makes of the
delivery, no more of them than calls. -/
structure Attempts (mapper : Mapper) (delivery : Delivery) (calls : Nat)
    (attempts : List Happening) : Prop where
  few : attempts.length ≤ calls
  same : ∀ call ∈ attempts, ∃ message outcome, (mapper delivery.envelope).run = .ok (.ok message) ∧
    call = .attempted message delivery.headers outcome

/-- None of these calls published anything. -/
def InVain (attempts : List Happening) : Prop :=
  ∀ call ∈ attempts, call.isSuccess = false

section Engine

variable {environment : Environment ω} {relay : Relay} {mapper : Mapper} {delivery : Delivery}
  {attempts : List Happening} {calls : Nat}

theorem Attempts.none : Attempts mapper delivery 0 [] where
  few := Nat.le_refl 0
  same _ mem := absurd mem List.not_mem_nil

theorem Attempts.unpublished (made : Attempts mapper delivery calls attempts) :
    Attempts mapper delivery (calls + 1) attempts where
  few := Nat.le_succ_of_le made.few
  same := made.same

theorem Attempts.cons {message : Message} (made : Attempts mapper delivery calls attempts)
    (mapped : (mapper delivery.envelope).run = .ok (.ok message))
    (outcome : Raced (Except Failure Unit)) :
    Attempts mapper delivery (calls + 1)
      (.attempted message delivery.headers outcome :: attempts) where
  few := Nat.succ_le_succ made.few
  same call mem := by
    rcases List.mem_cons.mp mem with rfl | mem
    · exact ⟨message, outcome, mapped, rfl⟩
    · exact made.same call mem

theorem InVain.nil : InVain [] :=
  fun _ mem => absurd mem List.not_mem_nil

theorem InVain.cons {message : Message} {headers : Headers}
    {outcome : Raced (Except Failure Unit)} (vain : InVain attempts)
    (failed : outcome ≠ .finished (.ok ())) :
    InVain (.attempted message headers outcome :: attempts) := by
  intro call mem
  rcases List.mem_cons.mp mem with rfl | mem
  · rcases outcome with (failure | ⟨⟩) | _
    · rfl
    · contradiction
    · rfl
  · exact vain call mem

/-- So many calls of the mapper were made since the start, every one but the first counted as a
retry; if so told, nothing was published. -/
def Tried (mapper : Mapper) (delivery : Delivery) (start : Session (Recorded ω)) (calls : Nat)
    (vain : Prop) (session : Session (Recorded ω)) : Prop :=
  ∃ attempts, Attempts mapper delivery calls attempts ∧ (vain → InVain attempts) ∧
    Spent start attempts (calls - 1) session

/-- An attempt is one more call. -/
theorem publishAttempt_tries {context : Context} (numbered : context.attempt = calls + 1) :
    Leads (Tried mapper delivery start calls True)
      (publishAttempt environment.recorded mapper delivery context)
      (fun outcome =>
        Tried mapper delivery start (calls + 1) (outcome ≠ .finished (.ok ())))
      (Tried mapper delivery start (calls + 1) True) := by
  apply leads_exists
  intro attempts
  apply leads_and
  intro made
  apply leads_and
  intro vain
  -- The retries that are counted are the calls before this one.
  have first (isFirst : ¬1 < context.attempt) (session : Session (Recorded ω))
      (spent : Spent start attempts (calls - 1) session) : Spent start attempts calls session := by
    rwa [show calls - 1 = calls by omega] at spent
  have counts (retries : 1 < context.attempt) :
      Leads (Spent start attempts (calls - 1)) (count .publishRetries)
        (fun _ => Spent start attempts calls) (Tried mapper delivery start (calls + 1) True) := by
    have before : calls - 1 + 1 = calls := by omega
    exact spent_retry.imp (fun _ spent => spent) fun _ _ spent => before ▸ spent
  apply leads_publishAttempt_counted first counts
  · exact fun session spent => ⟨attempts, made.unpublished, vain, spent⟩
  · exact fun failure refused session spent =>
      ⟨attempts, made.unpublished, fun _ => vain trivial, spent⟩
  · intro message mapped
    apply (spent_call fun _ => rfl).imp fun _ spent => spent
    intro outcome session spent
    exact ⟨_, made.cons mapped outcome, fun failed => (vain trivial).cons failed, spent⟩

/-- Attempts since the start, one for each call that was noted. -/
def Noted (mapper : Mapper) (delivery : Delivery) (start : Session (Recorded ω)) (calls : Nat)
    (vain : Prop) : Session (Overseen (Recorded ω)) → Prop :=
  Overseen.Holds fun noted session =>
    noted.length = calls ∧ Tried mapper delivery start calls vain session

variable {vain : Prop}

theorem Noted.imp {other : Prop} {session : Session (Overseen (Recorded ω))}
    (noted : Noted mapper delivery start calls vain session) (imp : other → vain) :
    Noted mapper delivery start calls other session := by
  obtain ⟨length, attempts, made, inVain, spent⟩ := noted
  exact ⟨length, attempts, made, fun holds => inVain (imp holds), spent⟩

theorem noted_lift {action : StateM (Recorded ω) α}
    {stopped : Session (Overseen (Recorded ω)) → Prop}
    (leads : ∀ attempts, Leads (Spent start attempts (calls - 1)) (act action)
      (fun _ => Spent start attempts (calls - 1)) fun _ => False) :
    Leads (Noted mapper delivery start calls vain) (act (Overseen.lift action))
      (fun _ => Noted mapper delivery start calls vain) stopped := by
  apply Overseen.leads_lift
  intro noted
  apply leads_and
  intro length
  apply leads_exists
  intro attempts
  apply leads_and
  intro made
  apply leads_and
  intro inVain
  exact (leads attempts).imp (fun _ spent => spent)
    fun _ _ spent => ⟨length, attempts, made, inVain, spent⟩

/-- An attempt that is overseen is one more call that is noted. -/
theorem noted_operation {context : Context} (numbered : context.attempt = calls + 1) :
    Leads (Noted mapper delivery start calls True)
      ((relay.engine environment.recorded mapper delivery).overseen.operation context)
      (fun outcome =>
        Noted mapper delivery start (calls + 1) (outcome ≠ .finished (.ok ())))
      (Noted mapper delivery start (calls + 1) True) := by
  apply Overseen.leads_operation
  intro noted
  apply leads_and
  intro length
  have longer : (context :: noted).length = calls + 1 := congrArg (· + 1) length
  exact ((publishAttempt_tries numbered).imp (fun _ tried => tried)
    fun _ _ tried => ⟨longer, tried⟩).mono fun _ tried => ⟨longer, tried⟩

/-- The engine has made at least one call and at most so many, and only a result that is a
failure says that they were in vain. -/
def Through (mapper : Mapper) (delivery : Delivery) (start : Session (Recorded ω)) (most : Nat)
    (vain : Prop) (session : Session (Overseen (Recorded ω))) : Prop :=
  ∃ calls, 1 ≤ calls ∧ calls ≤ most ∧ Noted mapper delivery start calls vain session

/-- One call more with each attempt, and no more attempts than retries and the first. -/
def budget (start : Session (Recorded ω)) (environment : Environment ω) (relay : Relay)
    (mapper : Mapper) (delivery : Delivery) :
    (relay.engine environment.recorded mapper delivery).overseen.Outline
      (fun result => Through mapper delivery start (relay.policy.maxRetries + 1)
        (result ≠ .ok ()))
      (Through mapper delivery start (relay.policy.maxRetries + 1) False) where
  trying budget attempt _ session := ∃ calls, attempt = calls + 1 ∧
    calls + budget = relay.policy.maxRetries ∧ Noted mapper delivery start calls True session
  answered budget attempt outcome session := ∃ calls, attempt = calls + 1 ∧
    calls + budget = relay.policy.maxRetries ∧
    Noted mapper delivery start attempt (outcome ≠ .finished (.ok ())) session
  waiting budget attempt _ session := 1 ≤ attempt ∧
    attempt + budget = relay.policy.maxRetries ∧ Noted mapper delivery start attempt True session
  notes result notice := by
    apply leads_exists
    intro calls
    apply leads_and
    intro first
    apply leads_and
    intro last
    exact (noted_lift fun _ => spent_pass _).imp (fun _ noted => noted)
      fun _ _ noted => ⟨calls, first, last, noted⟩
  leaves result sample := by
    apply leads_leave
    rintro session ⟨calls, first, last, length, attempts, made, inVain, spent⟩
    exact ⟨calls, first, last, length, attempts, made, inVain, spent.published, spent.retried⟩
  overflows := by
    rintro budget attempt lastError spent session ⟨calls, rfl, left, noted⟩
    have bounded := relay.policy.maxRetries_lt
    exact ⟨calls, by simp only [UInt32.size] at *; omega, by omega, noted.imp False.elim⟩
  attempts := by
    intro budget attempt lastError
    apply leads_exists
    intro calls
    apply leads_and
    rintro rfl
    apply leads_and
    intro left
    exact ((noted_operation rfl).imp (fun _ noted => noted)
      fun _ _ noted => ⟨calls, rfl, left, noted⟩).mono
      fun _ noted => ⟨calls + 1, by omega, by omega, noted.imp fun _ => trivial⟩
  succeeds := by
    rintro budget attempt value session ⟨calls, rfl, left, noted⟩
    exact ⟨calls + 1, by omega, by omega, noted.imp fun failed => absurd rfl failed⟩
  drops := by
    rintro budget attempt session ⟨calls, rfl, left, noted⟩
    exact ⟨calls + 1, by omega, by omega, noted.imp fun _ => nofun⟩
  refuses := by
    rintro budget attempt failure refused session ⟨calls, rfl, left, noted⟩
    exact ⟨calls + 1, by omega, by omega, noted.imp fun _ => nofun⟩
  exhausts := by
    rintro attempt failure retried session ⟨calls, rfl, left, noted⟩
    exact ⟨calls + 1, by omega, by omega, noted.imp fun _ => nofun⟩
  looks := by
    intro budget attempt failure retried
    apply leads_exists
    intro calls
    apply leads_and
    rintro rfl
    apply leads_and
    intro left
    apply (noted_lift fun _ => spent_other fun _ => rfl).imp (fun _ noted => noted)
    rintro (_ | _) session noted
    · exact ⟨by omega, by omega, noted.imp fun _ => nofun⟩
    · exact ⟨calls + 1, by omega, by omega, noted.imp fun _ => nofun⟩
  warns notice := by
    apply leads_and
    intro first
    apply leads_and
    intro left
    exact (noted_lift fun _ => spent_pass _).imp (fun _ noted => noted)
      fun _ _ noted => ⟨first, left, noted⟩
  hastens := by
    rintro budget attempt failure undelayed session ⟨_, left, noted⟩
    exact ⟨attempt, rfl, left, noted⟩
  pauses := by
    intro budget attempt failure delayed
    apply leads_and
    intro first
    apply leads_and
    intro left
    apply (noted_lift fun _ => spent_other fun _ => rfl).imp (fun _ noted => noted)
    rintro (_ | _) session noted
    · exact ⟨attempt, rfl, left, noted⟩
    · exact ⟨attempt, first, by omega, noted.imp fun _ => trivial⟩

/-- What a run of the engine has spent. -/
theorem engine_spends (environment : Environment ω) (relay : Relay) (mapper : Mapper)
    (delivery : Delivery) {session : Session (Recorded ω)} (spent : Spent start [] 0 session) :
    let engine := relay.engine environment.recorded mapper delivery
    let calls := (engine.calls session).length
    1 ≤ calls ∧ calls ≤ relay.policy.maxRetries + 1 ∧
      ∃ attempts, Attempts mapper delivery calls attempts ∧
        ((∃ reason, (engine.run session).1 = .ok (.error reason)) → InVain attempts) ∧
        Spent start attempts (calls - 1) (engine.run session).2 := by
  intro engine calls
  have led := (budget start environment relay mapper delivery).leads_run (Overseen.start session)
    ⟨0, rfl, Nat.zero_add _, rfl, [], .none, fun _ => .nil, spent⟩
  revert led
  unfold calls Engine.calls
  rw [engine.run_eq_overseen]
  rcases engine.overseen.run (Overseen.start session) with ⟨overflow | result, later⟩
  · rintro ⟨calls, first, most, rfl, attempts, made, _, spent⟩
    exact ⟨first, most, attempts, made, nofun, spent⟩
  · rintro ⟨calls, first, most, rfl, attempts, made, inVain, spent⟩
    refine ⟨first, most, attempts, made, ?_, spent⟩
    rintro ⟨reason, failed⟩
    apply inVain
    rw [Except.ok.inj failed]
    exact nofun

/-! ## What a delivery has spent -/

/-- What is spent on a delivery that a mapper is for: the mapper is called at least once and at
most so often, and a dead letter is published only if no message was. -/
structure Spending (relay : Relay) (mapper : Mapper) (delivery : Delivery) (calls : Nat)
    (letters attempts : List Happening) : Prop where
  first : 1 ≤ calls
  most : calls ≤ relay.policy.maxRetries + 1
  tries : Attempts mapper delivery calls attempts
  setsAside : relay.Letters delivery.record letters
  vain : letters ≠ [] → InVain attempts

theorem settleSurrendered_spends (environment : Environment ω) (relay : Relay)
    (delivery : Delivery) (surrender : Surrender Failure) :
    Leads (Spent start made retries)
      (relay.settleSurrendered environment.recorded delivery surrender)
      (fun _ => relay.SetAside delivery.record start made retries) broken := by
  unfold settleSurrendered
  cases surrender with
  | cancelled attempts last =>
      apply (spent_pass _).bind
      intro _
      exact (abandon_spends environment delivery).imp (fun _ spent => spent)
        fun _ _ spent => spent.setAside
  | exhausted attempts failure =>
      exact (spent_pass _).bind fun _ =>
        setAside_spends environment relay delivery.record delivery.headers failure
  | notRetryable attempts failure =>
      exact (spent_pass _).bind fun _ =>
        setAside_spends environment relay delivery.record delivery.headers failure

theorem process_spends (resolved : relay.registry.resolve delivery.envelope.eventType = .ok mapper)
    {session : Session (Recorded ω)} (spent : Spent start [] 0 session) :
    let calls := ((relay.engine environment.recorded mapper delivery).calls session).length
    ∃ letters attempts, Spending relay mapper delivery calls letters attempts ∧
      Spent start (letters ++ attempts) (calls - 1)
        (relay.process environment.recorded delivery session).2 := by
  intro calls
  obtain ⟨first, most, attempts, made, inVain, spent⟩ :=
    engine_spends environment relay mapper delivery spent
  have unsent : Spending relay mapper delivery calls [] attempts :=
    ⟨first, most, made, .none relay delivery.record, absurd rfl⟩
  unfold process
  simp only [resolved]
  rw [bind_apply]
  revert inVain spent
  rcases (relay.engine environment.recorded mapper delivery).run session with
    ⟨overflow | surrender | ⟨⟩, later⟩
  · exact fun _ spent => ⟨[], attempts, unsent, spent⟩
  · intro inVain spent
    obtain ⟨letters, setsAside, spent⟩ :=
      (settleSurrendered_spends environment relay delivery surrender).reached spent
    exact ⟨letters, attempts,
      ⟨first, most, made, setsAside, fun _ => inVain ⟨surrender, rfl⟩⟩, spent⟩
  · intro _ spent
    exact ⟨[], attempts, unsent, (settlePublished_spends environment delivery).reached spent⟩

end Engine

/-! ## What there is to publish -/

/-- What there is to publish of a record. -/
inductive Finding
  /-- It is a tombstone, or it is skipped. -/
  | nothing
  /-- It cannot be decoded, or nothing maps it. -/
  | unusable
  /-- It holds an event that a mapper is for. -/
  | mapped (envelope : Envelope) (mapper : Mapper)

/-- What a relay finds in a record at a time. -/
def finding (relay : Relay) (now : Instant) (record : SourceRecord) : Finding :=
  if record.isTombstone then .nothing
  else
    match relay.decoder now record with
    | .ok (.skipped _) => .nothing
    | .error _ => .unusable
    | .ok (.event envelope) =>
        match relay.registry.resolve envelope.eventType with
        | .error _ => .unusable
        | .ok mapper => .mapped envelope mapper

/-- What is found follows from how the record is decoded and from what maps its event. -/
theorem finding_cases (relay : Relay) (now : Instant) (record : SourceRecord) :
    (relay.finding now record = .nothing ∧
        (record.isTombstone = true ∨ record.isTombstone = false ∧
          ∃ reason, relay.decoder now record = .ok (.skipped reason))) ∨
      (relay.finding now record = .unusable ∧ record.isTombstone = false ∧
        ∃ failure, relay.decoder now record = .error failure) ∨
      record.isTombstone = false ∧ ∃ envelope,
        relay.decoder now record = .ok (.event envelope) ∧
          ((relay.finding now record = .unusable ∧
              ∃ failure, relay.registry.resolve envelope.eventType = .error failure) ∨
            ∃ mapper, relay.finding now record = .mapped envelope mapper ∧
              relay.registry.resolve envelope.eventType = .ok mapper) := by
  unfold finding
  rcases held : record.isTombstone
  · rcases decoded : relay.decoder now record with failure | envelope | reason
    · exact .inr (.inl ⟨rfl, rfl, failure, rfl⟩)
    · refine .inr (.inr ⟨rfl, envelope, rfl, ?_⟩)
      rcases resolved : relay.registry.resolve envelope.eventType with failure | mapper
      · exact .inl ⟨by simp [resolved], failure, rfl⟩
      · exact .inr ⟨mapper, by simp [resolved], rfl⟩
    · exact .inl ⟨rfl, .inr ⟨rfl, reason, rfl⟩⟩
  · exact .inl ⟨rfl, .inl rfl⟩

/-! ## Polls -/

section Polls

variable {environment : Environment ω} {relay : Relay} {session moment : Session (Recorded ω)}
  {record : SourceRecord}

/-- A record that arrives is taken in, the publisher not having been called. -/
theorem receive_of_arrives
    (arrives : (environment.log.poll relay.pollTimeout session.world.world).1 =
      .ok (.record record)) :
    ∃ moment, Spent session [] 0 moment ∧
      moment.world.world = (environment.log.poll relay.pollTimeout session.world.world).2 ∧
      receive environment.recorded relay.decoder relay.forwarder relay.pollTimeout session =
        takeIn environment.recorded relay.decoder relay.forwarder record moment := by
  refine ⟨{ session with world := (keep .polled (environment.log.poll relay.pollTimeout)
    session.world).2 }, ⟨rfl, rfl⟩, rfl, ?_⟩
  have answer : (environment.recorded.log.poll relay.pollTimeout session.world).1 =
      .ok (.record record) := arrives
  rw [receive, bind_apply, act_apply, answer]
  rfl

/-- What a relay does with a record that is no tombstone depends on what is decoded at the time
that it is told. -/
theorem takeIn_of_content (held : record.isTombstone = false) (spent : Spent start [] 0 moment) :
    ∃ told, Spent start [] 0 told ∧
      takeIn environment.recorded relay.decoder relay.forwarder record moment =
        (match relay.decoder (environment.now moment.world.world).1 record with
        | .ok (.event envelope) => pure (.ok (.delivered { record, envelope }))
        | .ok (.skipped reason) => do
            act (environment.recorded.note (Report.skipped record.coordinates reason))
            return asReceived (← skip environment.recorded record.coordinates)
        | .error failure => do
            count .decodeFailures
            act (environment.recorded.note (Report.undecodable record.coordinates failure))
            return asReceived (← setAside environment.recorded relay.forwarder record
              record.headers failure) : Run (Recorded ω) (Except Failure Received)) told := by
  refine ⟨{ moment with
    world := (keep .told environment.now moment.world).2,
    counters := moment.counters.add .received 1 }, ⟨spent.published, ?_⟩, ?_⟩
  · simpa using spent.retried
  · rw [takeIn, bind_apply, count_apply]
    dsimp only
    rw [if_neg (by simp [held]), bind_apply, act_apply]
    rfl

/-- A record that says nothing is skipped. -/
theorem takeIn_of_quiet
    (quiet : record.isTombstone = true ∨ record.isTombstone = false ∧
      ∃ reason, relay.decoder (environment.now moment.world.world).1 record =
        .ok (.skipped reason)) (spent : Spent start [] 0 moment) :
    ∃ told, Spent start [] 0 told ∧
      takeIn environment.recorded relay.decoder relay.forwarder record moment =
        (do return asReceived (← skip environment.recorded record.coordinates)) told := by
  rcases quiet with empty | ⟨held, reason, decoded⟩
  · refine ⟨{ moment with
      world := (pass (environment.note (Report.tombstone record.coordinates)) moment.world).2,
      counters := moment.counters.add .received 1 }, ⟨spent.published, ?_⟩, ?_⟩
    · simpa using spent.retried
    · rw [takeIn, bind_apply, count_apply]
      dsimp only
      rw [if_pos empty]
      rfl
  · obtain ⟨told, spent, taken⟩ := takeIn_of_content held spent
    rw [taken, decoded]
    exact ⟨{ told with world := (pass (environment.note
      (Report.skipped record.coordinates reason)) told.world).2 },
      ⟨spent.published, spent.retried⟩, rfl⟩

/-- A record that cannot be decoded is set aside. -/
theorem takeIn_of_undecoded {failure : Failure} (held : record.isTombstone = false)
    (undecoded : relay.decoder (environment.now moment.world.world).1 record = .error failure)
    (spent : Spent start [] 0 moment) :
    ∃ told, Spent start [] 0 told ∧
      takeIn environment.recorded relay.decoder relay.forwarder record moment =
        (do return asReceived (← setAside environment.recorded relay.forwarder record
          record.headers failure)) told := by
  obtain ⟨told, spent, taken⟩ := takeIn_of_content held spent
  rw [taken, undecoded]
  refine ⟨{ told with
    world := (pass (environment.note (Report.undecodable record.coordinates failure))
      told.world).2,
    counters := told.counters.add .decodeFailures 1 }, ⟨spent.published, ?_⟩, rfl⟩
  simpa using spent.retried

/-- Any other record is delivered. -/
theorem takeIn_of_decoded {envelope : Envelope} (held : record.isTombstone = false)
    (decoded : relay.decoder (environment.now moment.world.world).1 record =
      .ok (.event envelope)) (spent : Spent start [] 0 moment) :
    ∃ told, Spent start [] 0 told ∧
      takeIn environment.recorded relay.decoder relay.forwarder record moment =
        (.ok (.ok (.delivered { record, envelope })), told) := by
  obtain ⟨told, spent, taken⟩ := takeIn_of_content held spent
  rw [taken, decoded]
  exact ⟨told, spent, rfl⟩

/-- A record that is settled as it comes in takes no mapper. -/
theorem pollOnce_of_settled {program : Run (Recorded ω) (Except Failure Disposition)}
    {told : Session (Recorded ω)}
    (received : receive environment.recorded relay.decoder relay.forwarder relay.pollTimeout
      session = (do return asReceived (← program)) told) :
    (relay.pollOnce environment.recorded session).2 = (program told).2 ∧
      relay.mapperCalls environment.recorded session = 0 := by
  rw [pollOnce, mapperCalls, bind_apply, received, bind_apply]
  rcases program told with ⟨overflow | failure | disposition, later⟩
  · exact ⟨rfl, rfl⟩
  · exact ⟨rfl, rfl⟩
  · exact ⟨rfl, rfl⟩

/-- A delivery is relayed, and what is spent on the poll is what that spends. -/
theorem pollOnce_of_delivered {delivery : Delivery} {told : Session (Recorded ω)}
    (received : receive environment.recorded relay.decoder relay.forwarder relay.pollTimeout
      session = (.ok (.ok (.delivered delivery)), told)) :
    (relay.pollOnce environment.recorded session).2 =
      (relay.process environment.recorded delivery told).2 := by
  rw [pollOnce, bind_apply, received]
  dsimp only
  rw [bind_apply]
  rcases relay.process environment.recorded delivery told with
    ⟨overflow | failure | disposition, later⟩
  · rfl
  · rfl
  · rfl

/-- Nothing maps a delivery: it is set aside, and no mapper is called. -/
theorem pollOnce_of_unmapped {delivery : Delivery} {told : Session (Recorded ω)}
    {failure : Failure}
    (received : receive environment.recorded relay.decoder relay.forwarder relay.pollTimeout
      session = (.ok (.ok (.delivered delivery)), told))
    (unmapped : relay.registry.resolve delivery.envelope.eventType = .error failure)
    (spent : Spent start [] 0 told) :
    relay.SetAside delivery.record start [] 0 (relay.pollOnce environment.recorded session).2 ∧
      relay.mapperCalls environment.recorded session = 0 := by
  have processed : Leads (Spent start [] 0) (relay.process environment.recorded delivery)
      (fun _ => relay.SetAside delivery.record start [] 0)
      (relay.SetAside delivery.record start [] 0) := by
    unfold process
    simp only [unmapped]
    apply (spent_count (by decide)).bind
    intro _
    exact (spent_pass _).bind fun _ =>
      setAside_spends environment relay delivery.record delivery.headers failure
  rw [pollOnce_of_delivered received, mapperCalls, received]
  simp only [unmapped]
  exact ⟨processed.reached spent, trivial⟩

/-- A mapper is for a delivery: it is relayed within its budget. -/
theorem pollOnce_of_mapped {delivery : Delivery} {told : Session (Recorded ω)} {mapper : Mapper}
    (received : receive environment.recorded relay.decoder relay.forwarder relay.pollTimeout
      session = (.ok (.ok (.delivered delivery)), told))
    (resolved : relay.registry.resolve delivery.envelope.eventType = .ok mapper)
    (spent : Spent start [] 0 told) :
    ∃ letters attempts,
      Spending relay mapper delivery (relay.mapperCalls environment.recorded session) letters
        attempts ∧
      Spent start (letters ++ attempts) (relay.mapperCalls environment.recorded session - 1)
        (relay.pollOnce environment.recorded session).2 := by
  rw [pollOnce_of_delivered received, mapperCalls, received]
  simp only [resolved]
  exact process_spends resolved spent

/-- A poll that calls no mapper does not depend on the mappers, but only on which event types
have one: it leads to the same with others in their place. -/
theorem pollOnce_eq_of_uncalled (uncalled : relay.mapperCalls environment.recorded session = 0)
    {other : Registry} (named : other.eventTypes = relay.registry.eventTypes) :
    { relay with registry := other }.pollOnce environment.recorded session =
      relay.pollOnce environment.recorded session := by
  rw [pollOnce, pollOnce, bind_apply, bind_apply]
  unfold mapperCalls at uncalled
  revert uncalled
  rcases receive environment.recorded relay.decoder relay.forwarder relay.pollTimeout session with
    ⟨overflow | failure | _ | disposition | delivery, later⟩
  · exact fun _ => rfl
  · exact fun _ => rfl
  · exact fun _ => rfl
  · exact fun _ => rfl
  · dsimp only
    rcases resolved : relay.registry.resolve delivery.envelope.eventType with failure | mapper
    · intro _
      have unmapped : other.resolve delivery.envelope.eventType = .error failure := by
        rw [Registry.resolve_eq_error_iff, named]
        exact Registry.resolve_eq_error_iff.mp resolved
      unfold process
      simp only [resolved, unmapped]
    · intro uncalled
      obtain ⟨called, -⟩ := engine_spends environment relay mapper delivery (.none later)
      exact absurd called (by simp [uncalled])

end Polls

/-! ## The budget of a delivery -/

/-- How many retries settings allow. -/
def retriesOf (settings : Settings) : Nat :=
  if settings.retryStrategy = .never then 0 else settings.retryLimit.toNat

variable {relay : Relay} {settings : Settings} {registry : Registry} {decoder : Outbox.Decoder}

theorem maxRetries_of_ofSettings (accepted : ofSettings settings registry decoder = .ok relay) :
    relay.policy.maxRetries = retriesOf settings := by
  obtain ⟨-, policy, made, rfl⟩ := ofSettings_eq_ok_iff.mp accepted
  exact Settings.maxRetries_of_retryPolicy made

/-- What one delivery may publish, whatever the publisher answers and whenever shutdown is asked
for. Where no mapper is called, the delivery does not depend on what the mappers do. -/
theorem published_within_budget (accepted : ofSettings settings registry decoder = .ok relay)
    (environment : Environment ω) (session : Session (Recorded ω)) (record : SourceRecord)
    (arrives : (environment.log.poll relay.pollTimeout session.world.world).1 =
      .ok (.record record)) :
    let now := (environment.now (environment.log.poll relay.pollTimeout session.world.world).2).1
    let later := (relay.pollOnce environment.recorded session).2
    let calls := relay.mapperCalls environment.recorded session
    (calls = 0 → ∀ other : Registry, other.eventTypes = relay.registry.eventTypes →
      { relay with registry := other }.pollOnce environment.recorded session =
        relay.pollOnce environment.recorded session) ∧
    ∃ letters attempts, later.world.history.publisherCalls =
        letters ++ attempts ++ session.world.history.publisherCalls ∧
      (letters.length ≤ 1 ∧ (∀ call ∈ letters, call.Forwards relay record) ∧
        (settings.deadLetterEnabled = false → letters = [])) ∧
      match relay.finding now record with
      | .nothing => letters = [] ∧ attempts = [] ∧ calls = 0 ∧
          later.counters.publishRetries = session.counters.publishRetries
      | .unusable => attempts = [] ∧ calls = 0 ∧
          later.counters.publishRetries = session.counters.publishRetries
      | .mapped envelope mapper =>
          1 ≤ calls ∧ calls ≤ retriesOf settings + 1 ∧ attempts.length ≤ calls ∧
          (∀ call ∈ attempts, ∃ message outcome, (mapper envelope).run = .ok (.ok message) ∧
            call = .attempted message (record.propagatedHeaders envelope) outcome) ∧
          (letters ≠ [] → ∀ call ∈ attempts, call.isSuccess = false) ∧
          later.counters.publishRetries = session.counters.publishRetries + (calls - 1) := by
  intro now later calls
  refine ⟨fun uncalled _ named => pollOnce_eq_of_uncalled uncalled named, ?_⟩
  have enabled : relay.forwarder.enabled = settings.deadLetterEnabled := by
    rw [(ofSettings_eq_ok accepted).2]
    rfl
  have aside {letters : List Happening} (setAside : relay.Letters record letters) :
      letters.length ≤ 1 ∧ (∀ call ∈ letters, call.Forwards relay record) ∧
        (settings.deadLetterEnabled = false → letters = []) :=
    ⟨setAside.once, setAside.forwards, enabled ▸ setAside.disabled⟩
  have most : relay.policy.maxRetries = retriesOf settings := maxRetries_of_ofSettings accepted
  obtain ⟨moment, spent, world, received⟩ := receive_of_arrives arrives
  have same : (environment.now moment.world.world).1 = now := by rw [world]
  rcases relay.finding_cases now record with
    ⟨found, quiet⟩ | ⟨found, held, failure, undecoded⟩ | ⟨held, envelope, decoded, mapping⟩
  · rw [← same] at quiet
    obtain ⟨told, spent, taken⟩ := takeIn_of_quiet quiet spent
    obtain ⟨ended, uncalled⟩ := pollOnce_of_settled (received.trans taken)
    have skipped := (skip_spends environment record.coordinates).reached spent
    rw [← ended] at skipped
    refine ⟨[], [], skipped.published, aside (.none relay record), ?_⟩
    rw [found]
    exact ⟨rfl, rfl, uncalled, skipped.retried⟩
  · rw [← same] at undecoded
    obtain ⟨told, spent, taken⟩ := takeIn_of_undecoded held undecoded spent
    obtain ⟨ended, uncalled⟩ := pollOnce_of_settled (received.trans taken)
    obtain ⟨letters, setAside, spent⟩ :=
      (setAside_spends environment relay record record.headers failure).reached spent
    rw [← ended] at spent
    refine ⟨letters, [], spent.published, aside setAside, ?_⟩
    rw [found]
    exact ⟨rfl, uncalled, spent.retried⟩
  · rw [← same] at decoded
    obtain ⟨told, spent, taken⟩ := takeIn_of_decoded held decoded spent
    rcases mapping with ⟨found, failure, unmapped⟩ | ⟨mapper, found, resolved⟩
    · obtain ⟨⟨letters, setAside, spent⟩, uncalled⟩ :=
        pollOnce_of_unmapped (received.trans taken) unmapped spent
      refine ⟨letters, [], spent.published, aside setAside, ?_⟩
      rw [found]
      exact ⟨rfl, uncalled, spent.retried⟩
    · obtain ⟨letters, attempts, spending, spent⟩ :=
        pollOnce_of_mapped (received.trans taken) resolved spent
      refine ⟨letters, attempts, spent.published, aside spending.setsAside, ?_⟩
      rw [found]
      exact ⟨spending.first, most ▸ spending.most, spending.tries.few, spending.tries.same,
        spending.vain, spent.retried⟩

/-- A publisher that never answers in time: with one retry there are two attempts, and after
them a dead letter. -/
theorem published_within_budget_timedOut :
    let settings : Settings := { retryStrategy := .immediate, retryLimit := 1, ignoreKinds := [] }
    let relay : Relay :=
      { passing with
        policy := ⟨.immediate, 1, { ignore := Settings.structuralKinds }⟩
        forwarder := .ofSettings settings
        pollTimeout := settings.pollTimeout
        redeliveryBackoff := settings.redeliveryBackoff }
    let record : SourceRecord := ⟨⟨"outbox", 0, 0⟩, none, some [1], ∅, none⟩
    let environment := (Content.single ⟨"outbox", 0⟩ [record]).environment
      { Whims.smooth ⟨"outbox", 0⟩ with
        race := fun _ _ => pure (.finished (.error (.publish "orders" .timeout "slow"))) }
    let session : Session (Recorded (Course Unit)) := { world := { world := opening.world } }
    ofSettings settings passing.registry passing.decoder = .ok relay ∧
      (environment.log.poll relay.pollTimeout session.world.world).1 = .ok (.record record) ∧
      ∃ letters attempts,
        (relay.pollOnce environment.recorded session).2.world.history.publisherCalls =
          letters ++ attempts ∧ letters.length = 1 ∧ attempts.length = 2 := by
  intro settings relay record environment session
  have sound : settings.fault? = none := by decide +kernel
  have accepted : ofSettings settings passing.registry passing.decoder = .ok relay := by
    rw [ofSettings, Settings.validate, sound]
    rfl
  have arrives : (environment.log.poll relay.pollTimeout session.world.world).1 =
      .ok (.record record) := rfl
  refine ⟨accepted, arrives, ?_⟩
  obtain ⟨_, letters, attempts, made, ⟨once, _⟩, _, most, few, _⟩ :=
    published_within_budget accepted environment session record arrives
  have total : (relay.pollOnce environment.recorded session).2.world.history.publisherCalls.length =
      3 := by decide +kernel
  rw [show session.world.history.publisherCalls = [] from rfl, List.append_nil] at made
  rw [made, List.length_append] at total
  have allowed : retriesOf settings = 1 := rfl
  exact ⟨letters, attempts, made, by omega, by omega⟩

end EventRelay.Relay

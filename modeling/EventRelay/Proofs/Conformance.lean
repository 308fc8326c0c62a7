import EventRelay.Proofs.Outlines
import EventRelay.Proofs.Phases

/-!
# Relays move from phase to phase

Whatever a relay works with, what it does is a sequence of moves: each function of
the relay is taken through once, and its assertion says from which phase to which
it leads. Nothing else about these functions is needed to speak of whole runs.
-/

namespace EventRelay.Relay

open Run

/-- A relay that is observed through the history of its world, from a moment on. -/
structure Observer (ω : Type) where
  relay : Relay
  history : ω → History
  allowed : History → Happening → Prop
  start : History
  zero : Counters

namespace Observer

variable {ω α : Type} (observer : Observer ω)

/-- The relay has moved to a phase. -/
def At (phase : Phase) (session : Session ω) : Prop :=
  Follows observer.relay observer.allowed observer.start observer.zero
    (observer.history session.world) session.counters phase

/-- The relay has moved to some phase. -/
def Somewhere (session : Session ω) : Prop :=
  ∃ phase, observer.At phase session

/-- Something happened in a phase, and the relay may be taken to have moved by it. -/
def Happened (phase : Phase) (happening : Happening) (session : Session ω) : Prop :=
  ∀ next, Moves observer.relay phase happening next → observer.At next session

/-- Where settling a record has led. -/
def Settled : Except Failure Disposition → Session ω → Prop
  | .ok .abandoned, session => ∃ record, observer.At (.abandoned record) session
  | .ok _, session => observer.At .ready session
  | .error failure, session =>
      observer.At .ready session ∨
        failure.isFatal = true ∧ ∃ record, observer.At (.stuck record) session

/-- Where polling for a record has led. -/
def TakenIn : Except Failure Received → Session ω → Prop
  | .ok .idle, session => observer.At .ready session
  | .ok (.settled disposition), session => observer.Settled (.ok disposition) session
  | .ok (.delivered delivery), session =>
      observer.At (.opened delivery.record delivery.envelope) session
  | .error failure, session => observer.Settled (.error failure) session

/-- Where polling for a record and settling it has led. -/
def Handled : Except Failure (Option Disposition) → Session ω → Prop
  | .ok none, session => observer.At .ready session
  | .ok (some disposition), session => observer.Settled (.ok disposition) session
  | .error failure, session => observer.Settled (.error failure) session

/-- Nothing is in hand, or what is was abandoned. -/
def AtRest (session : Session ω) : Prop :=
  observer.At .ready session ∨ ∃ record, observer.At (.abandoned record) session

variable {observer}

theorem At.somewhere {phase : Phase} {session : Session ω} (at_ : observer.At phase session) :
    observer.Somewhere session :=
  ⟨phase, at_⟩

variable {phase next : Phase} {broken : Session ω → Prop} {after : α → Session ω → Prop}

theorem leads_tells {action : StateM ω α} {happening : α → Happening}
    (tells : Tells observer.history observer.allowed action happening) :
    Leads (observer.At phase) (act action)
      (fun answer => observer.Happened phase (happening answer)) broken :=
  leads_act fun session at_ _ moves => Follows.adds at_ (tells session.world) moves

theorem leads_silent {action : StateM ω α} (silent : Silent observer.history action) :
    Leads (observer.At phase) (act action) (fun _ => observer.At phase) broken :=
  leads_act fun session at_ => Follows.lapses at_ (silent session.world)

theorem leads_counts {counter : Counter} (counts : Counts observer.relay phase counter next) :
    Leads (observer.At phase) (count counter) (fun _ => observer.At next) broken :=
  leads_count fun _ at_ => Follows.counts at_ counts

theorem leads_sample (sample : Retry.Sample) :
    Leads (observer.At phase) (leave sample) (fun _ => observer.At phase) broken :=
  leads_leave fun _ at_ => at_

theorem leads_move {happening : Happening} {program : Run ω α}
    (moves : Moves observer.relay phase happening next)
    (leads : Leads (observer.At next) program after broken) :
    Leads (observer.Happened phase happening) program after broken :=
  leads.imp (fun _ happened => happened next moves) fun _ _ holds => holds

theorem leads_find {program : Run ω α} (finds : Finds observer.relay phase next)
    (leads : Leads (observer.At next) program after broken) :
    Leads (observer.At phase) program after broken :=
  leads.imp (fun _ at_ => Follows.finds at_ finds) fun _ _ holds => holds

variable {environment : Environment ω}
  (keeps : environment.Keeps observer.history observer.allowed)

/-! ## Settling -/

include keeps in
theorem commit_leads (record : SourceRecord) (counter : Counter) :
    Leads (observer.At (.done record counter)) (commit environment record.coordinates)
      (fun answer session =>
        match answer with
        | .ok () => observer.At (.owing counter) session
        | .error _ => observer.At .ready session)
      observer.Somewhere := by
  unfold commit
  apply (leads_tells (keeps.commit record.coordinates)).bind
  rintro (failure | ⟨⟩)
  · apply leads_move (.decline record counter failure)
    apply (leads_counts (.owed .commitFailures)).bind
    intro _
    apply (leads_silent (keeps.note _)).bind
    intro _
    exact leads_pure fun _ at_ => at_
  · exact leads_move (.commit record counter) (leads_pure fun _ at_ => at_)

include keeps in
theorem redeliver_leads (record : SourceRecord) :
    Leads (observer.At (.stranded record)) (redeliver environment record.coordinates)
      observer.Settled observer.Somewhere := by
  unfold redeliver
  apply (leads_tells (keeps.rewind record.coordinates)).bind
  rintro (failure | ⟨⟩)
  · exact leads_move (.stick record failure) (leads_pure fun _ at_ => .inr ⟨rfl, record, at_⟩)
  · apply leads_move (.rewind record)
    apply (leads_counts (.owed .pendingRedeliveries)).bind
    intro _
    exact leads_pure fun _ at_ => at_

include keeps in
theorem skip_leads (record : SourceRecord) :
    Leads (observer.At (.done record .tombstones)) (skip environment record.coordinates)
      observer.Settled observer.Somewhere := by
  unfold skip
  apply (commit_leads keeps record .tombstones).bind
  rintro (failure | ⟨⟩)
  · exact leads_pure fun _ at_ => .inl at_
  · apply (leads_counts (.owed .tombstones)).bind
    intro _
    exact leads_pure fun _ at_ => at_

include keeps in
theorem forward_leads (record : SourceRecord) (headers : Headers) (failure : Failure) :
    Leads (observer.At (.spoiled record))
      (act (observer.relay.forwarder.forward environment record headers failure))
      (fun answer session =>
        match answer with
        | .ok _ => observer.At (.done record .deadLettered) session
        | .error _ => observer.At (.unforwarded record) session)
      observer.Somewhere := by
  unfold Forwarder.forward
  rw [act_bind]
  apply (leads_silent keeps.freshId).bind
  intro id
  rw [act_bind]
  apply (leads_tells keeps.now).bind
  intro now
  apply leads_move (.date record now)
  rw [act_bind]
  apply (leads_tells (keeps.publish _ _)).bind
  rintro (refusal | ⟨⟩)
  · apply leads_move (.refuse refusal ⟨id, now, headers, failure, rfl⟩)
    rw [act_bind]
    apply (leads_silent (keeps.note _)).bind
    intro _
    exact leads_pure fun _ at_ => at_
  · apply leads_move (.setAside ⟨id, now, headers, failure, rfl⟩)
    rw [act_bind]
    apply (leads_silent (keeps.note _)).bind
    intro _
    exact leads_pure fun _ at_ => at_

include keeps in
theorem setAside_leads (record : SourceRecord) (headers : Headers) (failure : Failure) :
    Leads (observer.At (.spoiled record))
      (setAside environment observer.relay.forwarder record headers failure)
      observer.Settled observer.Somewhere := by
  unfold setAside
  split
  · apply (forward_leads keeps record headers failure).bind
    rintro (refusal | letter)
    · apply (leads_counts (.unforwarded record)).bind
      intro _
      exact redeliver_leads keeps record
    · apply (commit_leads keeps record .deadLettered).bind
      rintro (refusal | ⟨⟩)
      · exact leads_pure fun _ at_ => .inl at_
      · apply (leads_counts (.owed .deadLettered)).bind
        intro _
        exact leads_pure fun _ at_ => at_
  · rename_i disabled
    apply (leads_silent (keeps.note _)).bind
    intro _
    have off : observer.relay.forwarder.enabled = false := by simpa using disabled
    exact leads_find (.disabled record off) (redeliver_leads keeps record)

/-! ## Taking records in -/

theorem leads_asReceived {before : Session ω → Prop} {program : Run ω (Except Failure Disposition)}
    (leads : Leads before program observer.Settled observer.Somewhere) :
    Leads before (program >>= fun result => pure (asReceived result)) observer.TakenIn
      observer.Somewhere := by
  apply leads.bind
  rintro (failure | disposition)
  · exact leads_pure fun _ settled => settled
  · exact leads_pure fun _ settled => settled

include keeps in
theorem takeIn_leads (record : SourceRecord) :
    Leads (observer.At (.polled record))
      (takeIn environment observer.relay.decoder observer.relay.forwarder record)
      observer.TakenIn observer.Somewhere := by
  unfold takeIn
  apply (leads_counts (.received record)).bind
  intro _
  split
  · rename_i tombstone
    apply (leads_silent (keeps.note _)).bind
    intro _
    exact leads_find (.tombstone tombstone) (leads_asReceived (skip_leads keeps record))
  · apply (leads_tells keeps.now).bind
    intro now
    rcases decoded : observer.relay.decoder now record with failure | envelope | reason
    · apply leads_move (.spoil decoded)
      apply (leads_counts (.undecoded record)).bind
      intro _
      apply (leads_silent (keeps.note _)).bind
      intro _
      exact leads_asReceived (setAside_leads keeps record record.headers failure)
    · exact leads_move (.unpack decoded) (leads_pure fun _ at_ => at_)
    · apply leads_move (.skip decoded)
      apply (leads_silent (keeps.note _)).bind
      intro _
      exact leads_asReceived (skip_leads keeps record)

include keeps in
theorem receive_leads (timeout : Duration) :
    Leads (observer.At .ready)
      (receive environment observer.relay.decoder observer.relay.forwarder timeout)
      observer.TakenIn observer.Somewhere := by
  unfold receive
  apply (leads_tells (keeps.poll timeout)).bind
  rintro (failure | record | _ | partition)
  · exact leads_move (.idle (by simp)) (leads_pure fun _ at_ => .inl at_)
  · exact leads_move (.receive record) (takeIn_leads keeps record)
  · exact leads_move (.idle (by simp)) (leads_pure fun _ at_ => at_)
  · exact leads_move (.idle (by simp)) (leads_pure fun _ at_ => at_)

/-! ## Publishing -/

/-- Where an attempt to publish has led. -/
def Attempted (observer : Observer ω) (delivery : Delivery) :
    Raced (Except Failure Unit) → Session ω → Prop
  | .finished (.ok ()) => observer.At (.done delivery.record .published)
  | .finished (.error _) => observer.At (.opened delivery.record delivery.envelope)
  | .cutOff => observer.At (.abandoned delivery.record)

/-- Where the attempts to publish have led. -/
def Tried (observer : Observer ω) (delivery : Delivery) :
    Except (Retry.Surrender Failure) Unit → Session ω → Prop
  | .ok () => observer.At (.done delivery.record .published)
  | .error (.cancelled _ _) => observer.At (.abandoned delivery.record)
  | .error _ => observer.At (.opened delivery.record delivery.envelope)

section Engine

variable {mapper : Mapper} {delivery : Delivery}
  (resolved : observer.relay.registry.resolve delivery.envelope.eventType = .ok mapper)

include keeps resolved in
theorem publishAttempt_leads (context : Retry.Context) :
    Leads (observer.At (.opened delivery.record delivery.envelope))
      (publishAttempt environment mapper delivery context) (observer.Attempted delivery)
      observer.Somewhere := by
  apply leads_publishAttempt (leads_counts (.retry delivery.record delivery.envelope))
  · exact fun _ at_ => at_.somewhere
  · exact fun _ _ _ at_ => at_
  · intro message mapped
    have makes : observer.relay.Makes delivery.envelope message := ⟨mapper, resolved, mapped⟩
    apply (leads_tells (keeps.race message delivery.headers)).imp (fun _ at_ => at_)
    rintro ((failure | ⟨⟩) | _) session happened
    · exact happened _ (.miss failure makes)
    · exact happened _ (.publish makes)
    · exact happened _ (.cutOff makes)

/-- The attempts of a relay lead to a published message, to an abandoned delivery, or
back to where they started. -/
def outline (keeps : environment.Keeps observer.history observer.allowed)
    (resolved : observer.relay.registry.resolve delivery.envelope.eventType = .ok mapper) :
    (observer.relay.engine environment mapper delivery).Outline (observer.Tried delivery)
      observer.Somewhere where
  trying _ _ _ := observer.At (.opened delivery.record delivery.envelope)
  answered _ _ := observer.Attempted delivery
  waiting _ _ _ := observer.At (.opened delivery.record delivery.envelope)
  notes result notice := by
    rcases result with (_ | _ | _) | ⟨⟩ <;> exact leads_silent (keeps.note notice)
  leaves result sample := by
    rcases result with (_ | _ | _) | ⟨⟩ <;> exact leads_sample sample
  overflows _ _ at_ := at_.somewhere
  attempts _ _ _ := publishAttempt_leads keeps resolved _
  succeeds _ at_ := at_
  drops _ at_ := at_
  refuses _ _ at_ := at_
  exhausts _ _ at_ := at_
  looks _ := by
    apply (leads_tells keeps.isTriggered).imp (fun _ at_ => at_)
    rintro (_ | _) session happened
    · exact happened _ (.lookOn delivery.record delivery.envelope)
    · exact happened _ (.cancel delivery.record delivery.envelope)
  warns notice := leads_silent (keeps.note notice)
  hastens _ _ at_ := at_
  pauses _ := by
    apply (leads_tells (keeps.pause _)).imp (fun _ at_ => at_)
    rintro (_ | _) session happened
    · exact happened _ (.waitOn delivery.record delivery.envelope)
    · exact happened _ (.interrupt delivery.record delivery.envelope)

end Engine

include keeps in
theorem abandon_leads (delivery : Delivery) :
    Leads (observer.At (.abandoned delivery.record))
      (delivery.abandon environment >>= fun _ => pure (.ok .abandoned))
      observer.Settled observer.Somewhere := by
  apply (leads_silent (keeps.note _)).bind
  intro _
  exact leads_pure fun _ at_ => ⟨delivery.record, at_⟩

include keeps in
theorem settlePublished_leads (delivery : Delivery) :
    Leads (observer.At (.done delivery.record .published)) (settlePublished environment delivery)
      observer.Settled observer.Somewhere := by
  unfold settlePublished
  apply (leads_tells keeps.isTriggered).bind
  rintro (_ | _)
  · apply leads_move (.lookBack delivery.record .published)
    apply (commit_leads keeps delivery.record .published).bind
    rintro (failure | ⟨⟩)
    · exact leads_pure fun _ at_ => .inl at_
    · apply (leads_counts (.owed .published)).bind
      intro _
      apply (leads_silent (keeps.note _)).bind
      intro _
      exact leads_pure fun _ at_ => at_
  · apply leads_move (.withhold delivery.record .published)
    apply (leads_silent (keeps.note _)).bind
    intro _
    exact abandon_leads keeps delivery

include keeps in
theorem settleSurrendered_leads (delivery : Delivery) (surrender : Retry.Surrender Failure) :
    Leads (observer.Tried delivery (.error surrender))
      (observer.relay.settleSurrendered environment delivery surrender)
      observer.Settled observer.Somewhere := by
  have giveUp (attempts : Nat) (failure : Failure) :
      Leads (observer.At (.opened delivery.record delivery.envelope))
        (do
          act (environment.note (Report.givenUp delivery.coordinates
            delivery.envelope.eventType attempts failure))
          delivery.fail environment observer.relay.forwarder failure)
        observer.Settled observer.Somewhere := by
    apply (leads_silent (keeps.note _)).bind
    intro _
    exact leads_find (.givenUp delivery.record delivery.envelope)
      (setAside_leads keeps delivery.record delivery.headers failure)
  cases surrender with
  | exhausted attempts failure => exact giveUp attempts failure
  | notRetryable attempts failure => exact giveUp attempts failure
  | cancelled attempts last =>
      unfold settleSurrendered
      apply (leads_silent (keeps.note _)).bind
      intro _
      exact abandon_leads keeps delivery

include keeps in
theorem process_leads (delivery : Delivery) :
    Leads (observer.At (.opened delivery.record delivery.envelope))
      (observer.relay.process environment delivery) observer.Settled observer.Somewhere := by
  unfold process
  dsimp only
  rcases resolved : observer.relay.registry.resolve delivery.envelope.eventType with
    failure | mapper
  · apply (leads_counts (.unmapped resolved)).bind
    intro _
    apply (leads_silent (keeps.note _)).bind
    intro _
    exact setAside_leads keeps delivery.record delivery.headers failure
  · apply (outline keeps resolved).leads_run.bind
    rintro (surrender | ⟨⟩)
    · exact settleSurrendered_leads keeps delivery surrender
    · exact settlePublished_leads keeps delivery

include keeps in
theorem pollOnce_leads :
    Leads (observer.At .ready) (observer.relay.pollOnce environment) observer.Handled
      observer.Somewhere := by
  unfold pollOnce
  apply (receive_leads keeps observer.relay.pollTimeout).bind
  rintro (failure | _ | disposition | delivery)
  · exact leads_pure fun _ settled => settled
  · exact leads_pure fun _ at_ => at_
  · exact leads_pure fun _ settled => settled
  · apply (process_leads keeps delivery).bind
    rintro (failure | disposition)
    · exact leads_pure fun _ settled => settled
    · exact leads_pure fun _ settled => settled

/-! ## The loop -/

theorem AtRest.somewhere {session : Session ω} (rest : observer.AtRest session) :
    observer.Somewhere session := by
  rcases rest with at_ | ⟨record, at_⟩
  · exact at_.somewhere
  · exact at_.somewhere

/-- A disposition leaves nothing in hand but what was abandoned. -/
theorem atRest_of_settled {disposition : Disposition} {session : Session ω}
    (settled : observer.Settled (.ok disposition) session) : observer.AtRest session := by
  cases disposition with
  | abandoned => exact .inr settled
  | _ => exact .inl settled

/-- Where a turn of the loop has led: a loop that goes on is at rest. -/
def Turned (observer : Observer ω) (result : Option (Except Failure Unit))
    (session : Session ω) : Prop :=
  observer.Somewhere session ∧ (result = none → observer.AtRest session)

include keeps in
theorem stop_leads (phase : Phase) :
    Leads (observer.At phase) (stop environment) (fun _ => observer.At phase)
      observer.Somewhere :=
  leads_stop (leads_silent keeps.fatalError) fun _ _ => leads_silent (keeps.note _)

include keeps in
/-- A failure that leaves a record neither settled nor abandoned is fatal, and a loop
does not go on after it. -/
theorem goOn_leads (handled : Except Failure (Option Disposition)) :
    Leads (observer.Handled handled) (observer.relay.goOn environment handled) observer.Turned
      observer.Somewhere := by
  have goesOn (disposition : Disposition) : Leads (observer.Settled (.ok disposition))
      (pure none) observer.Turned observer.Somewhere :=
    leads_pure fun _ settled =>
      ⟨(atRest_of_settled settled).somewhere, fun _ => atRest_of_settled settled⟩
  rcases handled with failure | _ | disposition
  · unfold goOn
    by_cases fatal : failure.isFatal = true
    · simp only [fatal, if_true]
      have stops (phase : Phase) : Leads (observer.At phase)
          (do
            act (environment.note (Report.stoppingOnFailure failure))
            act environment.trigger
            return some (.error failure))
          observer.Turned observer.Somewhere := by
        apply (leads_silent (keeps.note _)).bind
        intro _
        apply (leads_silent keeps.trigger).bind
        intro _
        exact leads_pure fun _ at_ => ⟨at_.somewhere, by simp⟩
      apply leads_or (stops .ready)
      rintro session ⟨_, record, at_⟩
      exact stops (.stuck record) session at_
    · simp only [fatal]
      have goes : Leads (observer.At .ready)
          (do
            act (environment.note (Report.turnFailed failure))
            return none)
          observer.Turned observer.Somewhere := by
        apply (leads_silent (keeps.note _)).bind
        intro _
        exact leads_pure fun _ at_ => ⟨at_.somewhere, fun _ => .inl at_⟩
      exact goes.imp (fun _ settled => Or.resolve_right settled fun stuck => fatal stuck.1)
        fun _ _ turned => turned
  · exact leads_pure fun _ at_ => ⟨at_.somewhere, fun _ => .inl at_⟩
  · cases disposition with
    | pendingRedelivery =>
        unfold goOn
        apply (leads_silent (keeps.note _)).bind
        intro _
        apply (leads_tells (keeps.pause _)).bind
        intro ending
        exact leads_move (.wait ending)
          (leads_pure fun _ at_ => ⟨at_.somewhere, fun _ => .inl at_⟩)
    | committed => exact goesOn .committed
    | skipped => exact goesOn .skipped
    | deadLettered => exact goesOn .deadLettered
    | abandoned => exact goesOn .abandoned

include keeps in
theorem turn_leads :
    Leads observer.AtRest (observer.relay.turn environment) observer.Turned
      observer.Somewhere := by
  have ready : Leads (observer.At .ready)
      (do observer.relay.goOn environment (← observer.relay.pollOnce environment))
      observer.Turned observer.Somewhere :=
    (pollOnce_leads keeps).bind (goOn_leads keeps)
  have stops (phase : Phase) : Leads (observer.At phase)
      (do return some (← stop environment)) observer.Turned observer.Somewhere :=
    (stop_leads keeps phase).bind fun _ => leads_pure fun _ at_ => ⟨at_.somewhere, by simp⟩
  unfold turn
  apply leads_or
  · apply (leads_tells keeps.isTriggered).bind
    rintro (_ | _)
    · exact leads_move (.look false) ready
    · exact leads_move (.look true) (stops .ready)
  · apply leads_exists
    intro record
    apply (leads_tells keeps.isTriggered).bind
    rintro (_ | _)
    · exact leads_move (.overlook record) ready
    · exact leads_move (.quit record) (stops (.abandoned record))

include keeps in
theorem turns_leads (count : Nat) :
    Leads observer.AtRest (observer.relay.turns environment count)
      (fun _ => observer.Somewhere) observer.Somewhere :=
  (leads_turns (turn_leads keeps) (fun _ rest => ⟨rest.somewhere, fun _ => rest⟩)
    (fun _ turned => turned.2 rfl) count).imp (fun _ rest => rest) fun _ _ turned => turned.1

include keeps in
/-- Whatever a relay works with and however long it runs, it has moved from phase to
phase, starting with nothing in hand. -/
theorem run_leads (most : Nat) :
    Leads (observer.At .ready) (observer.relay.run environment most)
      (fun _ => observer.Somewhere) observer.Somewhere := by
  unfold run
  apply (leads_silent (keeps.note _)).bind
  intro _
  exact (turns_leads keeps most).imp (fun _ at_ => .inl at_) fun _ _ somewhere => somewhere

include keeps in
theorem somewhere_run (most : Nat) (session : Session ω) (at_ : observer.At .ready session) :
    observer.Somewhere (observer.relay.run environment most session).2 := by
  have led := run_leads keeps most session at_
  revert led
  rcases observer.relay.run environment most session with ⟨_ | _, later⟩
  · exact id
  · exact id

end Observer

end EventRelay.Relay

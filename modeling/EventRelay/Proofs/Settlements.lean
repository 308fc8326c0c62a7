import EventRelay.Proofs.Outlines
import EventRelay.Proofs.Since
import EventRelay.Relay.Loop

/-!
# What a poll comes to

A relay asks three things of its log: the next record, to commit a record, and to go
back to one. A poll asks for one record, and about that record it asks at most one more
thing. So what a poll comes to is told by how the record was settled, which gives its
result, what was asked of the log and what was counted.
-/

namespace EventRelay

/-- Whether a counter tells what becomes of records; the other counters tell why. -/
def Counter.isTallied : Counter → Bool
  | .decodeFailures | .unmappedEvents | .publishRetries => false
  | _ => true

namespace Relay

open Run

/-- Whether something was asked of the log. -/
def Happening.isRequest : Happening → Bool
  | .polled _ | .committed _ _ | .rewound _ _ => true
  | _ => false

namespace History

/-- What was asked of the log, latest first. -/
def requests (history : History) : List Happening :=
  history.filter Happening.isRequest

/-- What happened last but for requests for shutdown. -/
def last? : History → Option Happening
  | [] => none
  | .shutdown :: earlier => last? earlier
  | happening :: _ => some happening

/-- What was asked of the log is as listed; where so told, the latest request is what
happened last. -/
structure Asks (latest : Bool) (requests : List Happening) (history : History) : Prop where
  asked : history.requests = requests
  last : latest = true → history.last? = requests.head?

variable {latest : Bool} {requests : List Happening} {happening : Happening} {history : History}

theorem Asks.shutdown (asks : history.Asks latest requests) :
    History.Asks latest requests (.shutdown :: history) :=
  ⟨asks.asked, asks.last⟩

theorem Asks.request (asks : history.Asks latest requests)
    (request : happening.isRequest = true) :
    History.Asks true (happening :: requests) (happening :: history) where
  asked := by
    unfold History.requests
    rw [List.filter_cons_of_pos request]
    exact congrArg _ asks.asked
  last _ := by cases happening <;> first | rfl | contradiction

theorem Asks.other (asks : history.Asks latest requests) (other : happening.isRequest = false) :
    History.Asks false requests (happening :: history) where
  asked := by
    unfold History.requests
    rw [List.filter_cons_of_neg (by simp [other])]
    exact asks.asked
  last := nofun

end History

/-! ## How records are settled -/

/-- How a record in hand was settled. -/
inductive Settlement
  /-- Its message is published, its offset committed. -/
  | published
  /-- It says nothing, its offset is committed. -/
  | skipped
  /-- It is set aside, its offset committed. -/
  | setAside
  /-- Its offset could not be committed. -/
  | declined (failure : Failure)
  /-- The log is rewound to it, perhaps because its dead letter was refused. -/
  | rewound (refused : Bool)
  /-- The log could not be rewound to it. -/
  | stuck (refused : Bool) (failure : Failure)
  /-- It is left as it is. -/
  | abandoned

/-- What a relay fails with that cannot rewind its log. -/
def notRewound (coordinates : Coordinates) (failure : Failure) : Failure :=
  .fatal ("cannot rewind " ++ coordinates.toText ++ " for redelivery: " ++ failure.message)

/-- What a relay fails with when something it asks of its log is refused. -/
def Happening.refusal? : Happening → Option Failure
  | .polled (.error failure) | .committed _ (.error failure) => some failure
  | .rewound coordinates (.error failure) => some (notRewound coordinates failure)
  | _ => none

theorem Happening.isRequest_of_refusal? {happening : Happening} {failure : Failure}
    (refused : happening.refusal? = some failure) : happening.isRequest = true := by
  cases happening <;> first | rfl | contradiction

namespace Settlement

/-- What settling a record comes to. -/
def result (coordinates : Coordinates) : Settlement → Except Failure Disposition
  | .published => .ok .committed
  | .skipped => .ok .skipped
  | .setAside => .ok .deadLettered
  | .declined failure => .error failure
  | .rewound _ => .ok .pendingRedelivery
  | .stuck _ failure => .error (notRewound coordinates failure)
  | .abandoned => .ok .abandoned

/-- What is asked of the log to settle a record. -/
def requests (coordinates : Coordinates) : Settlement → List Happening
  | .published | .skipped | .setAside => [.committed coordinates (.ok ())]
  | .declined failure => [.committed coordinates (.error failure)]
  | .rewound _ => [.rewound coordinates (.ok ())]
  | .stuck _ failure => [.rewound coordinates (.error failure)]
  | .abandoned => []

/-- What counts for a dead letter that was or was not refused. -/
def ofRefused (refused : Bool) : List Counter :=
  if refused then [.deadLetterFailures] else []

/-- What is counted when a record is settled. -/
def counted : Settlement → List Counter
  | .published => [.published]
  | .skipped => [.tombstones]
  | .setAside => [.deadLettered]
  | .declined _ => [.commitFailures]
  | .rewound refused => .pendingRedeliveries :: ofRefused refused
  | .stuck refused _ => ofRefused refused
  | .abandoned => []

/-- Whether settling a record fails. -/
def isFailure : Settlement → Bool
  | .declined _ | .stuck _ _ => true
  | _ => false

end Settlement

/-- What one poll comes to. -/
inductive Visit
  | failed (failure : Failure)
  | idle
  | partitionEnd (partition : Int)
  | settled (record : SourceRecord) (settlement : Settlement)

namespace Visit

/-- What the poll returns. -/
def result : Visit → Except Failure (Option Disposition)
  | .failed failure => .error failure
  | .idle | .partitionEnd _ => .ok none
  | .settled record settlement => (settlement.result record.coordinates).map some

/-- What the poll asks of the log, latest first. -/
def requests : Visit → List Happening
  | .failed failure => [.polled (.error failure)]
  | .idle => [.polled (.ok .idle)]
  | .partitionEnd partition => [.polled (.ok (.endOfPartition partition))]
  | .settled record settlement =>
      settlement.requests record.coordinates ++ [.polled (.ok (.record record))]

/-- What the poll counts. -/
def counted : Visit → List Counter
  | .settled _ settlement => settlement.counted ++ [.received]
  | _ => []

/-- Whether the poll fails. -/
def isFailure : Visit → Bool
  | .failed _ => true
  | .settled _ settlement => settlement.isFailure
  | _ => false

/-- A poll that fails was refused something. -/
theorem exists_refusal {visit : Visit} {failure : Failure}
    (failed : visit.result = .error failure) :
    visit.isFailure = true ∧
      ∃ happening, visit.requests.head? = some happening ∧ happening.refusal? = some failure := by
  cases visit with
  | failed other =>
      cases failed
      exact ⟨rfl, _, rfl, rfl⟩
  | idle => contradiction
  | partitionEnd partition => contradiction
  | settled record settlement =>
      cases settlement with
      | declined other =>
          cases failed
          exact ⟨rfl, _, rfl, rfl⟩
      | stuck refused other =>
          cases failed
          exact ⟨rfl, _, rfl, rfl⟩
      | _ => contradiction

end Visit

/-! ## What was asked and counted since a moment -/

/-- A moment from which on requests and counts are told. -/
structure Mark (ω : Type) where
  history : ω → History
  base : History
  zero : Counters

namespace Mark

variable {ω α : Type} {mark : Mark ω} {allowed : History → Happening → Prop}
  {broken : Session ω → Prop} {latest : Bool} {requests : List Happening}
  {counted : List Counter}

/-- What has been asked of the log and counted is as listed. -/
def Asked (mark : Mark ω) (latest : Bool) (requests : List Happening) (counted : List Counter)
    (session : Session ω) : Prop :=
  Since mark.history mark.base (History.Asks latest requests) session ∧
    ∀ counter, counter.isTallied = true →
      session.counters.get counter = mark.zero.get counter + counted.count counter

theorem Asked.weaken {session : Session ω} (asked : mark.Asked latest requests counted session) :
    mark.Asked false requests counted session :=
  ⟨asked.1.imp fun _ told => ⟨told.asked, nofun⟩, asked.2⟩

/-- Nothing has been asked or counted since just now. -/
theorem asked_nil (history : ω → History) (session : Session ω) :
    Asked ⟨history, history session.world, session.counters⟩ true [] [] session :=
  ⟨⟨[], rfl, rfl, fun _ => rfl⟩, fun _ _ => rfl⟩

theorem leads_request {action : StateM ω α} {happening : α → Happening}
    (tells : Tells mark.history allowed action happening)
    (request : ∀ answer, (happening answer).isRequest = true) :
    Leads (mark.Asked latest requests counted) (act action)
      (fun answer => mark.Asked true (happening answer :: requests) counted) broken := by
  have led : Leads (Since mark.history mark.base (History.Asks latest requests)) (act action)
      (fun answer => Since mark.history mark.base
        (History.Asks true (happening answer :: requests))) broken :=
    leads_since tells (fun _ => History.Asks.shutdown)
      fun answer since asks _ => asks.request (request answer)
  exact fun session asked => ⟨led session asked.1, asked.2⟩

theorem leads_other {action : StateM ω α} {happening : α → Happening}
    (tells : Tells mark.history allowed action happening)
    (other : ∀ answer, (happening answer).isRequest = false) :
    Leads (mark.Asked latest requests counted) (act action)
      (fun _ => mark.Asked false requests counted) broken := by
  have led : Leads (Since mark.history mark.base (History.Asks latest requests)) (act action)
      (fun _ => Since mark.history mark.base (History.Asks false requests)) broken :=
    leads_since tells (fun _ => History.Asks.shutdown)
      fun answer since asks _ => asks.other (other answer)
  exact fun session asked => ⟨led session asked.1, asked.2⟩

theorem leads_silent {action : StateM ω α} (silent : Silent mark.history action) :
    Leads (mark.Asked latest requests counted) (act action)
      (fun _ => mark.Asked latest requests counted) broken := by
  have led : Leads (Since mark.history mark.base (History.Asks latest requests)) (act action)
      (fun _ => Since mark.history mark.base (History.Asks latest requests)) broken :=
    leads_silent_since silent fun _ => History.Asks.shutdown
  exact fun session asked => ⟨led session asked.1, asked.2⟩

theorem leads_leave (sample : Retry.Sample) :
    Leads (mark.Asked latest requests counted) (leave sample)
      (fun _ => mark.Asked latest requests counted) broken :=
  Run.leads_leave fun _ asked => asked

theorem leads_tally (counter : Counter) :
    Leads (mark.Asked latest requests counted) (count counter)
      (fun _ => mark.Asked latest requests (counter :: counted)) broken := by
  apply leads_count
  intro session asked
  refine ⟨asked.1, ?_⟩
  intro other told
  rw [Counters.get_add, asked.2 other told, List.count_cons]
  by_cases same : other = counter
  · simp [same, Nat.add_assoc]
  · simp [same, Ne.symm same]

theorem leads_untallied {counter : Counter} (untallied : counter.isTallied = false) :
    Leads (mark.Asked latest requests counted) (count counter)
      (fun _ => mark.Asked latest requests counted) broken := by
  apply leads_count
  intro session asked
  refine ⟨asked.1, ?_⟩
  intro other told
  have different : other ≠ counter := by
    rintro rfl
    rw [untallied] at told
    contradiction
  rw [Counters.get_add, asked.2 other told, if_neg different, Nat.add_zero]

/-! ## Settling -/

/-- The record at `coordinates` has been settled with this result. -/
def Settled (mark : Mark ω) (coordinates : Coordinates) (requests : List Happening)
    (counted : List Counter) (result : Except Failure Disposition) (session : Session ω) : Prop :=
  ∃ settlement : Settlement, settlement.result coordinates = result ∧
    mark.Asked settlement.isFailure (settlement.requests coordinates ++ requests)
      (settlement.counted ++ counted) session

variable {environment : Environment ω} (keeps : environment.Keeps mark.history allowed)

include keeps in
theorem commit_asks (coordinates : Coordinates) :
    Leads (mark.Asked latest requests counted) (commit environment coordinates)
      (fun answer session =>
        match answer with
        | .ok () =>
            mark.Asked false (.committed coordinates (.ok ()) :: requests) counted session
        | .error failure => mark.Settled coordinates requests counted (.error failure) session)
      broken := by
  unfold commit
  apply (leads_request (keeps.commit coordinates) fun _ => rfl).bind
  rintro (failure | ⟨⟩)
  · apply (leads_tally _).bind
    intro _
    apply (leads_silent (keeps.note _)).bind
    intro _
    exact leads_pure fun _ asked => ⟨.declined failure, rfl, asked⟩
  · exact leads_pure fun _ asked => asked.weaken

include keeps in
theorem redeliver_asks (refused : Bool) (coordinates : Coordinates) :
    Leads (mark.Asked latest requests (Settlement.ofRefused refused ++ counted))
      (redeliver environment coordinates) (mark.Settled coordinates requests counted)
      broken := by
  unfold redeliver
  apply (leads_request (keeps.rewind coordinates) fun _ => rfl).bind
  rintro (failure | ⟨⟩)
  · exact leads_pure fun _ asked => ⟨.stuck refused failure, rfl, asked⟩
  · apply (leads_tally _).bind
    intro _
    exact leads_pure fun _ asked => ⟨.rewound refused, rfl, asked.weaken⟩

include keeps in
theorem skip_asks (coordinates : Coordinates) :
    Leads (mark.Asked latest requests counted) (skip environment coordinates)
      (mark.Settled coordinates requests counted) broken := by
  unfold skip
  apply (commit_asks keeps coordinates).bind
  rintro (failure | ⟨⟩)
  · exact leads_pure fun _ settled => settled
  · apply (leads_tally _).bind
    intro _
    exact leads_pure fun _ asked => ⟨.skipped, rfl, asked⟩

include keeps in
theorem forward_asks (forwarder : Forwarder) (record : SourceRecord) (headers : Headers)
    (failure : Failure) :
    Leads (mark.Asked latest requests counted)
      (act (forwarder.forward environment record headers failure))
      (fun _ => mark.Asked false requests counted) broken := by
  unfold Forwarder.forward
  rw [act_bind]
  apply (leads_silent keeps.freshId).bind
  intro id
  rw [act_bind]
  apply (leads_other keeps.now fun _ => rfl).bind
  intro now
  rw [act_bind]
  apply (leads_other (keeps.publish _ _) fun _ => rfl).bind
  rintro (refusal | ⟨⟩)
  · rw [act_bind]
    exact (leads_silent (keeps.note _)).bind fun _ => leads_pure fun _ asked => asked
  · rw [act_bind]
    exact (leads_silent (keeps.note _)).bind fun _ => leads_pure fun _ asked => asked

include keeps in
theorem setAside_asks (forwarder : Forwarder) (record : SourceRecord) (headers : Headers)
    (failure : Failure) :
    Leads (mark.Asked latest requests counted)
      (setAside environment forwarder record headers failure)
      (mark.Settled record.coordinates requests counted) broken := by
  unfold setAside
  split
  · apply (forward_asks keeps forwarder record headers failure).bind
    rintro (refusal | letter)
    · apply (leads_tally _).bind
      intro _
      exact redeliver_asks keeps true record.coordinates
    · apply (commit_asks keeps record.coordinates).bind
      rintro (refusal | ⟨⟩)
      · exact leads_pure fun _ settled => settled
      · apply (leads_tally _).bind
        intro _
        exact leads_pure fun _ asked => ⟨.setAside, rfl, asked⟩
  · apply (leads_silent (keeps.note _)).bind
    intro _
    exact redeliver_asks keeps false record.coordinates

/-! ## Publishing -/

section Engine

variable {relay : Relay} {mapper : Mapper} {delivery : Delivery}
  (breaks : ∀ session, mark.Asked false requests counted session → broken session)

include keeps breaks in
theorem publishAttempt_asks (context : Retry.Context) :
    Leads (mark.Asked false requests counted) (publishAttempt environment mapper delivery context)
      (fun _ => mark.Asked false requests counted) broken := by
  apply leads_publishAttempt (leads_untallied rfl) breaks
  · exact fun _ _ _ asked => asked
  · intro message _
    exact leads_other (keeps.race message delivery.headers) fun _ => rfl

/-- Nothing is asked of the log while a message is published. -/
def outline (keeps : environment.Keeps mark.history allowed)
    (breaks : ∀ session, mark.Asked false requests counted session → broken session) :
    (relay.engine environment mapper delivery).Outline
      (fun _ => mark.Asked false requests counted) broken where
  trying _ _ _ := mark.Asked false requests counted
  answered _ _ _ := mark.Asked false requests counted
  waiting _ _ _ := mark.Asked false requests counted
  notes _ notice := leads_silent (keeps.note notice)
  leaves _ := leads_leave
  overflows _ := breaks
  attempts _ _ _ := publishAttempt_asks keeps breaks _
  succeeds _ asked := asked
  drops _ asked := asked
  refuses _ _ asked := asked
  exhausts _ _ asked := asked
  looks _ := by
    apply (leads_other keeps.isTriggered fun _ => rfl).imp (fun _ asked => asked)
    rintro (_ | _) session asked <;> exact asked
  warns notice := leads_silent (keeps.note notice)
  hastens _ _ asked := asked
  pauses _ := by
    apply (leads_other (keeps.pause _) fun _ => rfl).imp (fun _ asked => asked)
    rintro (_ | _) session asked <;> exact asked

end Engine

include keeps in
theorem abandon_asks (delivery : Delivery) :
    Leads (mark.Asked latest requests counted)
      (delivery.abandon environment >>= fun _ => pure (.ok .abandoned))
      (mark.Settled delivery.coordinates requests counted) broken := by
  apply (leads_silent (keeps.note _)).bind
  intro _
  exact leads_pure fun _ asked => ⟨.abandoned, rfl, asked.weaken⟩

include keeps in
theorem settlePublished_asks (delivery : Delivery) :
    Leads (mark.Asked latest requests counted) (settlePublished environment delivery)
      (mark.Settled delivery.coordinates requests counted) broken := by
  unfold settlePublished
  apply (leads_other keeps.isTriggered fun _ => rfl).bind
  rintro (_ | _)
  · apply (commit_asks keeps delivery.coordinates).bind
    rintro (failure | ⟨⟩)
    · exact leads_pure fun _ settled => settled
    · apply (leads_tally _).bind
      intro _
      apply (leads_silent (keeps.note _)).bind
      intro _
      exact leads_pure fun _ asked => ⟨.published, rfl, asked⟩
  · exact (leads_silent (keeps.note _)).bind fun _ => abandon_asks keeps delivery

include keeps in
theorem settleSurrendered_asks (relay : Relay) (delivery : Delivery)
    (surrender : Retry.Surrender Failure) :
    Leads (mark.Asked latest requests counted)
      (relay.settleSurrendered environment delivery surrender)
      (mark.Settled delivery.coordinates requests counted) broken := by
  unfold settleSurrendered
  cases surrender with
  | cancelled attempts last =>
      exact (leads_silent (keeps.note _)).bind fun _ => abandon_asks keeps delivery
  | exhausted attempts failure =>
      exact (leads_silent (keeps.note _)).bind fun _ =>
        setAside_asks keeps relay.forwarder delivery.record delivery.headers failure
  | notRetryable attempts failure =>
      exact (leads_silent (keeps.note _)).bind fun _ =>
        setAside_asks keeps relay.forwarder delivery.record delivery.headers failure

include keeps in
theorem process_asks
    (breaks : ∀ session, mark.Asked false requests counted session → broken session)
    (relay : Relay) (delivery : Delivery) :
    Leads (mark.Asked false requests counted) (relay.process environment delivery)
      (mark.Settled delivery.coordinates requests counted) broken := by
  unfold process
  dsimp only
  rcases relay.registry.resolve delivery.envelope.eventType with failure | mapper
  · apply (leads_untallied rfl).bind
    intro _
    apply (leads_silent (keeps.note _)).bind
    intro _
    exact setAside_asks keeps relay.forwarder delivery.record delivery.headers failure
  · apply (outline keeps breaks).leads_run.bind
    rintro (surrender | ⟨⟩)
    · exact settleSurrendered_asks keeps relay delivery surrender
    · exact settlePublished_asks keeps delivery

/-! ## Polling -/

/-- A poll has come to this result. -/
def Visited (mark : Mark ω) (result : Except Failure (Option Disposition))
    (session : Session ω) : Prop :=
  ∃ visit : Visit, visit.result = result ∧
    mark.Asked visit.isFailure visit.requests visit.counted session

/-- The record has come in and nothing was done about it yet. -/
def Opened (mark : Mark ω) (record : SourceRecord) : Session ω → Prop :=
  mark.Asked false [.polled (.ok (.record record))] [.received]

/-- A poll has been settled with this result, or has led to a delivery. -/
def Received (mark : Mark ω) : Except Failure Relay.Received → Session ω → Prop
  | .ok .idle => mark.Visited (.ok none)
  | .ok (.settled disposition) => mark.Visited (.ok (some disposition))
  | .ok (.delivered delivery) => mark.Opened delivery.record
  | .error failure => mark.Visited (.error failure)

theorem Settled.visited {record : SourceRecord} {result : Except Failure Disposition}
    {session : Session ω}
    (settled : mark.Settled record.coordinates [.polled (.ok (.record record))] [.received] result
      session) :
    mark.Visited (result.map some) session := by
  rcases settled with ⟨settlement, rfl, asked⟩
  exact ⟨.settled record settlement, rfl, asked⟩

theorem leads_asReceived {before : Session ω → Prop} {record : SourceRecord}
    {program : Run ω (Except Failure Disposition)}
    (leads : Leads before program
      (mark.Settled record.coordinates [.polled (.ok (.record record))] [.received]) broken) :
    Leads before (program >>= fun result => pure (asReceived result)) mark.Received broken := by
  apply leads.bind
  rintro (failure | disposition)
  · exact leads_pure fun _ settled => settled.visited
  · exact leads_pure fun _ settled => settled.visited

include keeps in
theorem takeIn_asks (relay : Relay) (record : SourceRecord) :
    Leads (mark.Asked latest [.polled (.ok (.record record))] [])
      (takeIn environment relay.decoder relay.forwarder record) mark.Received broken := by
  unfold takeIn
  apply (leads_tally _).bind
  intro _
  split
  · apply (leads_silent (keeps.note _)).bind
    intro _
    exact leads_asReceived (skip_asks keeps record.coordinates)
  · apply (leads_other keeps.now fun _ => rfl).bind
    intro now
    rcases relay.decoder now record with failure | envelope | reason
    · apply (leads_untallied rfl).bind
      intro _
      apply (leads_silent (keeps.note _)).bind
      intro _
      exact leads_asReceived (setAside_asks keeps relay.forwarder record record.headers failure)
    · exact leads_pure fun _ opened => opened
    · apply (leads_silent (keeps.note _)).bind
      intro _
      exact leads_asReceived (skip_asks keeps record.coordinates)

include keeps in
theorem receive_asks (relay : Relay) (timeout : Duration) :
    Leads (mark.Asked latest [] []) (receive environment relay.decoder relay.forwarder timeout)
      mark.Received broken := by
  unfold receive
  apply (leads_request (keeps.poll timeout) fun _ => rfl).bind
  rintro (failure | record | _ | partition)
  · exact leads_pure fun _ asked => ⟨.failed failure, rfl, asked⟩
  · exact takeIn_asks keeps relay record
  · exact leads_pure fun _ asked => ⟨.idle, rfl, asked.weaken⟩
  · exact leads_pure fun _ asked => ⟨.partitionEnd partition, rfl, asked.weaken⟩

include keeps in
/-- Whatever a relay works with, a poll is one of the visits, unless it breaks off with a
record in hand. -/
theorem pollOnce_asks (relay : Relay) :
    Leads (mark.Asked latest [] []) (relay.pollOnce environment) mark.Visited
      (fun session => ∃ record, mark.Opened record session) := by
  unfold pollOnce
  apply (receive_asks keeps relay relay.pollTimeout).bind
  rintro (failure | _ | disposition | delivery)
  · exact leads_pure fun _ visited => visited
  · exact leads_pure fun _ visited => visited
  · exact leads_pure fun _ visited => visited
  · apply (process_asks keeps (fun _ opened => ⟨delivery.record, opened⟩) relay delivery).bind
    rintro (failure | disposition)
    · exact leads_pure fun _ settled => settled.visited
    · exact leads_pure fun _ settled => settled.visited

end Mark

end Relay

end EventRelay

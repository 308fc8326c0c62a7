import EventRelay.Proofs.CommitSafety
import EventRelay.Proofs.EventTimes

/-!
# Delivering a record again

A record may be handed to the publisher many times: by attempts one after another, after the log
was rewound, and after a restart. Whatever is handed over for it comes of the record and of the
time at which it was decoded. So a record that is dated always gives the same message under the
same headers, and one that is not gives messages that differ in nothing but their times.
-/

namespace EventRelay.Relay

/-! ## What was handed to the publisher -/

/-- What was handed over in an attempt to publish, with the record that was taken in last before
it and the time that was told last since. -/
structure Handover where
  delivery : Option (SourceRecord × Instant)
  message : Message
  headers : Headers
  deriving DecidableEq

namespace History

/-- The record that was taken in last. -/
def taken? : History → Option SourceRecord
  | [] => none
  | .polled (.ok (.record record)) :: _ => some record
  | _ :: earlier => taken? earlier

/-- The record that was taken in last, and the time that was told last since. -/
def dated? : History → Option (SourceRecord × Instant)
  | [] => none
  | .told now :: earlier => (taken? earlier).map fun record => (record, now)
  | .polled (.ok (.record _)) :: _ => none
  | _ :: earlier => dated? earlier

/-- What was handed over in the attempts to publish, latest first. -/
def handovers : History → List Handover
  | [] => []
  | .attempted message headers _ :: earlier =>
      ⟨dated? earlier, message, headers⟩ :: handovers earlier
  | _ :: earlier => handovers earlier

theorem mem_handovers_cons {happening : Happening} {earlier : History} {handover : Handover}
    (mem : handover ∈ handovers (happening :: earlier)) :
    handover ∈ handovers earlier ∨ ∃ message headers outcome,
      happening = .attempted message headers outcome ∧
        handover = ⟨dated? earlier, message, headers⟩ := by
  cases happening with
  | attempted message headers outcome =>
      rcases List.mem_cons.mp mem with rfl | mem
      · exact .inr ⟨message, headers, outcome, rfl, rfl⟩
      · exact .inl mem
  | _ => exact .inl mem

theorem mem_handovers_of_suffix {moment history : History} (before : moment <:+ history)
    {handover : Handover} (mem : handover ∈ moment.handovers) : handover ∈ history.handovers := by
  induction history with
  | nil => rwa [List.suffix_nil.mp before] at mem
  | cons happening earlier ih =>
      rcases List.suffix_cons_iff.mp before with rfl | before
      · exact mem
      · have since := ih before
        cases happening with
        | attempted message headers outcome => exact List.mem_cons_of_mem _ since
        | _ => exact since

end History

/-- What was handed over is what the relay makes of a record at a time. -/
def Handover.Comes (relay : Relay) (handover : Handover) : Prop :=
  ∃ record now envelope, handover.delivery = some (record, now) ∧
    relay.decoder now record = .ok (.event envelope) ∧ relay.Makes envelope handover.message ∧
    handover.headers = record.propagatedHeaders envelope

/-- What a relay knows of the record in hand before it tries to publish. -/
def Knows (relay : Relay) (history : History) : Phase → Prop
  | .polled record | .taken record => history.taken? = some record
  | .opened record envelope =>
      ∃ now, history.dated? = some (record, now) ∧
        relay.decoder now record = .ok (.event envelope)
  | _ => True

variable {relay : Relay} {history : History} {phase next : Phase}

theorem Knows.moves {happening : Happening} (knows : Knows relay history phase)
    (moves : Moves relay phase happening next) : Knows relay (happening :: history) next := by
  cases moves with
  | receive record => rfl
  | @unpack record now envelope decoded =>
      refine ⟨now, ?_, decoded⟩
      rw [History.dated?, knows]
      rfl
  | miss failure makes => exact knows
  | lookOn => exact knows
  | waitOn => exact knows
  | _ => trivial

theorem Knows.counts {counter : Counter} (knows : Knows relay history phase)
    (counts : Counts relay phase counter next) : Knows relay history next := by
  cases counts with
  | received record => exact knows
  | retry record envelope => exact knows
  | _ => trivial

theorem Knows.finds (finds : Finds relay phase next) : Knows relay history next := by
  cases finds <;> trivial

theorem Knows.comes {message : Message} {headers : Headers}
    {outcome : Raced (Except Failure Unit)} (knows : Knows relay history phase)
    (moves : Moves relay phase (.attempted message headers outcome) next) :
    Handover.Comes relay ⟨history.dated?, message, headers⟩ := by
  cases moves with
  | @publish record envelope _ makes | @miss record envelope _ _ makes
  | @cutOff record envelope _ makes =>
      obtain ⟨now, dated, decoded⟩ := knows
      exact ⟨record, now, envelope, dated, decoded, makes, rfl⟩

/-- Every handover since the start was made with what the relay makes of a record at a time. -/
theorem Follows.comes {allowed : History → Happening → Prop} {start : History}
    {zero counters : Counters}
    (follows : Follows relay allowed start zero history counters phase) :
    Knows relay history phase ∧
      ∀ handover ∈ history.handovers, handover ∈ start.handovers ∨ handover.Comes relay := by
  induction follows with
  | start => exact ⟨trivial, fun _ mem => .inl mem⟩
  | @shutdown _ _ phase _ ih =>
      refine ⟨?_, ih.2⟩
      have knows := ih.1
      cases phase <;> exact knows
  | happens _ _ moves ih =>
      refine ⟨ih.1.moves moves, ?_⟩
      intro handover mem
      rcases History.mem_handovers_cons mem with mem | ⟨message, headers, outcome, rfl, rfl⟩
      · exact ih.2 handover mem
      · exact .inr (ih.1.comes moves)
  | counts _ counts ih => exact ⟨ih.1.counts counts, ih.2⟩
  | finds _ finds ih => exact ⟨.finds finds, ih.2⟩

/-- In runs one after another whatever is handed over is what the relay makes of a record. -/
theorem Reached.comes {content : Content} (reached : Reached relay content history) :
    ∀ handover ∈ history.handovers, handover.Comes relay := by
  induction reached with
  | fresh => exact fun _ mem => nomatch mem
  | @run χ history moment whims session most reached resumes earlier ih =>
      intro handover mem
      obtain ⟨counters, phase, follows⟩ := follows_run relay content whims session most
      have since := History.mem_handovers_of_suffix earlier mem
      rcases follows.comes.2 handover since with before | comes
      · rw [resumes] at before
        exact ih handover before
      · exact comes

/-- What is made of a record at two times. -/
theorem Makes.later {record : SourceRecord} {now later : Instant} {first second : Envelope}
    {message other : Message}
    (decoded : Outbox.decoder now record = .ok (.event first))
    (redecoded : Outbox.decoder later record = .ok (.event second))
    (makes : relay.Makes first message) (remakes : relay.Makes second other) :
    record.propagatedHeaders second = record.propagatedHeaders first ∧
      ((Outbox.occurredAt? record).isSome = true ∨ later = now → other = message) ∧
      ∀ topic, Registry.empty.registerAll (Orders.mappers topic) = .ok relay.registry →
        Orders.Retimed ((Outbox.occurredAt? record).getD now)
          ((Outbox.occurredAt? record).getD later) message other := by
  have same := Outbox.decoder_later now later record
  rw [decoded, redecoded] at same
  obtain rfl := Outbox.Decoded.event.inj (Except.ok.inj same)
  have dated := Outbox.occurredAt_of_decoder decoded
  obtain ⟨mapper, resolved, mapped⟩ := makes
  obtain ⟨again, reresolved, remapped⟩ := remakes
  obtain rfl : mapper = again := Except.ok.inj (resolved.symm.trans reresolved)
  refine ⟨rfl, ?_, ?_⟩
  · intro undoubted
    have unchanged : (Outbox.occurredAt? record).getD later = first.occurredAt := by
      rw [dated]
      rcases undoubted with known | same
      · obtain ⟨instant, said⟩ := Option.isSome_iff_exists.mp known
        rw [said]
        rfl
      · rw [same]
    rw [unchanged] at remapped
    exact Except.ok.inj (Except.ok.inj (remapped.symm.trans mapped))
  · intro topic registered
    rw [← dated]
    exact Orders.retimed_of_registry registered resolved mapped remapped

/-- Whatever is handed over for one record has the same headers, and it is the same message if
the record is dated or was decoded at one time. Of a record that is not dated the mappers for
order events make messages that differ in nothing but the time, which is that of the decoding. -/
theorem handovers_of_one_record {content : Content} (decodes : relay.decoder = Outbox.decoder)
    (reached : Reached relay content history) :
    (∀ handover ∈ history.handovers, handover.Comes relay) ∧
      ∀ (record : SourceRecord) (now later : Instant) (message other : Message)
        (headers others : Headers),
        ⟨some (record, now), message, headers⟩ ∈ history.handovers →
        ⟨some (record, later), other, others⟩ ∈ history.handovers →
        others = headers ∧
          ((Outbox.occurredAt? record).isSome = true ∨ later = now → other = message) ∧
          ∀ topic, Registry.empty.registerAll (Orders.mappers topic) = .ok relay.registry →
            Orders.Retimed ((Outbox.occurredAt? record).getD now)
              ((Outbox.occurredAt? record).getD later) message other := by
  refine ⟨reached.comes, ?_⟩
  intro record now later message other headers others mem again
  obtain ⟨_, _, first, delivered, decoded, makes, rfl⟩ := reached.comes _ mem
  obtain ⟨_, _, second, redelivered, redecoded, remakes, rfl⟩ := reached.comes _ again
  obtain ⟨rfl, rfl⟩ := Prod.mk.inj (Option.some.inj delivered)
  obtain ⟨rfl, rfl⟩ := Prod.mk.inj (Option.some.inj redelivered)
  rw [decodes] at decoded redecoded
  exact Makes.later decoded redecoded makes remakes

/-! ## An event without a time -/

/-- A relay for order events. -/
def orders : Relay :=
  { passing with
    decoder := Outbox.decoder
    registry := ⟨((Dictionary.empty.insert Orders.createdType
      (Orders.mapCreated Orders.defaultTopic)).insert Orders.cancelledType
        (Orders.mapCancelled Orders.defaultTopic)).insert Orders.shippedType
          (Orders.mapShipped Orders.defaultTopic)⟩ }

theorem registerAll_orders :
    Registry.empty.registerAll (Orders.mappers Orders.defaultTopic) = .ok orders.registry := by
  rfl

/-- A second later than the epoch. -/
def nextSecond : Instant := ⟨1, 0, by decide, by decide⟩

/-- A record of a cancelled order that tells no time of the event. -/
def undatedRecord : SourceRecord where
  coordinates := ⟨"outbox", 0, 0⟩
  value := some <| Text.toBytes <|
    "\x7b\"id\":\"undated\",\"type\":\"Orders.Cancelled\",\"payload\":" ++
      "[\"00000000000000000000000000000000\",\"late\",\"1970-01-01T00:00:00Z\"]\x7d"

/-- The log that holds this record. -/
def undatedLog : Content := Content.single ⟨"outbox", 0⟩ [undatedRecord]

/-- A world in which commits are refused, and the clock stands still. -/
def uncommitting (now : Instant) : Whims Unit :=
  { Whims.smooth ⟨"outbox", 0⟩ with
    commit := fun coordinates => pure (.error (.commit coordinates "refused"))
    now := pure now }

/-- The start of a run after others. -/
def resuming (history : History) : Session (Course Unit) where
  world := { whim := (), history := .resumed history.committed :: history }

/-- The history of a run after others, its clock standing at the time given. -/
def runAfter (history : History) (now : Instant) : History :=
  (orders.run (undatedLog.environment (uncommitting now)) 1 (resuming history)).2.world.history

/-- Two runs, each of which publishes the record and commits nothing. -/
def twoRuns : History :=
  runAfter (runAfter [] .epoch) nextSecond

/-- The event of the record, decoded at a time. -/
def undatedEvent (now : Instant) : Envelope :=
  ⟨"undated", Orders.cancelledType, Text.toBytes
    "[\"00000000000000000000000000000000\",\"late\",\"1970-01-01T00:00:00Z\"]",
    ∅, "", "", none, none, none, none, now, by decide, by decide⟩

/-- The message that tells of the order. -/
def undatedMessage (now : Instant) : Message :=
  Orders.announce Orders.defaultTopic (undatedEvent now) Orders.cancelledName .zero
    (Orders.Cancelled.toValue ⟨.zero, "late", .epoch⟩)

/-- What is handed over for the record in the run at the time given. -/
def undatedHandover (now : Instant) : Handover :=
  ⟨some (undatedRecord, now), undatedMessage now,
    undatedRecord.propagatedHeaders (undatedEvent now)⟩

theorem reached_twoRuns : Reached orders undatedLog twoRuns :=
  .run (uncommitting nextSecond) (resuming (runAfter [] .epoch)) 1
    (.run (uncommitting .epoch) (resuming []) 1 .fresh rfl (List.suffix_refl _)) rfl
    (List.suffix_refl _)

theorem handovers_twoRuns :
    twoRuns.handovers = [undatedHandover nextSecond, undatedHandover .epoch] := by
  decide +kernel

theorem handovers_of_one_record_undated :
    orders.decoder = Outbox.decoder ∧ Reached orders undatedLog twoRuns ∧
      undatedHandover .epoch ∈ twoRuns.handovers ∧ undatedHandover nextSecond ∈ twoRuns.handovers ∧
      Orders.Retimed .epoch nextSecond (undatedMessage .epoch) (undatedMessage nextSecond) := by
  have first : undatedHandover .epoch ∈ twoRuns.handovers := by simp [handovers_twoRuns]
  have second : undatedHandover nextSecond ∈ twoRuns.handovers := by simp [handovers_twoRuns]
  have undated : Outbox.occurredAt? undatedRecord = none := by decide +kernel
  have retimed := ((handovers_of_one_record rfl reached_twoRuns).2 undatedRecord _ _ _ _ _ _ first
    second).2.2 Orders.defaultTopic registerAll_orders
  rw [undated] at retimed
  exact ⟨rfl, reached_twoRuns, first, second, retimed⟩

/-- A record that is not dated is published again with another time. -/
theorem undated_record_differs :
    ¬∀ (relay : Relay) (content : Content) (history : History), relay.decoder = Outbox.decoder →
      Registry.empty.registerAll (Orders.mappers Orders.defaultTopic) = .ok relay.registry →
      Reached relay content history →
      ∀ (record : SourceRecord) (now later : Instant) (message other : Message)
        (headers others : Headers),
        ⟨some (record, now), message, headers⟩ ∈ history.handovers →
        ⟨some (record, later), other, others⟩ ∈ history.handovers →
        other = message ∧ others = headers := by
  intro claimed
  have same := claimed orders undatedLog twoRuns rfl registerAll_orders reached_twoRuns
    undatedRecord .epoch nextSecond (undatedMessage .epoch) (undatedMessage nextSecond)
    (undatedRecord.propagatedHeaders (undatedEvent .epoch))
    (undatedRecord.propagatedHeaders (undatedEvent nextSecond))
    (by rw [handovers_twoRuns]; exact List.mem_cons_of_mem _ List.mem_cons_self)
    (by rw [handovers_twoRuns]; exact List.mem_cons_self)
  exact absurd same.1 (by decide +kernel)

end EventRelay.Relay

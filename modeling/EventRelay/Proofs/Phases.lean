import EventRelay.Proofs.History
import EventRelay.Relay.Loop

/-!
# Phases of a relay

What a relay may do next depends on what it has in hand: nothing, or a record at
some stage of its settlement. The moves from phase to phase are all that a relay
does; what holds of every sequence of moves holds of every run.
-/

namespace EventRelay.Relay

/-- What a relay has in hand. -/
inductive Phase
  /-- Nothing is in hand. -/
  | ready
  /-- A record came in and is not counted yet. -/
  | polled (record : SourceRecord)
  | taken (record : SourceRecord)
  /-- The record could not be decoded, which is not counted yet. -/
  | undecoded (record : SourceRecord)
  /-- The record holds an event that is to be published. -/
  | opened (record : SourceRecord) (envelope : Envelope)
  /-- The record is to be set aside. -/
  | spoiled (record : SourceRecord)
  /-- The dead letter was refused, which is not counted yet. -/
  | unforwarded (record : SourceRecord)
  /-- The log is to be rewound to the record. -/
  | stranded (record : SourceRecord)
  /-- The record may be committed, and counts then as told. -/
  | done (record : SourceRecord) (counter : Counter)
  /-- The record is settled, and there is something to count. -/
  | owing (counter : Counter)
  /-- Shutdown came before the record was settled. -/
  | abandoned (record : SourceRecord)
  /-- The log could not be rewound to the record. -/
  | stuck (record : SourceRecord)

/-- The record in hand. -/
def Phase.record? : Phase → Option SourceRecord
  | .ready | .owing _ => none
  | .polled record | .taken record | .undecoded record | .opened record _ | .spoiled record
  | .unforwarded record | .stranded record | .done record _ | .abandoned record
  | .stuck record => some record

/-- A message is what the mapper for an envelope makes of it. -/
def Makes (relay : Relay) (envelope : Envelope) (message : Message) : Prop :=
  ∃ mapper, relay.registry.resolve envelope.eventType = .ok mapper ∧
    (mapper envelope).run = .ok (.ok message)

/-- A message carries a dead letter for a record. -/
def SetsAside (relay : Relay) (record : SourceRecord) (message : Message) : Prop :=
  ∃ id now headers failure,
    message = (relay.forwarder.letter id now record headers failure).toMessage
      relay.forwarder.suffix

/-- What may happen in a phase, and the phase after it. -/
inductive Moves (relay : Relay) : Phase → Happening → Phase → Prop
  | look (given : Bool) : Moves relay .ready (.looked given) .ready
  | wait (ending : Pause) : Moves relay .ready (.paused ending) .ready
  | receive (record : SourceRecord) :
      Moves relay .ready (.polled (.ok (.record record))) (.polled record)
  | idle {answer : Except Failure Polled} (empty : ∀ record, answer ≠ .ok (.record record)) :
      Moves relay .ready (.polled answer) .ready
  | skip {record : SourceRecord} {now : Instant} {reason : String}
      (decoded : relay.decoder now record = .ok (.skipped reason)) :
      Moves relay (.taken record) (.told now) (.done record .tombstones)
  | unpack {record : SourceRecord} {now : Instant} {envelope : Envelope}
      (decoded : relay.decoder now record = .ok (.event envelope)) :
      Moves relay (.taken record) (.told now) (.opened record envelope)
  | spoil {record : SourceRecord} {now : Instant} {failure : Failure}
      (decoded : relay.decoder now record = .error failure) :
      Moves relay (.taken record) (.told now) (.undecoded record)
  | publish {record : SourceRecord} {envelope : Envelope} {message : Message}
      (makes : relay.Makes envelope message) :
      Moves relay (.opened record envelope)
        (.attempted message (record.propagatedHeaders envelope) (.finished (.ok ())))
        (.done record .published)
  | miss {record : SourceRecord} {envelope : Envelope} {message : Message} (failure : Failure)
      (makes : relay.Makes envelope message) :
      Moves relay (.opened record envelope)
        (.attempted message (record.propagatedHeaders envelope) (.finished (.error failure)))
        (.opened record envelope)
  | cutOff {record : SourceRecord} {envelope : Envelope} {message : Message}
      (makes : relay.Makes envelope message) :
      Moves relay (.opened record envelope)
        (.attempted message (record.propagatedHeaders envelope) .cutOff) (.abandoned record)
  | lookOn (record : SourceRecord) (envelope : Envelope) :
      Moves relay (.opened record envelope) (.looked false) (.opened record envelope)
  | cancel (record : SourceRecord) (envelope : Envelope) :
      Moves relay (.opened record envelope) (.looked true) (.abandoned record)
  | waitOn (record : SourceRecord) (envelope : Envelope) :
      Moves relay (.opened record envelope) (.paused .elapsed) (.opened record envelope)
  | interrupt (record : SourceRecord) (envelope : Envelope) :
      Moves relay (.opened record envelope) (.paused .interrupted) (.abandoned record)
  | date (record : SourceRecord) (now : Instant) :
      Moves relay (.spoiled record) (.told now) (.spoiled record)
  | setAside {record : SourceRecord} {message : Message}
      (carries : relay.SetsAside record message) :
      Moves relay (.spoiled record) (.forwarded message ∅ (.ok ())) (.done record .deadLettered)
  | refuse {record : SourceRecord} {message : Message} (failure : Failure)
      (carries : relay.SetsAside record message) :
      Moves relay (.spoiled record) (.forwarded message ∅ (.error failure)) (.unforwarded record)
  | rewind (record : SourceRecord) :
      Moves relay (.stranded record) (.rewound record.coordinates (.ok ()))
        (.owing .pendingRedeliveries)
  | stick (record : SourceRecord) (failure : Failure) :
      Moves relay (.stranded record) (.rewound record.coordinates (.error failure))
        (.stuck record)
  | lookBack (record : SourceRecord) (counter : Counter) :
      Moves relay (.done record counter) (.looked false) (.done record counter)
  | withhold (record : SourceRecord) (counter : Counter) :
      Moves relay (.done record counter) (.looked true) (.abandoned record)
  | commit (record : SourceRecord) (counter : Counter) :
      Moves relay (.done record counter) (.committed record.coordinates (.ok ()))
        (.owing counter)
  | decline (record : SourceRecord) (counter : Counter) (failure : Failure) :
      Moves relay (.done record counter) (.committed record.coordinates (.error failure))
        (.owing .commitFailures)
  | quit (record : SourceRecord) :
      Moves relay (.abandoned record) (.looked true) (.abandoned record)
  | overlook (record : SourceRecord) :
      Moves relay (.abandoned record) (.looked false) .ready

/-- What may be counted in a phase, and the phase after it. -/
inductive Counts (relay : Relay) : Phase → Counter → Phase → Prop
  | received (record : SourceRecord) :
      Counts relay (.polled record) .received (.taken record)
  | undecoded (record : SourceRecord) :
      Counts relay (.undecoded record) .decodeFailures (.spoiled record)
  | unmapped {record : SourceRecord} {envelope : Envelope} {failure : Failure}
      (unresolved : relay.registry.resolve envelope.eventType = .error failure) :
      Counts relay (.opened record envelope) .unmappedEvents (.spoiled record)
  | retry (record : SourceRecord) (envelope : Envelope) :
      Counts relay (.opened record envelope) .publishRetries (.opened record envelope)
  | unforwarded (record : SourceRecord) :
      Counts relay (.unforwarded record) .deadLetterFailures (.stranded record)
  | owed (counter : Counter) : Counts relay (.owing counter) counter .ready

/-- What a relay may find of itself, without anything happening. -/
inductive Finds (relay : Relay) : Phase → Phase → Prop
  | tombstone {record : SourceRecord} (tombstone : record.isTombstone = true) :
      Finds relay (.taken record) (.done record .tombstones)
  | givenUp (record : SourceRecord) (envelope : Envelope) :
      Finds relay (.opened record envelope) (.spoiled record)
  | disabled (record : SourceRecord) (disabled : relay.forwarder.enabled = false) :
      Finds relay (.spoiled record) (.stranded record)

/-- What a relay has done by a moment, and the phase it is in, when it started at
another moment with nothing in hand. Shutdown may be asked for in any phase. -/
inductive Follows (relay : Relay) (allowed : History → Happening → Prop) (start : History)
    (zero : Counters) : History → Counters → Phase → Prop
  | start : Follows relay allowed start zero start zero .ready
  | shutdown {history : History} {counters : Counters} {phase : Phase}
      (follows : Follows relay allowed start zero history counters phase) :
      Follows relay allowed start zero (.shutdown :: history) counters phase
  | happens {history : History} {counters : Counters} {phase next : Phase}
      {happening : Happening} (follows : Follows relay allowed start zero history counters phase)
      (may : allowed history happening) (moves : Moves relay phase happening next) :
      Follows relay allowed start zero (happening :: history) counters next
  | counts {history : History} {counters : Counters} {phase next : Phase} {counter : Counter}
      (follows : Follows relay allowed start zero history counters phase)
      (counts : Counts relay phase counter next) :
      Follows relay allowed start zero history (counters.add counter 1) next
  | finds {history : History} {counters : Counters} {phase next : Phase}
      (follows : Follows relay allowed start zero history counters phase)
      (finds : Finds relay phase next) :
      Follows relay allowed start zero history counters next

namespace Follows

variable {relay : Relay} {allowed : History → Happening → Prop} {start : History}
  {zero : Counters} {history : History} {counters : Counters} {phase next : Phase}

theorem lapses {later : History}
    (follows : Follows relay allowed start zero history counters phase)
    (lapses : History.Lapses history later) :
    Follows relay allowed start zero later counters phase := by
  induction lapses with
  | refl => exact follows
  | shutdown _ ih => exact .shutdown ih

theorem adds {later : History} {happening : Happening}
    (follows : Follows relay allowed start zero history counters phase)
    (adds : History.Adds allowed happening history later)
    (moves : Moves relay phase happening next) :
    Follows relay allowed start zero later counters next := by
  obtain ⟨middle, lapses, may, rfl⟩ := adds
  exact .happens (follows.lapses lapses) may moves

theorem start_suffix (follows : Follows relay allowed start zero history counters phase) :
    start <:+ history := by
  induction follows with
  | start => exact List.suffix_refl start
  | shutdown _ ih => exact ih.trans (List.suffix_cons _ _)
  | happens _ _ _ ih => exact ih.trans (List.suffix_cons _ _)
  | counts _ _ ih => exact ih
  | finds _ _ ih => exact ih

/-- At every moment since the start the relay was in some phase. -/
theorem of_suffix {moment : History}
    (follows : Follows relay allowed start zero history counters phase)
    (since : start <:+ moment) (earlier : moment <:+ history) :
    ∃ counters phase, Follows relay allowed start zero moment counters phase := by
  induction follows with
  | start =>
      have same : moment = start := earlier.eq_of_length_le since.length_le
      subst same
      exact ⟨_, _, .start⟩
  | shutdown follows ih =>
      rcases List.suffix_cons_iff.mp earlier with rfl | earlier
      · exact ⟨_, _, .shutdown follows⟩
      · exact ih earlier
  | happens follows may moves ih =>
      rcases List.suffix_cons_iff.mp earlier with rfl | earlier
      · exact ⟨_, _, .happens follows may moves⟩
      · exact ih earlier
  | counts _ _ ih => exact ih earlier
  | finds _ _ ih => exact ih earlier

/-- The last thing that happened was allowed, and was a move of the relay unless
shutdown was asked for. -/
theorem of_cons {happening : Happening}
    (follows : Follows relay allowed start zero (happening :: history) counters phase)
    (since : start <:+ history) :
    happening = .shutdown ∨ ∃ counters phase next,
      Follows relay allowed start zero history counters phase ∧ allowed history happening ∧
        Moves relay phase happening next := by
  generalize whole : happening :: history = moment at follows
  induction follows with
  | start =>
      have longer := since.length_le
      rw [← whole, List.length_cons] at longer
      omega
  | shutdown =>
      cases whole
      exact .inl rfl
  | happens follows may moves =>
      cases whole
      exact .inr ⟨_, _, _, follows, may, moves⟩
  | counts _ _ ih => exact ih whole
  | finds _ _ ih => exact ih whole

end Follows

end EventRelay.Relay

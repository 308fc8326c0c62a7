import EventRelay.Orders.Mapping
import EventRelay.Proofs.PartitionedLog
import EventRelay.Proofs.Recording
import EventRelay.Proofs.Settlements
import Mathlib.Control.Monad.Basic

/-!
# Accounts of the records received

Every record that a relay receives is settled once, where it lies, and is counted for
how it was settled, unless an overflow breaks off the poll that took it in. The accounts of
one poll balance, whatever it comes to, and accounts that balance can be added up; so the
counters balance after any number of polls.
-/

namespace EventRelay.Relay

open Run

namespace Happening

/-- Whether a record came in. -/
def isRecord : Happening → Bool
  | .polled (.ok (.record _)) => true
  | _ => false

/-- Whether the log was asked to commit a record. -/
def isCommit : Happening → Bool
  | .committed _ _ => true
  | _ => false

/-- Whether the log was asked to go back to a record. -/
def isRewind : Happening → Bool
  | .rewound _ _ => true
  | _ => false

/-- Whether the log could not go back to a record. -/
def isRefusedRewind : Happening → Bool
  | .rewound _ (.error _) => true
  | _ => false

variable {happening : Happening}

theorem isRequest_of_isRecord (record : happening.isRecord = true) :
    happening.isRequest = true := by
  cases happening <;> first | rfl | contradiction

theorem isRequest_of_isCommit (commit : happening.isCommit = true) :
    happening.isRequest = true := by
  cases happening <;> first | rfl | contradiction

theorem isRequest_of_isRewind (rewind : happening.isRewind = true) :
    happening.isRequest = true := by
  cases happening <;> first | rfl | contradiction

theorem isRequest_of_isRefusedRewind (refused : happening.isRefusedRewind = true) :
    happening.isRequest = true := by
  cases happening <;> first | rfl | contradiction

end Happening

/-- What is nothing but a request can be counted among the requests. -/
theorem History.countP_requests (history : History) {counts : Happening → Bool}
    (request : ∀ {happening}, counts happening = true → happening.isRequest = true) :
    history.requests.countP counts = history.countP counts := by
  unfold History.requests
  rw [List.countP_filter]
  apply List.countP_congr
  intro happening _
  simpa using request

/-- What a poll comes to: its result, or an overflow that breaks it off. -/
abbrev Outcome : Type :=
  Except Overflow (Except Failure (Option Disposition))

namespace Outcome

/-- Whether a poll left its record as it is. -/
def isAbandonment : Outcome → Bool
  | .ok (.ok (some .abandoned)) => true
  | _ => false

/-- Whether a poll was broken off. -/
def isBreak : Outcome → Bool
  | .error _ => true
  | .ok _ => false

end Outcome

/-- The counts and what was asked of the log account for every record received, given how
many were abandoned and how many polls were broken off. -/
structure Balanced (history : History) (count : Counter → Nat) (abandoned broken : Nat) :
    Prop where
  records : history.countP Happening.isRecord = count .received
  received : count .received =
    count .published + count .deadLettered + count .tombstones + count .pendingRedeliveries +
      count .commitFailures + abandoned + history.countP Happening.isRefusedRewind + broken
  commits : history.countP Happening.isCommit =
    count .published + count .deadLettered + count .tombstones + count .commitFailures
  rewinds : history.countP Happening.isRewind =
    count .pendingRedeliveries + history.countP Happening.isRefusedRewind
  deadLetters : count .deadLetterFailures ≤ history.countP Happening.isRewind

namespace Balanced

variable {history since : History} {count more : Counter → Nat}
  {abandoned further broken others : Nat}

theorem nil : Balanced [] Counters.zero.get 0 0 :=
  ⟨rfl, rfl, rfl, rfl, Nat.le_refl 0⟩

/-- Accounts that balance can be added up. -/
theorem append (balanced : Balanced history count abandoned broken)
    (later : Balanced since more further others) :
    Balanced (since ++ history) (fun counter => count counter + more counter)
      (abandoned + further) (broken + others) where
  records := by
    rw [List.countP_append, balanced.records, later.records]
    omega
  received := by
    rw [List.countP_append, balanced.received, later.received]
    omega
  commits := by
    rw [List.countP_append, balanced.commits, later.commits]
    omega
  rewinds := by
    rw [List.countP_append, List.countP_append, balanced.rewinds, later.rewinds]
    omega
  deadLetters := by
    rw [List.countP_append, Nat.add_comm]
    exact Nat.add_le_add later.deadLetters balanced.deadLetters

/-- Accounts say nothing of counts that only tell why. -/
theorem congr (balanced : Balanced history count abandoned broken)
    (same : ∀ counter, counter.isTallied = true → more counter = count counter) :
    Balanced history more abandoned broken where
  records := by simpa only [same .received rfl] using balanced.records
  received := by
    simpa only [same .received rfl, same .published rfl, same .deadLettered rfl,
      same .tombstones rfl, same .pendingRedeliveries rfl, same .commitFailures rfl]
      using balanced.received
  commits := by
    simpa only [same .published rfl, same .deadLettered rfl, same .tombstones rfl,
      same .commitFailures rfl] using balanced.commits
  rewinds := by simpa only [same .pendingRedeliveries rfl] using balanced.rewinds
  deadLetters := by simpa only [same .deadLetterFailures rfl] using balanced.deadLetters

/-- Accounts depend on what was asked of the log alone. -/
theorem of_requests (balanced : Balanced history.requests count abandoned broken) :
    Balanced history count abandoned broken := by
  have records := history.countP_requests Happening.isRequest_of_isRecord
  have commits := history.countP_requests Happening.isRequest_of_isCommit
  have rewinds := history.countP_requests Happening.isRequest_of_isRewind
  have refused := history.countP_requests Happening.isRequest_of_isRefusedRewind
  constructor
  · rw [← records]
    exact balanced.records
  · rw [← refused]
    exact balanced.received
  · rw [← commits]
    exact balanced.commits
  · rw [← rewinds, ← refused]
    exact balanced.rewinds
  · rw [← rewinds]
    exact balanced.deadLetters

/-- Accounts of what was asked of the log since are added to those of what happened before. -/
theorem extend {after : Counter → Nat} (balanced : Balanced history count abandoned broken)
    (settled : Balanced since.requests more further others)
    (counted : ∀ counter, counter.isTallied = true →
      after counter = count counter + more counter) :
    Balanced (since ++ history) after (abandoned + further) (broken + others) :=
  (balanced.append settled.of_requests).congr counted

end Balanced

/-- The accounts of one poll that comes to a result balance. -/
theorem Visit.balanced (visit : Visit) :
    Balanced visit.requests visit.counted.count
      (if Outcome.isAbandonment (.ok visit.result) then 1 else 0) 0 := by
  cases visit with
  | settled record settlement =>
      cases settlement with
      | rewound refused =>
          cases refused with
          | false => exact ⟨rfl, rfl, rfl, rfl, Nat.zero_le _⟩
          | true => exact ⟨rfl, rfl, rfl, rfl, Nat.le_refl 1⟩
      | stuck refused failure =>
          cases refused with
          | false => exact ⟨rfl, rfl, rfl, rfl, Nat.zero_le _⟩
          | true => exact ⟨rfl, rfl, rfl, rfl, Nat.le_refl 1⟩
      | _ => exact ⟨rfl, rfl, rfl, rfl, Nat.zero_le _⟩
  | _ => exact ⟨rfl, rfl, rfl, rfl, Nat.zero_le _⟩

/-- The accounts of one that is broken off with a record in hand balance too. -/
theorem Balanced.broken (record : SourceRecord) :
    Balanced [.polled (.ok (.record record))] (List.count · [.received]) 0 1 :=
  ⟨rfl, rfl, rfl, rfl, Nat.zero_le _⟩

/-! ## Polls one after another -/

/-- What a poll that came to this asked of the log, latest first: it handed out at most one
record, and asked at most one thing about it. If it was broken off, it handed out a record and
asked nothing. -/
inductive Dealt (outcome : Outcome) : List Happening → Prop
  /-- No record came in. -/
  | empty {answer : Except Failure Polled} (returned : outcome.isBreak = false)
      (none : ∀ record, answer ≠ .ok (.record record)) : Dealt outcome [.polled answer]
  | committed (returned : outcome.isBreak = false) (record : SourceRecord)
      (answer : Except Failure Unit) :
      Dealt outcome [.committed record.coordinates answer, .polled (.ok (.record record))]
  | rewound (returned : outcome.isBreak = false) (record : SourceRecord)
      (answer : Except Failure Unit) :
      Dealt outcome [.rewound record.coordinates answer, .polled (.ok (.record record))]
  | abandoned (left : outcome.isAbandonment = true) (record : SourceRecord) :
      Dealt outcome [.polled (.ok (.record record))]
  | broken (broke : outcome.isBreak = true) (record : SourceRecord) :
      Dealt outcome [.polled (.ok (.record record))]

theorem Visit.dealt (visit : Visit) : Dealt (.ok visit.result) visit.requests := by
  cases visit with
  | settled record settlement =>
      cases settlement with
      | published => exact .committed rfl record _
      | skipped => exact .committed rfl record _
      | setAside => exact .committed rfl record _
      | declined failure => exact .committed rfl record _
      | rewound refused => exact .rewound rfl record _
      | stuck refused failure => exact .rewound rfl record _
      | abandoned => exact .abandoned rfl record
  | failed failure => exact .empty rfl (by simp)
  | idle => exact .empty rfl (by simp)
  | partitionEnd partition => exact .empty rfl (by simp)

variable {ω : Type} {relay : Relay}

/-- A session whose world has changed, which is none of the relay's doing. -/
def changed (session : Session (Recorded ω)) (world : ω) : Session (Recorded ω) :=
  { session with world := { session.world with world } }

/-- The sessions that a relay comes to by polls one after another, and what the polls came
to, latest first. Each poll finds a world that may have changed, and works with whatever it
is given. A poll that is broken off is a poll as well. -/
inductive Polls (relay : Relay) : Session (Recorded ω) → List Outcome → Prop
  | start (world : ω) : Polls relay { world := { world } } []
  | poll {session later : Session (Recorded ω)} {outcomes : List Outcome} {outcome : Outcome}
      (environment : Environment ω) (world : ω) (polls : Polls relay session outcomes)
      (ran : relay.pollOnce environment.recorded (changed session world) = (outcome, later)) :
      Polls relay later (outcome :: outcomes)

/-- One more poll settles the record it is handed once, unless it is broken off, and keeps
accounts balanced. -/
theorem Balanced.pollOnce (relay : Relay) (environment : Environment ω)
    (session : Session (Recorded ω)) {abandoned broken : Nat}
    (balanced : Balanced session.world.history session.counters.get abandoned broken) :
    match relay.pollOnce environment.recorded session with
    | (outcome, later) =>
        Balanced later.world.history later.counters.get
            (abandoned + if Outcome.isAbandonment outcome then 1 else 0)
            (broken + if Outcome.isBreak outcome then 1 else 0) ∧
          ∃ since, later.world.history = since ++ session.world.history ∧
            Dealt outcome (History.requests since) := by
  have led := Mark.pollOnce_asks environment.keeps_recorded relay session
    (Mark.asked_nil Recorded.history session)
  revert led
  rcases relay.pollOnce environment.recorded session with ⟨overflow | result, later⟩
  · rintro ⟨record, ⟨since, whole, asks⟩, counted⟩
    have settled : Balanced since.requests (List.count · [.received]) 0 1 := by
      rw [asks.asked]
      exact .broken record
    have added := balanced.extend settled counted
    rw [← show later.world.history = since ++ session.world.history from whole] at added
    refine ⟨added, since, whole, ?_⟩
    rw [asks.asked]
    exact .broken rfl record
  · rintro ⟨visit, rfl, ⟨since, whole, asks⟩, counted⟩
    have settled : Balanced since.requests visit.counted.count
        (if Outcome.isAbandonment (.ok visit.result) then 1 else 0) 0 := by
      rw [asks.asked]
      exact visit.balanced
    have added := balanced.extend settled counted
    rw [← show later.world.history = since ++ session.world.history from whole] at added
    refine ⟨added, since, whole, ?_⟩
    rw [asks.asked]
    exact visit.dealt

variable {session : Session (Recorded ω)} {outcomes : List Outcome}

theorem Polls.balanced (polls : Polls relay session outcomes) :
    Balanced session.world.history session.counters.get (outcomes.countP Outcome.isAbandonment)
      (outcomes.countP Outcome.isBreak) := by
  induction polls with
  | start world => exact .nil
  | @poll session later outcomes outcome environment world polls ran ih =>
      have step := Balanced.pollOnce relay environment (changed session world) ih
      rw [ran] at step
      rw [List.countP_cons, List.countP_cons]
      exact step.1

/-- After any number of polls the accounts balance, with the polls that were broken off. The
next poll settles the record that it is handed once, where it lies, unless it is broken off
with that record in hand. -/
theorem balanced_polls (polls : Polls relay session outcomes) :
    Balanced session.world.history session.counters.get (outcomes.countP Outcome.isAbandonment)
        (outcomes.countP Outcome.isBreak) ∧
      ∀ (environment : Environment ω) (world : ω),
        match relay.pollOnce environment.recorded (changed session world) with
        | (outcome, later) =>
            ∃ since, later.world.history = since ++ session.world.history ∧
              Dealt outcome (History.requests since) := by
  have balanced := polls.balanced
  refine ⟨balanced, ?_⟩
  intro environment world
  exact (Balanced.pollOnce relay environment (changed session world) balanced).2

/-- Poll a log of these records in the world as it was left, with or without a request for
shutdown. -/
def pollOf (relay : Relay) (records : List SourceRecord) (fires : Bool)
    (session : Session (Recorded (Course Unit))) :
    Outcome × Session (Recorded (Course Unit)) :=
  let place : Place := ⟨"outbox", 0⟩
  let whims := { Whims.smooth place with fires := pure fires }
  relay.pollOnce ((Content.single place records).environment whims).recorded
    (changed session session.world.world)

theorem Polls.pollOf {session : Session (Recorded (Course Unit))}
    (polls : Polls relay session outcomes) {records : List SourceRecord} {fires : Bool}
    {polled : Outcome × Session (Recorded (Course Unit))}
    (ran : relay.pollOf records fires session = polled) :
    Polls relay polled.2 (polled.1 :: outcomes) :=
  .poll _ _ polls ran

/-- A record is published, shutdown is asked for while the next one is, and what the third one
says overflows where it is mapped. -/
theorem balanced_polls_passing :
    let mapper : Mapper := fun envelope =>
      if envelope.payload = [2] then .mk (.error .addition)
      else Mapper.forwarding "orders" ∅ envelope
    let relay : Relay :=
      { passing with registry := ⟨Dictionary.empty.insert "created" mapper⟩ }
    let record (byte : UInt8) : SourceRecord := ⟨⟨"", 0, 0⟩, none, some [byte], ∅, none⟩
    let records := [record 1, record 1, record 2]
    let first := relay.pollOf records false { world := { world := opening.world } }
    let second := relay.pollOf records true first.2
    let third := relay.pollOf records false second.2
    Polls relay third.2
        [.error .addition, .ok (.ok (some .abandoned)), .ok (.ok (some .committed))] ∧
      Balanced third.2.world.history third.2.counters.get 1 1 ∧
        third.2.counters.received = 3 ∧ third.2.counters.published = 1 := by
  intro mapper relay record records first second third
  have committed : first.1 = .ok (.ok (some .committed)) := by decide +kernel
  have abandoned : second.1 = .ok (.ok (some .abandoned)) := by decide +kernel
  have broken : third.1 = .error .addition := by decide +kernel
  have once : Polls relay first.2 [first.1] := (Polls.start opening.world).pollOf rfl
  have twice : Polls relay second.2 [second.1, first.1] := once.pollOf rfl
  have polls : Polls relay third.2 [third.1, second.1, first.1] := twice.pollOf rfl
  rw [broken, abandoned, committed] at polls
  exact ⟨polls, (balanced_polls polls).1, by decide +kernel, by decide +kernel⟩

/-- A relay of created orders. -/
def orderRelay : Relay :=
  { passing with
    decoder := Outbox.decoder
    registry := ⟨Dictionary.empty.insert Orders.createdType
      (Orders.mapCreated Orders.defaultTopic)⟩ }

/-- A record of an order that cannot be summed up. -/
def excessiveRecord : SourceRecord where
  coordinates := ⟨"outbox", 0, 0⟩
  value := some <| Text.toBytes <|
    "\x7b\"id\":\"e-1\",\"type\":\"Orders.Created\",\"payload\":" ++
      "[\"00000000000000000000000000000000\",\"00000000000000000000000000000000\",\"USD\"," ++
      "[[\"A\",1,9223372036854775807],[\"B\",1,1]],\"1970-01-01T00:00:00Z\"]\x7d"

/-- The poll that takes in such an order leaves its record unsettled, with nothing but its receipt
counted. -/
theorem poll_of_excessive_unbalanced :
    let polled := orderRelay.pollOf [excessiveRecord] false { world := { world := opening.world } }
    let count := polled.2.counters.get
    let history := polled.2.world.history
    Polls orderRelay polled.2 [.error .addition] ∧
      history.countP Happening.isRecord = 1 ∧ history.countP Happening.isCommit = 0 ∧
      history.countP Happening.isRewind = 0 ∧
      count .received ≠
        count .published + count .deadLettered + count .tombstones + count .pendingRedeliveries +
          count .commitFailures + [(.error .addition : Outcome)].countP Outcome.isAbandonment +
            history.countP Happening.isRefusedRewind := by
  intro polled count history
  have told : polled.1 = .error .addition ∧ history.countP Happening.isRecord = 1 ∧
      history.countP Happening.isCommit = 0 ∧ history.countP Happening.isRewind = 0 ∧
      history.countP Happening.isRefusedRewind = 0 ∧
      polled.2.counters = { Counters.zero with received := 1 } := by
    decide +kernel
  obtain ⟨broken, records, commits, rewinds, refused, counted⟩ := told
  have polls : Polls orderRelay polled.2 [polled.1] := (Polls.start opening.world).pollOf rfl
  rw [broken] at polls
  refine ⟨polls, records, commits, rewinds, ?_⟩
  rw [refused, show count = Counters.get { Counters.zero with received := 1 } from
    congrArg Counters.get counted]
  decide

end EventRelay.Relay

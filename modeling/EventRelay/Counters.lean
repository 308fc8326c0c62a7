import EventRelay.Dictionary

/-!
# Counters of a relay

Ten counts that only grow. A counter shows the low sixty-four bits of its count.
Each is published as a metric of its own, labelled with the service it belongs to;
of several relays that name one service, the first to be announced is the one that
is published.
-/

namespace EventRelay

/-- What is counted. -/
inductive Counter
  | received
  | published
  | deadLettered
  | tombstones
  | decodeFailures
  | unmappedEvents
  | publishRetries
  | deadLetterFailures
  | commitFailures
  | pendingRedeliveries
  deriving DecidableEq, Repr

namespace Counter

/-- Every counter, by increasing metric name. -/
def all : List Counter :=
  [.commitFailures, .deadLetterFailures, .decodeFailures, .deadLettered, .published, .received,
   .pendingRedeliveries, .publishRetries, .tombstones, .unmappedEvents]

/-- The name of a counter. -/
def name : Counter → String
  | .received => "received"
  | .published => "published"
  | .deadLettered => "dead_lettered"
  | .tombstones => "tombstones"
  | .decodeFailures => "decode_failures"
  | .unmappedEvents => "unmapped_events"
  | .publishRetries => "publish_retries"
  | .deadLetterFailures => "dead_letter_failures"
  | .commitFailures => "commit_failures"
  | .pendingRedeliveries => "pending_redeliveries"

/-- The counter with a name. -/
def ofName? (name : String) : Option Counter :=
  all.find? fun counter => counter.name == name

/-- The name of the metric that publishes a counter. -/
def metricName : Counter → String
  | .received => "relay_messages_received_total"
  | .published => "relay_messages_published_total"
  | .deadLettered => "relay_messages_dead_lettered_total"
  | .tombstones => "relay_tombstones_total"
  | .decodeFailures => "relay_decode_failures_total"
  | .unmappedEvents => "relay_unmapped_events_total"
  | .publishRetries => "relay_publish_retries_total"
  | .deadLetterFailures => "relay_dead_letter_failures_total"
  | .commitFailures => "relay_commit_failures_total"
  | .pendingRedeliveries => "relay_pending_redeliveries_total"

/-- What the metric of a counter tells. -/
def help : Counter → String
  | .received => "Records received from the source log"
  | .published => "Mapped messages published downstream and committed"
  | .deadLettered => "Records forwarded to a dead-letter topic and committed"
  | .tombstones => "Tombstone records acknowledged without processing"
  | .decodeFailures => "Records whose value could not be decoded into an envelope"
  | .unmappedEvents => "Envelopes with no registered mapper"
  | .publishRetries => "Publish retries performed by the retry policy"
  | .deadLetterFailures => "Dead-letter forwards that failed, leaving the offset uncommitted"
  | .commitFailures => "Offset commits rejected by the broker"
  | .pendingRedeliveries => "Records rewound for redelivery"

theorem all_ordered : (all.map metricName).Pairwise (· < ·) := by decide

end Counter

/-- The counts of one relay. -/
structure Counters where
  received : Nat := 0
  published : Nat := 0
  deadLettered : Nat := 0
  tombstones : Nat := 0
  decodeFailures : Nat := 0
  unmappedEvents : Nat := 0
  publishRetries : Nat := 0
  deadLetterFailures : Nat := 0
  commitFailures : Nat := 0
  pendingRedeliveries : Nat := 0
  deriving DecidableEq, Repr

namespace Counters

/-- Nothing counted yet. -/
def zero : Counters := { received := 0 }

/-- The count of one thing. -/
def get (counters : Counters) : Counter → Nat
  | .received => counters.received
  | .published => counters.published
  | .deadLettered => counters.deadLettered
  | .tombstones => counters.tombstones
  | .decodeFailures => counters.decodeFailures
  | .unmappedEvents => counters.unmappedEvents
  | .publishRetries => counters.publishRetries
  | .deadLetterFailures => counters.deadLetterFailures
  | .commitFailures => counters.commitFailures
  | .pendingRedeliveries => counters.pendingRedeliveries

/-- Count one thing `amount` more times. -/
def add (counters : Counters) (counter : Counter) (amount : Nat) : Counters :=
  match counter with
  | .received => { counters with received := counters.received + amount }
  | .published => { counters with published := counters.published + amount }
  | .deadLettered => { counters with deadLettered := counters.deadLettered + amount }
  | .tombstones => { counters with tombstones := counters.tombstones + amount }
  | .decodeFailures => { counters with decodeFailures := counters.decodeFailures + amount }
  | .unmappedEvents => { counters with unmappedEvents := counters.unmappedEvents + amount }
  | .publishRetries => { counters with publishRetries := counters.publishRetries + amount }
  | .deadLetterFailures =>
      { counters with deadLetterFailures := counters.deadLetterFailures + amount }
  | .commitFailures => { counters with commitFailures := counters.commitFailures + amount }
  | .pendingRedeliveries =>
      { counters with pendingRedeliveries := counters.pendingRedeliveries + amount }

/-- Counting changes one count and leaves the others. -/
@[simp]
theorem get_add (counters : Counters) (counter other : Counter) (amount : Nat) :
    (counters.add counter amount).get other =
      counters.get other + if other = counter then amount else 0 := by
  cases counter <;> cases other <;> simp [add, get]

/-- What a counter shows: it has sixty-four bits, and starts again from zero. -/
def shown (counters : Counters) (counter : Counter) : UInt64 :=
  UInt64.ofNat (counters.get counter)

/-- What is shown grows as the count does, up to where it starts again. -/
@[simp]
theorem shown_add (counters : Counters) (counter other : Counter) (amount : Nat) :
    (counters.add counter amount).shown other =
      counters.shown other + if other = counter then UInt64.ofNat amount else 0 := by
  simp only [shown, get_add]
  split <;> simp

end Counters

/-- The relays announced so far, in order, each with its service and its counts. -/
structure MetricBoard where
  relays : List (String × Counters) := []

namespace MetricBoard

/-- Announce a relay of a service. -/
def announce (board : MetricBoard) (service : String) : MetricBoard :=
  ⟨board.relays ++ [(service, Counters.zero)]⟩

/-- Let the relay at `position` count. -/
def add (board : MetricBoard) (position : Nat) (counter : Counter) (amount : Nat) :
    MetricBoard :=
  ⟨board.relays.modify position fun (service, counters) =>
    (service, counters.add counter amount)⟩

/-- The double nearest to a word, as a word; at most the last word. -/
def asDouble (word : UInt64) : UInt64 :=
  (Float.ofNat word.toNat).toUInt64

/-- What is published of a counter: a value per service, that of the relay first
announced. Values are published as doubles. -/
def values (board : MetricBoard) (counter : Counter) : List (String × UInt64) :=
  let published := board.relays.foldl
    (fun (values : Dictionary UInt64) (service, counters) =>
      if values.contains service then values
      else values.insert service (asDouble (counters.shown counter)))
    ∅
  published.entries

/-- The metrics that have values, by increasing name. -/
def families (board : MetricBoard) : List (Counter × List (String × UInt64)) :=
  if board.relays.isEmpty then []
  else Counter.all.map fun counter => (counter, board.values counter)

end MetricBoard

end EventRelay

import EventRelay.Failure.Kind
import EventRelay.Retry.Policy
import EventRelay.Settings.Fault

/-!
# Settings of a relay

What operators can set, with the values that hold where they set nothing, and
what makes settings usable. Kinds of failure are named by texts and understood
once, when the retry policy is built.
-/

namespace EventRelay

/-- The retry strategies to choose from. -/
inductive StrategyChoice
  | never
  | immediate
  | interval
  | incremental
  | exponential
  deriving DecidableEq, Repr

/-- The forms of the journal to choose from. -/
inductive LogFormat
  | text
  | json
  deriving DecidableEq, Repr

/-- The settings of a relay. Times are in milliseconds. -/
structure Settings where
  serviceName : String := "outbox-relay"
  brokers : String := "localhost:9092"
  /-- The topics to read; blank ones do not count. -/
  sourceTopics : List String := ["outbox.events"]
  /-- The group of readers to join. -/
  groupId : String := "outbox-relay"
  schemaRegistryUrl : Option String := none
  /-- How long a poll waits for a record. -/
  pollTimeoutMillis : UInt64 := 1000
  /-- How long to wait before a record is delivered again. -/
  redeliveryBackoffMillis : UInt64 := 5000
  /-- How long a publish may take. -/
  publishTimeoutMillis : UInt64 := 30000
  /-- How long the group waits for a silent reader. -/
  sessionTimeoutMillis : UInt64 := 30000
  retryStrategy : StrategyChoice := .exponential
  /-- How many retries may follow the first attempt. -/
  retryLimit : UInt32 := 5
  intervalScheduleMillis : List UInt64 := [100, 500, 1000]
  incrementalInitialMillis : UInt64 := 100
  incrementalStepMillis : UInt64 := 200
  exponentialMinMillis : UInt64 := 100
  exponentialMaxMillis : UInt64 := 10000
  exponentialFactor : Float := 2
  /-- The kinds of failure to retry; when there are none, every kind. -/
  handleKinds : List String := []
  /-- The kinds of failure never to retry. -/
  ignoreKinds : List String :=
    ["ValidationError", "SerializationError", "MessageTooLargeError"]
  /-- What the topic of a dead letter ends in. -/
  deadLetterSuffix : String := "_error"
  deadLetterEnabled : Bool := true
  logFormat : LogFormat := .text

/-- The kinds that a list names; blank entries name none. -/
def readKinds (names : List String) : Except SettingsFault (List FailureKind) :=
  (names.filter fun name => !Text.isBlank name).mapM fun name =>
    match FailureKind.ofName? name with
    | some kind => .ok kind
    | none => .error (.unknownKind (Text.trim name))

namespace Settings

/-- The settings that hold where nothing is set. -/
def default : Settings := { serviceName := "outbox-relay" }

instance : Inhabited Settings := ⟨default⟩

/-- The topics to read, without blanks around them. -/
def topics (settings : Settings) : List String :=
  (settings.sourceTopics.map Text.trim).filter fun topic => !topic.isEmpty

/-- How long a poll waits for a record. -/
def pollTimeout (settings : Settings) : Duration :=
  Duration.ofMillis settings.pollTimeoutMillis

/-- How long to wait before a record is delivered again. -/
def redeliveryBackoff (settings : Settings) : Duration :=
  Duration.ofMillis settings.redeliveryBackoffMillis

/-- How long a publish may take. -/
def publishTimeout (settings : Settings) : Duration :=
  Duration.ofMillis settings.publishTimeoutMillis

/-! ## The retry policy -/

/-- Kinds that no second attempt can help, whatever is set. -/
def structuralKinds : List FailureKind :=
  [.decode, .mappingNotFound]

/-- The strategy chosen, with what is set for it. -/
def strategy (settings : Settings) : Retry.Strategy :=
  match settings.retryStrategy with
  | .never => .never
  | .immediate => .immediate
  | .interval => .intervals (settings.intervalScheduleMillis.map Duration.ofMillis)
  | .incremental =>
      .incremental (Duration.ofMillis settings.incrementalInitialMillis)
        (Duration.ofMillis settings.incrementalStepMillis)
  | .exponential =>
      .exponential (Duration.ofMillis settings.exponentialMinMillis)
        (Duration.ofMillis settings.exponentialMaxMillis) settings.exponentialFactor

/-- The retry policy that is set. -/
def retryPolicy (settings : Settings) :
    Except SettingsFault (Retry.Policy FailureKind) := do
  let handle ← readKinds settings.handleKinds
  let ignore ← readKinds settings.ignoreKinds
  let structural := structuralKinds.filter fun kind => !ignore.contains kind
  return {
    strategy := settings.strategy
    limit := settings.retryLimit
    filter := { handle, ignore := ignore ++ structural } }

/-! ## Usable settings -/

/-- Why settings are not usable; of several reasons the first in this order. -/
def fault? (settings : Settings) : Option SettingsFault :=
  if settings.topics.isEmpty then some .noTopic
  else if Text.isBlank settings.groupId then some .blankGroup
  else if settings.pollTimeoutMillis = 0 then some .zeroPollTimeout
  else if settings.exponentialFactor < 1 then
    some (.factorBelowOne settings.exponentialFactor)
  else if settings.exponentialMaxMillis < settings.exponentialMinMillis then
    some (.boundsCrossed settings.exponentialMinMillis settings.exponentialMaxMillis)
  else if settings.retryStrategy = .interval ∧ settings.intervalScheduleMillis.isEmpty then
    some .emptySchedule
  else
    match readKinds settings.handleKinds, readKinds settings.ignoreKinds with
    | .error fault, _ => some fault
    | .ok _, .error fault => some fault
    | .ok _, .ok _ => none

/-- Accept usable settings. -/
def validate (settings : Settings) : Except SettingsFault Unit :=
  match settings.fault? with
  | some fault => .error fault
  | none => .ok ()

end Settings

end EventRelay

import EventRelay.Settings.Basic

/-!
# The fields of settings

Every setting has a name, a kind of value, and a way to read it off settings and
to set it. Where settings are read from, and where they are shown, go by this
table.
-/

namespace EventRelay

/-- How a value is read off settings, and how it is set. -/
structure Access (α : Type) where
  get : Settings → α
  set : Settings → α → Settings

/-- A setting, by the kind of value that it takes. -/
inductive Field
  | text (access : Access String)
  | optionalText (access : Access (Option String))
  | texts (access : Access (List String))
  | word (access : Access UInt64)
  | words (access : Access (List UInt64))
  | limit (access : Access UInt32)
  | number (access : Access Float)
  | flag (access : Access Bool)
  | strategy (access : Access StrategyChoice)
  | format (access : Access LogFormat)

namespace Settings

/-- The settings by name. -/
def fields : List (String × Field) :=
  [("service_name", .text ⟨serviceName, fun settings value =>
      { settings with serviceName := value }⟩),
   ("brokers", .text ⟨brokers, fun settings value => { settings with brokers := value }⟩),
   ("source_topics", .texts ⟨sourceTopics, fun settings value =>
      { settings with sourceTopics := value }⟩),
   ("group_id", .text ⟨groupId, fun settings value => { settings with groupId := value }⟩),
   ("schema_registry_url", .optionalText ⟨schemaRegistryUrl, fun settings value =>
      { settings with schemaRegistryUrl := value }⟩),
   ("poll_timeout_ms", .word ⟨pollTimeoutMillis, fun settings value =>
      { settings with pollTimeoutMillis := value }⟩),
   ("redelivery_backoff_ms", .word ⟨redeliveryBackoffMillis, fun settings value =>
      { settings with redeliveryBackoffMillis := value }⟩),
   ("publish_timeout_ms", .word ⟨publishTimeoutMillis, fun settings value =>
      { settings with publishTimeoutMillis := value }⟩),
   ("session_timeout_ms", .word ⟨sessionTimeoutMillis, fun settings value =>
      { settings with sessionTimeoutMillis := value }⟩),
   ("retry_strategy", .strategy ⟨retryStrategy, fun settings value =>
      { settings with retryStrategy := value }⟩),
   ("retry_limit", .limit ⟨retryLimit, fun settings value =>
      { settings with retryLimit := value }⟩),
   ("retry_interval_schedule_ms", .words ⟨intervalScheduleMillis, fun settings value =>
      { settings with intervalScheduleMillis := value }⟩),
   ("retry_incremental_initial_ms", .word ⟨incrementalInitialMillis, fun settings value =>
      { settings with incrementalInitialMillis := value }⟩),
   ("retry_incremental_step_ms", .word ⟨incrementalStepMillis, fun settings value =>
      { settings with incrementalStepMillis := value }⟩),
   ("retry_exponential_min_ms", .word ⟨exponentialMinMillis, fun settings value =>
      { settings with exponentialMinMillis := value }⟩),
   ("retry_exponential_max_ms", .word ⟨exponentialMaxMillis, fun settings value =>
      { settings with exponentialMaxMillis := value }⟩),
   ("retry_exponential_factor", .number ⟨exponentialFactor, fun settings value =>
      { settings with exponentialFactor := value }⟩),
   ("retry_handle_kinds", .texts ⟨handleKinds, fun settings value =>
      { settings with handleKinds := value }⟩),
   ("retry_ignore_kinds", .texts ⟨ignoreKinds, fun settings value =>
      { settings with ignoreKinds := value }⟩),
   ("dead_letter_topic_suffix", .text ⟨deadLetterSuffix, fun settings value =>
      { settings with deadLetterSuffix := value }⟩),
   ("dead_letter_enabled", .flag ⟨deadLetterEnabled, fun settings value =>
      { settings with deadLetterEnabled := value }⟩),
   ("log_format", .format ⟨logFormat, fun settings value =>
      { settings with logFormat := value }⟩)]

end Settings

/-- The spellings of the retry strategies; the first of each is its name. -/
def strategySpellings : List (String × StrategyChoice) :=
  [("None", .never), ("none", .never),
   ("Immediate", .immediate), ("immediate", .immediate),
   ("Interval", .interval), ("interval", .interval),
   ("Incremental", .incremental), ("incremental", .incremental),
   ("Exponential", .exponential), ("exponential", .exponential)]

/-- The spellings of the forms of the journal. -/
def logFormatSpellings : List (String × LogFormat) :=
  [("Text", .text), ("text", .text), ("JSON", .json), ("Json", .json), ("json", .json)]

end EventRelay

import EventRelay.Journal
import EventRelay.Retry.Policy
import EventRelay.Session
import EventRelay.Signal

/-!
# The retry engine

Work is attempted until it succeeds, until its failure is of a kind that is not
retried, until the retries are used up, or until the shutdown signal is given.
An attempt is raced against the signal; a result that an attempt has produced is
never taken back. Every run of the engine leaves one sample.
-/

namespace EventRelay.Retry

/-- Failures that the engine can handle. -/
class Classified (ε : Type) (κ : outParam Type) where
  /-- The kind of a failure. -/
  kind : ε → κ
  /-- The wording of a failure. -/
  message : ε → String
  /-- The name of a kind. -/
  kindName : κ → String

/-- What an attempt is told. -/
structure Context where
  /-- What the work is about. -/
  subject : String
  /-- The number of the attempt, from one. -/
  attempt : Nat
  maxRetries : Nat
  /-- The name of the strategy. -/
  strategy : String
  /-- The wording of the failure before this attempt. -/
  lastError : Option String
  deriving DecidableEq, Repr

/-- How many retries this attempt makes. -/
def Context.retries (context : Context) : Nat :=
  context.attempt - 1

/-- Why the engine gave up. -/
inductive Surrender (ε : Type)
  /-- The retries are used up. -/
  | exhausted (attempts : Nat) (failure : ε)
  /-- The failure is of a kind that is not retried. -/
  | notRetryable (attempts : Nat) (failure : ε)
  /-- The signal was given; the last failure is missing where the last attempt
  was dropped. -/
  | cancelled (attempts : Nat) (last : Option ε)
  deriving DecidableEq, Repr

namespace Surrender

variable {ε κ : Type}

/-- The name of a surrender. -/
def name : Surrender ε → String
  | .exhausted _ _ => "Exhausted"
  | .notRetryable _ _ => "NotRetryable"
  | .cancelled _ _ => "Cancelled"

/-- How many attempts were made. -/
def attempts : Surrender ε → Nat
  | .exhausted attempts _ | .notRetryable attempts _ | .cancelled attempts _ => attempts

/-- How many retries were made. -/
def retries (surrender : Surrender ε) : Nat :=
  surrender.attempts - 1

/-- Whether the signal ended the work. -/
def isCancelled : Surrender ε → Bool
  | .cancelled _ _ => true
  | _ => false

/-- The last failure. -/
def last? : Surrender ε → Option ε
  | .exhausted _ failure | .notRetryable _ failure => some failure
  | .cancelled _ last => last

/-- The wording of a surrender. -/
def message [Classified ε κ] : Surrender ε → String
  | .exhausted attempts failure =>
      "retries exhausted after " ++ Decimal.ofNat attempts ++ " attempts: " ++
        Classified.message failure
  | .notRetryable attempts failure =>
      "non-retryable failure after " ++ Decimal.ofNat attempts ++ " attempts: " ++
        Classified.message failure
  | .cancelled attempts _ =>
      "cancelled by shutdown after " ++ Decimal.ofNat attempts ++ " attempts"

/-- How a surrender is counted. -/
def ending : Surrender ε → Ending
  | .exhausted _ _ => .exhausted
  | .notRetryable _ _ => .notRetryable
  | .cancelled _ _ => .cancelled

end Surrender

/-! ## Notices -/

namespace Report

variable {ε κ : Type} [Classified ε κ]

/-- The signal was given during an attempt. -/
def dropped (context : Context) : Notice where
  level := .debug
  message := "Shutdown requested, dropping in-flight attempt"
  facts := [("subject", .text context.subject), ("attempt", .number context.attempt)]

/-- A retry succeeded. -/
def recovered (context : Context) : Notice where
  level := .info
  message := "Operation succeeded after retry"
  facts := [("subject", .text context.subject), ("attempts", .number context.attempt)]

/-- A failure is of a kind that is not retried. -/
def refused (context : Context) (failure : ε) : Notice where
  level := .warning
  message := "Failure kind is not retryable"
  facts :=
    [("subject", .text context.subject),
     ("attempt", .number context.attempt),
     ("kind", .text (Classified.kindName ε (Classified.kind failure))),
     ("error", .text (Classified.message failure))]

/-- The retries are used up. -/
def exhausted (context : Context) : Notice where
  level := .warning
  message := "Max retries reached"
  facts :=
    [("subject", .text context.subject),
     ("attempts", .number context.attempt),
     ("max_retries", .number context.maxRetries),
     ("strategy", .text context.strategy)]

/-- The signal was given between two attempts. -/
def abandoned (context : Context) : Notice where
  level := .debug
  message := "Shutdown requested, abandoning retries"
  facts := [("subject", .text context.subject), ("attempt", .number context.attempt)]

/-- A retry follows after a delay. -/
def retrying (context : Context) (delay : Duration) (failure : ε) : Notice where
  level := .warning
  message :=
    "Retry attempt " ++ Decimal.ofNat context.attempt ++ "/" ++ Decimal.ofNat context.maxRetries
  facts :=
    [("subject", .text context.subject),
     ("retry", .number context.attempt),
     ("max_retries", .number context.maxRetries),
     ("delay_ms", .number (delay.millis % UInt64.size)),
     ("kind", .text (Classified.kindName ε (Classified.kind failure))),
     ("error", .text (Classified.message failure))]

end Report

/-! ## The engine -/

/-- What the engine works with. -/
structure Engine (ω ε κ α : Type) where
  policy : Policy κ
  /-- What the work is about. -/
  subject : String
  signal : Signal ω
  note : Notice → StateM ω Unit
  /-- Attempt the work. -/
  operation : Context → Run ω (Raced (Except ε α))

namespace Engine

variable {ω ε κ α : Type} [Classified ε κ] [DecidableEq κ]

/-- What the attempt with a number is told. -/
def context (engine : Engine ω ε κ α) (attempt : Nat) (lastError : Option String) : Context where
  subject := engine.subject
  attempt := attempt
  maxRetries := engine.policy.maxRetries
  strategy := engine.policy.strategy.name
  lastError := lastError

/-- Give up, and leave a sample of it. -/
def surrender (reason : Surrender ε) : Run ω (Except (Surrender ε) α) := do
  Run.leave ⟨reason.ending, reason.attempts⟩
  return .error reason

/-- Succeed at the attempt described, and leave a sample of it. -/
def succeed (engine : Engine ω ε κ α) (context : Context) (value : α) :
    Run ω (Except (Surrender ε) α) := do
  if 1 < context.attempt then Run.act (engine.note (Report.recovered context))
  Run.leave ⟨.success, context.attempt⟩
  return .ok value

/-- Wait before the retry that follows the attempt described. -/
def waitToRetry (engine : Engine ω ε κ α) (context : Context) (failure : ε) : Run ω Pause := do
  let delay := engine.policy.strategy.delay context.attempt
  Run.act (engine.note (Report.retrying context delay failure))
  if delay.isZero then return .elapsed
  else Run.act (engine.signal.pause delay)

/-- Go on with the attempt numbered `attempt`, after which `budget` retries may
follow. Attempts are counted in thirty-two bits. -/
def attemptFrom (engine : Engine ω ε κ α) (budget attempt : Nat) (lastError : Option String) :
    Run ω (Except (Surrender ε) α) := do
  if UInt32.size ≤ attempt then throw .addition
  let context := engine.context attempt lastError
  match ← engine.operation context with
  | .cutOff =>
      Run.act (engine.note (Report.dropped context))
      surrender (.cancelled attempt none)
  | .finished (.ok value) => engine.succeed context value
  | .finished (.error failure) =>
      if engine.policy.filter.retries (Classified.kind failure) then
        match budget with
        | 0 =>
            Run.act (engine.note (Report.exhausted context))
            surrender (.exhausted attempt failure)
        | budget + 1 =>
            if ← Run.act engine.signal.isTriggered then
              Run.act (engine.note (Report.abandoned context))
              surrender (.cancelled attempt (some failure))
            else
              match ← engine.waitToRetry context failure with
              | .interrupted => surrender (.cancelled attempt (some failure))
              | .elapsed =>
                  engine.attemptFrom budget (attempt + 1) (some (Classified.message failure))
      else
        Run.act (engine.note (Report.refused context failure))
        surrender (.notRetryable attempt failure)

/-- Run the work under the policy. -/
def run (engine : Engine ω ε κ α) : Run ω (Except (Surrender ε) α) :=
  engine.attemptFrom engine.policy.maxRetries 1 none

end Engine

end EventRelay.Retry

import EventRelay.Duration

/-!
# The shutdown signal

Whoever works under the signal can look at it, wait under it, and race what it
does against it. Nothing here says when the signal is given: it may be given
between any two steps.
-/

namespace EventRelay

/-- How something raced against the signal ended. -/
inductive Raced (α : Type)
  /-- It ended before the signal was given, or at the same time. -/
  | finished (value : α)
  /-- The signal was given first, and it was dropped. -/
  | cutOff
  deriving DecidableEq, Repr

/-- How a wait under the signal ended. -/
inductive Pause
  | elapsed
  | interrupted
  deriving DecidableEq, Repr

/-- The shutdown signal of a world. -/
structure Signal (ω : Type) where
  /-- Whether the signal has been given. -/
  isTriggered : StateM ω Bool
  /-- Wait, unless the signal is given first. -/
  pause : Duration → StateM ω Pause

end EventRelay

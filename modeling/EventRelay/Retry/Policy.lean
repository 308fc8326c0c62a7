import EventRelay.Retry.Strategy

/-!
# Retry policies

A policy joins a strategy with a limit and with a filter on kinds of failure.
-/

namespace EventRelay.Retry

universe u

/-- Which kinds of failure are retried. -/
structure Filter (κ : Type u) where
  /-- The kinds to retry; when there are none, every kind. -/
  handle : List κ := []
  /-- The kinds never to retry. -/
  ignore : List κ := []

/-- Whether failures of a kind are retried. -/
def Filter.retries {κ : Type u} [DecidableEq κ] (filter : Filter κ) (kind : κ) : Bool :=
  !filter.ignore.contains kind && (filter.handle.isEmpty || filter.handle.contains kind)

theorem Filter.retries_iff {κ : Type u} [DecidableEq κ] {filter : Filter κ} {kind : κ} :
    filter.retries kind = true ↔
      kind ∉ filter.ignore ∧ (filter.handle = [] ∨ kind ∈ filter.handle) := by
  simp [Filter.retries]

/-- When and how often to retry. -/
structure Policy (κ : Type u) where
  strategy : Strategy
  /-- How many retries may follow the first attempt. -/
  limit : UInt32
  filter : Filter κ := {}

/-- How many retries there may be; some strategies allow none. -/
def Policy.maxRetries {κ : Type u} (policy : Policy κ) : Nat :=
  match policy.strategy with
  | .never => 0
  | _ => policy.limit.toNat

theorem Policy.maxRetries_lt {κ : Type u} (policy : Policy κ) :
    policy.maxRetries < UInt32.size := by
  have := policy.limit.toNat_lt
  unfold maxRetries
  split
  · decide
  · exact this

end EventRelay.Retry

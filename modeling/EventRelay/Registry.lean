import EventRelay.Failure.Basic
import EventRelay.Message
import EventRelay.Overflow

/-!
# Mappers and their registry

A mapper turns an envelope into a message or refuses it; it may also find that
an amount does not fit. A registry holds one mapper per event type.
-/

namespace EventRelay

/-- A way of turning envelopes into messages. -/
abbrev Mapper := Envelope → ExceptT Failure (Except Overflow) Message

namespace Mapper

/-- Refuse every envelope. -/
def refusing (reason : String) : Mapper := fun _ =>
  throw (.mapping (.reported reason))

/-- Pass the payload on, keyed by the aggregate, under fixed headers. -/
def forwarding (destination : String) (headers : Headers) : Mapper := fun envelope =>
  return {
    destination
    key := some (Text.toBytes envelope.aggregateId)
    payload := envelope.payload
    headers }

end Mapper

/-- Mappers by the event type they are for. -/
structure Registry where
  mappers : Dictionary Mapper

namespace Registry

/-- The registry without mappers. -/
def empty : Registry := ⟨∅⟩

instance : Inhabited Registry := ⟨empty⟩

/-- Add a mapper in place. An event type takes one mapper, and is not blank. -/
def enter (eventType : String) (mapper : Mapper) :
    ExceptT SettingsFault (StateM Registry) Unit := do
  if Text.isBlank eventType then throw .blankEventType
  else if (← get).mappers.contains eventType then throw (.repeatedEventType eventType)
  else modify fun registry => ⟨registry.mappers.insert eventType mapper⟩

/-- What adding a mapper comes to. -/
def register (registry : Registry) (eventType : String) (mapper : Mapper) :
    Except SettingsFault Registry :=
  match (enter eventType mapper).run registry with
  | (.ok (), later) => .ok later
  | (.error fault, _) => .error fault

section Entries

variable (registry : Registry) (eventType : String) (mapper : Mapper)

/-- A name is refused if it is blank, or else if it is taken. -/
theorem run_enter_eq_ite : (enter eventType mapper).run registry =
    if Text.isBlank eventType then (.error .blankEventType, registry)
    else if registry.mappers.contains eventType then
      (.error (.repeatedEventType eventType), registry)
    else (.ok (), ⟨registry.mappers.insert eventType mapper⟩) := by
  unfold enter
  by_cases blank : Text.isBlank eventType = true
  · rw [if_pos blank, if_pos blank]
    rfl
  · rw [if_neg blank, if_neg blank]
    change (if registry.mappers.contains eventType then throw (.repeatedEventType eventType)
      else modify fun registry => ⟨registry.mappers.insert eventType mapper⟩ :
        ExceptT SettingsFault (StateM Registry) Unit) registry = _
    split <;> rfl

theorem register_eq_ite : registry.register eventType mapper =
    if Text.isBlank eventType then .error .blankEventType
    else if registry.mappers.contains eventType then .error (.repeatedEventType eventType)
    else .ok ⟨registry.mappers.insert eventType mapper⟩ := by
  rw [register, run_enter_eq_ite]
  by_cases blank : Text.isBlank eventType = true
  · rw [if_pos blank, if_pos blank]
  · rw [if_neg blank, if_neg blank]
    by_cases taken : registry.mappers.contains eventType = true
    · rw [if_pos taken, if_pos taken]
    · rw [if_neg taken, if_neg taken]

/-- Whether it is refused or not, the registry in place is what adding the mapper comes to, and
after a refusal what it was. -/
theorem run_enter : (enter eventType mapper).run registry =
    match registry.register eventType mapper with
    | .ok later => (.ok (), later)
    | .error fault => (.error fault, registry) := by
  rw [register_eq_ite, run_enter_eq_ite]
  split
  · rfl
  · split <;> rfl

end Entries

/-- Add mappers one after another. -/
def registerAll (registry : Registry) (mappers : List (String × Mapper)) :
    Except SettingsFault Registry :=
  mappers.foldlM (fun registry entry => registry.register entry.1 entry.2) registry

/-- The mapper for an event type. -/
def resolve (registry : Registry) (eventType : String) : Except Failure Mapper :=
  match registry.mappers.get? eventType with
  | some mapper => .ok mapper
  | none => .error (.unmapped eventType)

/-- Map an envelope with the mapper for its event type. -/
def map (registry : Registry) : Mapper := fun envelope =>
  match registry.resolve envelope.eventType with
  | .ok mapper => mapper envelope
  | .error failure => throw failure

/-- The event types that have a mapper, increasing. -/
def eventTypes (registry : Registry) : List String :=
  registry.mappers.keys

/-- Only names that no mapper is entered under are refused. -/
theorem resolve_eq_error_iff {registry : Registry} {eventType : String} {failure : Failure} :
    registry.resolve eventType = .error failure ↔
      eventType ∉ registry.eventTypes ∧ failure = .unmapped eventType := by
  rw [eventTypes, Dictionary.mem_keys_iff, resolve]
  cases registry.mappers.get? eventType with
  | none => simp [eq_comm]
  | some mapper => simp

/-- How many mappers there are. -/
def size (registry : Registry) : Nat :=
  registry.mappers.size

end Registry

end EventRelay

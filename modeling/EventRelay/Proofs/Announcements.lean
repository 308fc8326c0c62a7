import EventRelay.Orders.Mapping
import EventRelay.Proofs.OrderForms

/-!
# What other services read of an order

The three mappers announce what happened to an order. Whatever the envelope, a message that is
made of it is read by other services as the event that was meant: with the identity and the time
of the envelope, and with what the order service said.
-/

namespace EventRelay.Orders

/-! ## Announcements -/

/-- What is announced of an order. -/
inductive Announcement
  /-- It was created. -/
  | created
  /-- It was cancelled. -/
  | cancelled
  /-- It was shipped. -/
  | shipped

namespace Announcement

/-- What the order service says. -/
abbrev said : Announcement → Statement
  | created => .created
  | cancelled => .cancelled
  | shipped => .shipped

/-- What other services are told. -/
abbrev told : Announcement → Statement
  | created => .placed
  | cancelled => .cancelled
  | shipped => .shipped

/-- The mapper that announces it. -/
def mapper : Announcement → String → Mapper
  | created => mapCreated
  | cancelled => mapCancelled
  | shipped => mapShipped

/-- What happened, in the words of other services. -/
def name : Announcement → String
  | created => placedName
  | cancelled => cancelledName
  | shipped => shippedName

/-- The order that it is about. -/
def orderId : (announcement : Announcement) → announcement.said.Content → Uuid
  | created => Created.orderId
  | cancelled => Cancelled.orderId
  | shipped => Shipped.orderId

/-- What other services are told has the order, the texts and the times of what was said. -/
def Carries : (announcement : Announcement) → announcement.said.Content →
    announcement.told.Content → Prop
  | created, event, placed =>
      placed.orderId = event.orderId ∧ placed.customerId = event.customerId ∧
        placed.currency = event.currency ∧ placed.placedAt = event.createdAt ∧
        event.placed = .ok placed
  | cancelled, event, data => data = event
  | shipped, event, data => data = event

end Announcement

/-! ## Messages -/

theorem Created.carries_of_placed {event : Created} {placed : Placed}
    (summed : event.placed = .ok placed) : Announcement.created.Carries event placed := by
  have parts := summed
  unfold Created.placed at parts
  rcases counted : event.itemCount with overflow | count
  · rw [counted] at parts
    contradiction
  · rcases totalled : event.total with overflow | total
    · rw [counted, totalled] at parts
      contradiction
    · rw [counted, totalled] at parts
      obtain rfl := Except.ok.inj parts
      exact ⟨rfl, rfl, rfl, rfl, summed⟩

/-- A mapper that comes to a message has read the payload. -/
theorem exists_of_readPayload {α : Type} (read : Json.Tree → Option α) (envelope : Envelope)
    {message : Message} {made : ExceptT Failure (Except Overflow) Message}
    (refuses : ∀ fault, readPayload read envelope = .error fault →
      made = throw (.mapping fault))
    (mapped : made.run = .ok (.ok message)) :
    ∃ event, readPayload read envelope = .ok event := by
  cases parsed : readPayload read envelope with
  | error fault =>
      rw [refuses fault parsed] at mapped
      exact absurd (Except.ok.inj mapped) nofun
  | ok event => exact ⟨event, rfl⟩

theorem read?_of_readPayload (statement : Statement) {envelope : Envelope}
    {event : statement.Content} (parsed : readPayload statement.ofTree? envelope = .ok event) :
    (Form.bare statement).read? envelope.payload = some event := by
  unfold readPayload at parsed
  unfold Form.read?
  split at parsed
  · rename_i found
    rw [← Except.ok.inj parsed]
    exact found
  · contradiction

/-- A mapper that refuses some events comes to no message for them. -/
theorem run_of_guarded {refused : Prop} [Decidable refused] {failure : Failure} {message : Message}
    {next : ExceptT Failure (Except Overflow) Message}
    (mapped : (if refused then throw failure else next).run = .ok (.ok message)) :
    next.run = .ok (.ok message) := by
  split at mapped
  · exact absurd (Except.ok.inj mapped) nofun
  · exact mapped

/-- A mapper announces what the payload of an envelope says. -/
theorem exists_of_mapper {announcement : Announcement} {destination : String}
    {envelope : Envelope} {message : Message}
    (mapped : (announcement.mapper destination envelope).run = .ok (.ok message)) :
    ∃ event data, (Form.bare announcement.said).read? envelope.payload = some event ∧
      announcement.Carries event data ∧
      announce destination envelope announcement.name
        (announcement.orderId event) (announcement.told.toValue data) = message := by
  cases announcement with
  | created =>
      obtain ⟨event, parsed⟩ := exists_of_readPayload Created.ofTree? envelope
        (fun fault failed => by rw [Announcement.mapper, mapCreated, failed]) mapped
      rw [Announcement.mapper, mapCreated, parsed] at mapped
      have summing := run_of_guarded mapped
      cases summed : event.placed with
      | error overflow =>
          rw [summed] at summing
          contradiction
      | ok placed =>
          rw [summed] at summing
          exact ⟨event, placed, read?_of_readPayload .created parsed,
            Created.carries_of_placed summed, Except.ok.inj (Except.ok.inj summing)⟩
  | cancelled =>
      obtain ⟨event, parsed⟩ := exists_of_readPayload Cancelled.ofTree? envelope
        (fun fault failed => by rw [Announcement.mapper, mapCancelled, failed]) mapped
      rw [Announcement.mapper, mapCancelled, parsed] at mapped
      exact ⟨event, event, read?_of_readPayload .cancelled parsed, rfl,
        Except.ok.inj (Except.ok.inj mapped)⟩
  | shipped =>
      obtain ⟨event, parsed⟩ := exists_of_readPayload Shipped.ofTree? envelope
        (fun fault failed => by rw [Announcement.mapper, mapShipped, failed]) mapped
      rw [Announcement.mapper, mapShipped, parsed] at mapped
      have announced := run_of_guarded mapped
      exact ⟨event, event, read?_of_readPayload .shipped parsed, rfl,
        Except.ok.inj (Except.ok.inj announced)⟩

end EventRelay.Orders

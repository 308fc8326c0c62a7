import EventRelay.IntegrationEvent
import EventRelay.Orders.Event
import EventRelay.Registry

/-!
# Mapping order events

What other services are told about an order, in the versioned form and keyed so
that the messages of one order keep their sequence.
-/

namespace EventRelay.Orders

open Json (Tree Value)

/-- Where messages about orders go unless settings say otherwise. -/
def defaultTopic : String := "orders.integration-events"

/-! ## Names of event types -/

/-- An order was created. -/
def createdType : String := "Orders.Created"

/-- An order was cancelled. -/
def cancelledType : String := "Orders.Cancelled"

/-- An order was shipped. -/
def shippedType : String := "Orders.Shipped"

/-- Other services are told that an order was placed. -/
def placedName : String := "order.placed"

/-- Other services are told that an order was cancelled. -/
def cancelledName : String := "order.cancelled"

/-- Other services are told that an order was shipped. -/
def shippedName : String := "order.shipped"

/-! ## Mappers -/

/-- The payload of an envelope in the form that `read` accepts. -/
def readPayload {α : Type} (read : Tree → Option α) (envelope : Envelope) :
    Except MappingFault α :=
  match (Tree.parse? envelope.payload).bind read with
  | some event => .ok event
  | none => .error (.invalidPayload envelope.eventType)

/-- The key of a message about an order: its aggregate, or else its own id. -/
def messageKey (envelope : Envelope) (order : Uuid) : String :=
  if envelope.aggregateId.isEmpty then order.toText else envelope.aggregateId

/-- The message that tells other services about an order. -/
def announce (destination : String) (envelope : Envelope) (name : String) (order : Uuid)
    (data : Value) : Message where
  destination := destination
  key := some (Text.toBytes (messageKey envelope order))
  payload := ((IntegrationEvent.ofOrigin envelope name data).toValue id).toBytes
  headers := Headers.ofPresent [(HeaderName.eventType, some name)]

/-- What other services are told of a created order. The pieces are counted
before the price is summed up. -/
def Created.placed (event : Created) : Except Overflow Placed := do
  let itemCount ← event.itemCount
  let total ← event.total
  return {
    orderId := event.orderId
    customerId := event.customerId
    currency := event.currency
    itemCount
    total
    placedAt := event.createdAt }

/-- Announce a created order, which must have lines. -/
def mapCreated (destination : String) : Mapper := fun envelope =>
  match readPayload Created.ofTree? envelope with
  | .error fault => throw (.mapping fault)
  | .ok event =>
      if event.lines.isEmpty then throw (.mapping (.noLines event.orderId))
      else do
        let placed ← event.placed
        return announce destination envelope placedName event.orderId placed.toValue

/-- Announce a cancelled order. -/
def mapCancelled (destination : String) : Mapper := fun envelope =>
  match readPayload Cancelled.ofTree? envelope with
  | .error fault => throw (.mapping fault)
  | .ok event =>
      return announce destination envelope cancelledName event.orderId event.toValue

/-- Announce a shipped order, which must have a tracking number. -/
def mapShipped (destination : String) : Mapper := fun envelope =>
  match readPayload Shipped.ofTree? envelope with
  | .error fault => throw (.mapping fault)
  | .ok event =>
      if Text.isBlank event.trackingNumber then throw (.mapping (.noTrackingNumber event.orderId))
      else return announce destination envelope shippedName event.orderId event.toValue

/-- The mappers for order events, each with its event type. -/
def mappers (destination : String) : List (String × Mapper) :=
  [(createdType, mapCreated destination),
   (cancelledType, mapCancelled destination),
   (shippedType, mapShipped destination)]

end EventRelay.Orders

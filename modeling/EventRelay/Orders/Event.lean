import EventRelay.Json.Scalar
import EventRelay.Overflow

/-!
# Events of the order service

What the order service leaves in its outbox, and what other services are told
about it. Each form has its document, and documents are read leniently: unknown
members are passed over, and identifiers and instants may be in any spelling.
-/

namespace EventRelay.Orders

open Json (Tree Value)

/-- One line of an order. -/
structure Line where
  sku : String
  quantity : UInt32
  /-- The price of one piece, in hundredths. -/
  unitPrice : Int64
  deriving DecidableEq

/-- An order was created. -/
structure Created where
  orderId : Uuid
  customerId : Uuid
  currency : String
  lines : List Line
  createdAt : Instant
  deriving DecidableEq

/-- An order was cancelled. -/
structure Cancelled where
  orderId : Uuid
  reason : String
  cancelledAt : Instant
  deriving DecidableEq

/-- An order was shipped. -/
structure Shipped where
  orderId : Uuid
  carrier : String
  trackingNumber : String
  shippedAt : Instant
  deriving DecidableEq

/-- What other services are told when an order was created. -/
structure Placed where
  orderId : Uuid
  customerId : Uuid
  currency : String
  /-- How many pieces were ordered. -/
  itemCount : UInt32
  /-- What they cost, in hundredths. -/
  total : Int64
  placedAt : Instant
  deriving DecidableEq

/-! ## Sums over the lines -/

/-- The pieces on a list of lines, after `count` others. -/
def countFrom : UInt32 → List Line → Except Overflow UInt32
  | count, [] => .ok count
  | count, line :: rest => do
      let next ← uint32Within .addition (count.toNat + line.quantity.toNat)
      countFrom next rest

/-- What a list of lines costs, after `total` for others. -/
def totalFrom : Int64 → List Line → Except Overflow Int64
  | total, [] => .ok total
  | total, line :: rest => do
      let price ← int64Within .multiplication (line.unitPrice.toInt * line.quantity.toNat)
      let next ← int64Within .addition (total.toInt + price.toInt)
      totalFrom next rest

/-- How many pieces an order has. -/
def Created.itemCount (event : Created) : Except Overflow UInt32 :=
  countFrom 0 event.lines

/-- What an order costs. -/
def Created.total (event : Created) : Except Overflow Int64 :=
  totalFrom 0 event.lines

/-! ## Documents -/

namespace Line

/-- The document of a line. -/
def toValue (line : Line) : Value :=
  .object
    [("sku", .text line.sku),
     ("quantity", .ofUInt32 line.quantity),
     ("unit_price_cents", .ofInt64 line.unitPrice)]

/-- Read the document of a line. -/
def ofTree? (tree : Tree) : Option Line := do
  let record ← tree.record? 3
  let sku ← record.required 0 "sku" Tree.text?
  let quantity ← record.required 1 "quantity" Tree.uint32?
  let unitPrice ← record.required 2 "unit_price_cents" Tree.int64?
  return { sku, quantity, unitPrice }

end Line

namespace Created

/-- The document of a created order. -/
def toValue (event : Created) : Value :=
  .object
    [("order_id", .ofUuid event.orderId),
     ("customer_id", .ofUuid event.customerId),
     ("currency", .text event.currency),
     ("lines", .list (event.lines.map Line.toValue)),
     ("created_at", .ofInstant event.createdAt)]

/-- Read the document of a created order. -/
def ofTree? (tree : Tree) : Option Created := do
  let record ← tree.record? 5
  let orderId ← record.required 0 "order_id" Tree.uuid?
  let customerId ← record.required 1 "customer_id" Tree.uuid?
  let currency ← record.required 2 "currency" Tree.text?
  let lines ← record.required 3 "lines" (Tree.list? Line.ofTree?)
  let createdAt ← record.required 4 "created_at" Tree.instant?
  return { orderId, customerId, currency, lines, createdAt }

end Created

namespace Cancelled

/-- The document of a cancelled order. -/
def toValue (event : Cancelled) : Value :=
  .object
    [("order_id", .ofUuid event.orderId),
     ("reason", .text event.reason),
     ("cancelled_at", .ofInstant event.cancelledAt)]

/-- Read the document of a cancelled order. -/
def ofTree? (tree : Tree) : Option Cancelled := do
  let record ← tree.record? 3
  let orderId ← record.required 0 "order_id" Tree.uuid?
  let reason ← record.required 1 "reason" Tree.text?
  let cancelledAt ← record.required 2 "cancelled_at" Tree.instant?
  return { orderId, reason, cancelledAt }

end Cancelled

namespace Shipped

/-- The document of a shipped order. -/
def toValue (event : Shipped) : Value :=
  .object
    [("order_id", .ofUuid event.orderId),
     ("carrier", .text event.carrier),
     ("tracking_number", .text event.trackingNumber),
     ("shipped_at", .ofInstant event.shippedAt)]

/-- Read the document of a shipped order. -/
def ofTree? (tree : Tree) : Option Shipped := do
  let record ← tree.record? 4
  let orderId ← record.required 0 "order_id" Tree.uuid?
  let carrier ← record.required 1 "carrier" Tree.text?
  let trackingNumber ← record.required 2 "tracking_number" Tree.text?
  let shippedAt ← record.required 3 "shipped_at" Tree.instant?
  return { orderId, carrier, trackingNumber, shippedAt }

end Shipped

namespace Placed

/-- The document of a placed order. -/
def toValue (event : Placed) : Value :=
  .object
    [("order_id", .ofUuid event.orderId),
     ("customer_id", .ofUuid event.customerId),
     ("currency", .text event.currency),
     ("item_count", .ofUInt32 event.itemCount),
     ("total_cents", .ofInt64 event.total),
     ("placed_at", .ofInstant event.placedAt)]

/-- Read the document of a placed order. -/
def ofTree? (tree : Tree) : Option Placed := do
  let record ← tree.record? 6
  let orderId ← record.required 0 "order_id" Tree.uuid?
  let customerId ← record.required 1 "customer_id" Tree.uuid?
  let currency ← record.required 2 "currency" Tree.text?
  let itemCount ← record.required 3 "item_count" Tree.uint32?
  let total ← record.required 4 "total_cents" Tree.int64?
  let placedAt ← record.required 5 "placed_at" Tree.instant?
  return { orderId, customerId, currency, itemCount, total, placedAt }

end Placed

end EventRelay.Orders

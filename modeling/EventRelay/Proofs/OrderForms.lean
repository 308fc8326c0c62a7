import EventRelay.IntegrationEvent
import EventRelay.Orders.Event
import EventRelay.Proofs.WrittenScalars
import Mathlib.Data.List.Basic

/-!
# The forms of order events

What the order service leaves in its outbox and what other services are told come in a few
forms, each of them bare or as the data of an integration event. Many texts are read as one
value, but a value is written as one text: rewriting a text that is read keeps what it says, and
a rewritten text is its own rewriting.
-/

namespace EventRelay

open Json

/-! ## Records of faithful fields -/

namespace Json

/-- An object denotes itself where each of its members does. -/
theorem Value.Integral.ofMembers {members : List (String × Value)}
    (each : members.Forall fun member => member.2.Integral) : (Value.object members).Integral :=
  .object (List.forall_iff_forall_mem.mp each)

end Json

namespace Orders

theorem faithful_line : Faithful Line.toValue Line.ofTree? where
  integral _ := .ofMembers
    ⟨Faithful.text.integral _, Faithful.uint32.integral _, Faithful.int64.integral _⟩
  reads line := by
    simp [Line.ofTree?, Line.toValue, Tree.record?_object, Record.required, Record.slot?,
      Faithful.text.reads, Faithful.uint32.reads, Faithful.int64.reads]

theorem faithful_created : Faithful Created.toValue Created.ofTree? where
  integral _ := .ofMembers
    ⟨Faithful.uuid.integral _, Faithful.uuid.integral _, Faithful.text.integral _,
      faithful_line.list.integral _, Faithful.instant.integral _⟩
  reads event := by
    simp [Created.ofTree?, Created.toValue, Tree.record?_object, Record.required, Record.slot?,
      Faithful.uuid.reads, Faithful.text.reads, faithful_line.list.reads, Faithful.instant.reads]

theorem faithful_cancelled : Faithful Cancelled.toValue Cancelled.ofTree? where
  integral _ := .ofMembers
    ⟨Faithful.uuid.integral _, Faithful.text.integral _, Faithful.instant.integral _⟩
  reads event := by
    simp [Cancelled.ofTree?, Cancelled.toValue, Tree.record?_object, Record.required,
      Record.slot?, Faithful.uuid.reads, Faithful.text.reads, Faithful.instant.reads]

theorem faithful_shipped : Faithful Shipped.toValue Shipped.ofTree? where
  integral _ := .ofMembers
    ⟨Faithful.uuid.integral _, Faithful.text.integral _, Faithful.text.integral _,
      Faithful.instant.integral _⟩
  reads event := by
    simp [Shipped.ofTree?, Shipped.toValue, Tree.record?_object, Record.required, Record.slot?,
      Faithful.uuid.reads, Faithful.text.reads, Faithful.instant.reads]

theorem faithful_placed : Faithful Placed.toValue Placed.ofTree? where
  integral _ := .ofMembers
    ⟨Faithful.uuid.integral _, Faithful.uuid.integral _, Faithful.text.integral _,
      Faithful.uint32.integral _, Faithful.int64.integral _, Faithful.instant.integral _⟩
  reads event := by
    simp [Placed.ofTree?, Placed.toValue, Tree.record?_object, Record.required, Record.slot?,
      Faithful.uuid.reads, Faithful.text.reads, Faithful.uint32.reads, Faithful.int64.reads,
      Faithful.instant.reads]

end Orders

/-- An integration event is faithful where its data is. -/
theorem IntegrationEvent.faithful {α : Type} {ofData : α → Value} {readData : Tree → Option α}
    (data : Faithful ofData readData) :
    Faithful (IntegrationEvent.toValue ofData) (IntegrationEvent.ofTree? readData) where
  integral _ := .ofMembers
    ⟨Faithful.text.integral _, Faithful.text.integral _, Faithful.instant.integral _,
      Faithful.uint32.integral _, Faithful.text.integral _, Faithful.nullableText.integral _,
      data.integral _⟩
  reads event := by
    simp [IntegrationEvent.ofTree?, IntegrationEvent.toValue, Tree.record?_object,
      Record.required, Record.optional, Record.slot?, Faithful.text.reads, Faithful.instant.reads,
      Faithful.uint32.reads, Faithful.nullableText.reads, data.reads]

/-! ## Forms -/

namespace Orders

/-- What is said about orders. -/
inductive Statement
  /-- A line of an order. -/
  | line
  /-- An order was created. -/
  | created
  /-- An order was cancelled, as the order service and as other services put it. -/
  | cancelled
  /-- An order was shipped, as the order service and as other services put it. -/
  | shipped
  /-- An order was placed. -/
  | placed

namespace Statement

/-- What a statement tells. -/
abbrev Content : Statement → Type
  | line => Line
  | created => Created
  | cancelled => Cancelled
  | shipped => Shipped
  | placed => Placed

/-- The document of what is told. -/
def toValue : (statement : Statement) → statement.Content → Value
  | line => Line.toValue
  | created => Created.toValue
  | cancelled => Cancelled.toValue
  | shipped => Shipped.toValue
  | placed => Placed.toValue

/-- Read a document. -/
def ofTree? : (statement : Statement) → Tree → Option statement.Content
  | line => Line.ofTree?
  | created => Created.ofTree?
  | cancelled => Cancelled.ofTree?
  | shipped => Shipped.ofTree?
  | placed => Placed.ofTree?

theorem faithful (statement : Statement) : Faithful statement.toValue statement.ofTree? := by
  cases statement with
  | line => exact faithful_line
  | created => exact faithful_created
  | cancelled => exact faithful_cancelled
  | shipped => exact faithful_shipped
  | placed => exact faithful_placed

end Statement

/-- The forms in which statements are made. -/
inductive Form
  /-- A statement by itself. -/
  | bare (statement : Statement)
  /-- A statement as the data of an integration event. -/
  | integration (statement : Statement)

namespace Form

/-- What is said in a form. -/
abbrev Content : Form → Type
  | bare statement => statement.Content
  | integration statement => IntegrationEvent statement.Content

/-- The document of what is said. -/
def toValue : (form : Form) → form.Content → Value
  | bare statement => statement.toValue
  | integration statement => IntegrationEvent.toValue statement.toValue

/-- Read a document. -/
def ofTree? : (form : Form) → Tree → Option form.Content
  | bare statement => statement.ofTree?
  | integration statement => IntegrationEvent.ofTree? statement.ofTree?

variable (form : Form)

/-- The text of what is said. -/
def write (content : form.Content) : Bytes :=
  (form.toValue content).toBytes

/-- What a text says. -/
def read? (text : Bytes) : Option form.Content :=
  (Tree.parse? text).bind form.ofTree?

theorem faithful : Faithful form.toValue form.ofTree? := by
  cases form with
  | bare statement => exact statement.faithful
  | integration statement => exact IntegrationEvent.faithful statement.faithful

/-- What is written is read back. -/
@[simp]
theorem read?_write (content : form.Content) : form.read? (form.write content) = some content :=
  form.faithful.parse? content

end Form

end Orders

end EventRelay

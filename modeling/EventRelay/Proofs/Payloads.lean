import EventRelay.Orders.Mapping
import EventRelay.Proofs.EventHeaders
import EventRelay.Proofs.HeededValues
import EventRelay.Proofs.RowImages

/-!
# Payloads

The payload of a row is a part of a document that was read free-form, so it is in order and has
levels to spare: written into an envelope it is read again as what it was. A text is taken
verbatim and nothing is made of null. The mappers heed only what a payload means, and come to
the same whether a row has it as a part of itself or as a text.
-/

namespace EventRelay

open Json

namespace Outbox

/-! ## Parts of what a document denotes -/

section Parts

variable {depth position count : Nat} {value item : Value} {name : String}
  {names : List String} {record : Record Value}

theorem within_member? (within : Value.Within depth value)
    (held : member? name value = some item) : Value.Within depth item := by
  cases value with
  | object members =>
      obtain ⟨before, after, rfl, _⟩ := List.lookup_eq_some_iff.mp held
      exact within.member (List.mem_append_right before List.mem_cons_self)
  | _ => contradiction

theorem within_slot? (within : Value.Within depth value)
    (opened : value.record? count = some record)
    (found : record.slot? position names = some (.given item)) : Value.Within depth item := by
  cases value with
  | object members =>
      obtain rfl := Option.some.inj opened
      unfold Record.slot? at found
      dsimp only at found
      split at found
      · cases found
      · rename_i entry only
        obtain rfl := Slot.given.inj (Option.some.inj found)
        have kept : entry ∈ members.filter fun entry => names.contains entry.1 := by
          rw [only]
          exact List.mem_cons_self
        exact within.member (List.mem_of_mem_filter kept)
      · cases found
  | list items =>
      obtain ⟨_, same⟩ := Option.ite_none_right_eq_some.mp opened
      obtain rfl := Option.some.inj same
      unfold Record.slot? at found
      dsimp only at found
      split at found
      · rename_i held
        obtain rfl := Slot.given.inj (Option.some.inj found)
        exact within.item (List.mem_of_getElem? held)
      · cases found
  | _ => contradiction

end Parts

variable {record other : SourceRecord} {schemaId : Option Nat} {image : Value}

/-- An image nests no deeper than the document that it is found in. -/
theorem Holds.within {image? : Option Value} (holds : Holds record schemaId image?) :
    ∀ image ∈ image?, Value.Within depthLimit image := by
  obtain @⟨_, tree, value, _, _, denotes⟩ := holds
  have whole : Value.Within depthLimit value := within_of_ofTree? denotes
  have unwrapped : Value.Within depthLimit (unwrap tree value) := by
    unfold unwrap
    split
    · cases held : member? "payload" value with
      | none => exact whole
      | some inner => exact within_member? whole held
    · exact whole
  intro image mem
  unfold rowImage? at mem
  split at mem
  · rename_i found
    have inner := within_member? unwrapped found
    unfold Value.nullable at mem
    split at mem
    · contradiction
    · rwa [← Option.some.inj mem]
  · rwa [← Option.some.inj mem]

/-! ## The payload of a row -/

/-- The value of a column, if it has one that is not null. -/
def valueOf? : Slot Value → Option Value
  | .given value => value.nullable
  | .absent | .beyond => none

/-- What an image has in the column of the payload. -/
def payloadSlot? (image : Value) : Option (Slot Value) := do
  let record ← image.record? columnNames.length
  record.slot? 2 ["payload"]

theorem exists_payloadSlot? {row : Row} (isRow : Row.ofValue? image = some row) :
    ∃ slot, payloadSlot? image = some slot ∧ row.payload = valueOf? slot := by
  unfold Row.ofValue? at isRow
  simp only [Option.bind_eq_bind, Option.bind_eq_some_iff] at isRow
  -- The payload is read third, after the id and the event type.
  obtain ⟨record, opened, _, _, _, _, payload, defaulted, _, _, _, _, _, _, _, _, _, _, _, _, _,
    _, same⟩ := isRow
  have kept : row.payload = payload := by
    rw [← Option.some.inj same]
  unfold Record.defaulted at defaulted
  obtain ⟨slot, found, taken⟩ := Option.bind_eq_some_iff.mp defaulted
  refine ⟨slot, ?_, ?_⟩
  · rw [payloadSlot?, opened]
    exact found
  · cases slot <;> exact kept.trans (Option.some.inj taken).symm

/-- Bytes in which the payload of a column is kept: a text verbatim, nothing for nothing, and
what has no fractions so that it can be read again. -/
def Survives : Slot Value → Bytes → Prop
  | .absent, payload | .beyond, payload | .given .null, payload => payload = []
  | .given (.text text), payload => payload = Text.toBytes text
  | .given value, payload => value.Integral → Value.parse? payload = some value

theorem survives_payloadBytes {slot : Slot Value}
    (within : ∀ item, slot = .given item → Value.Within depthLimit item) :
    Survives slot (Row.payloadBytes (valueOf? slot)) := by
  cases slot with
  | given item =>
      cases item with
      | null | text => rfl
      | bool | number | list | object =>
          exact fun integral => integral.value_parse?_toBytes (within _ rfl)
  | absent | beyond => rfl

end Outbox

/-! ## The same payload as a text -/

namespace Json

/-- Two payloads are the same to whoever heeds only what they mean. -/
def Synonymous (payload twin : Bytes) : Prop :=
  ∀ {α : Type} {read : Tree → Option α}, Heeds read →
    (Tree.parse? twin).bind read = (Tree.parse? payload).bind read

/-- A text is what a value is written as, or where no number in it is a fraction, any spelling
that names no member twice. -/
inductive Transcribes (text : String) (value : Value) : Prop
  | written (same : text = value.toText)
  | spelled {tree : Tree} (integral : value.Integral)
      (parsed : Tree.parse? (Text.toBytes text) = some tree) (means : tree.Means value)

theorem toBytes_toText (value : Value) : Text.toBytes value.toText = value.toBytes := by
  rw [Text.toBytes, Value.toText, String.toList_ofList, Value.toBytes]

/-- A text of a value is read as the value is that is written again. -/
theorem Transcribes.synonymous {text : String} {value : Value} {depth : Nat}
    (transcribes : Transcribes text value) (within : value.Within depth) :
    Synonymous value.toBytes (Text.toBytes text) := by
  intro α read heeds
  cases transcribes with
  | written same => rw [same, toBytes_toText]
  | spelled integral parsed means =>
      rw [parsed, integral.parse?_toBytes]
      exact heeds means (integral.means_tree within)

end Json

namespace Orders

variable {envelope : Envelope} {payload : Bytes}

theorem readPayload_of_synonymous {α : Type} {read : Tree → Option α} (heeds : Heeds read)
    (synonymous : Synonymous envelope.payload payload) (headers : Headers) :
    readPayload read { envelope with payload, headers } = readPayload read envelope := by
  rw [readPayload, synonymous heeds, readPayload]

/-- What is announced of an order does not depend on how its payload is spelled. -/
theorem mapper_of_synonymous (synonymous : Synonymous envelope.payload payload) (headers : Headers)
    {destination name : String} {mapper : Mapper} (mem : (name, mapper) ∈ mappers destination) :
    mapper { envelope with payload, headers } = mapper envelope := by
  simp only [mappers, List.mem_cons, Prod.mk.injEq, List.not_mem_nil, or_false] at mem
  rcases mem with ⟨_, rfl⟩ | ⟨_, rfl⟩ | ⟨_, rfl⟩
  · rw [mapCreated, readPayload_of_synonymous heeds_created synonymous]
    rfl
  · rw [mapCancelled, readPayload_of_synonymous heeds_cancelled synonymous]
    rfl
  · rw [mapShipped, readPayload_of_synonymous heeds_shipped synonymous]
    rfl

end Orders

namespace Envelope.Draft

variable {draft : Envelope.Draft} {now : Instant} {envelope : Envelope}

/-- A payload decides nothing when a draft is sealed. -/
theorem seal_payload (draft : Envelope.Draft) (now : Instant) (payload : Bytes) :
    { draft with payload }.seal now =
      (draft.seal now).map fun envelope => { envelope with payload } := by
  unfold Envelope.Draft.seal
  split
  · split <;> rfl
  · rfl

/-- A draft that can be sealed can be sealed with another payload and other headers. -/
theorem seal_restated (sealed : draft.seal now = .ok envelope) (payload : Bytes)
    (headers : Headers) :
    { draft with payload, headers }.seal now = .ok { envelope with payload, headers } := by
  have headed := seal_headers { draft with payload } now headers
  rw [seal_payload, sealed] at headed
  exact headed

theorem payload_of_seal (sealed : draft.seal now = .ok envelope) :
    envelope.payload = draft.payload := by
  have restated := seal_payload draft now draft.payload
  rw [sealed] at restated
  exact congrArg Envelope.payload (Except.ok.inj restated)

end Envelope.Draft

namespace Outbox

variable {now : Instant} {envelope : Envelope} {text : String}

/-- A record came with the same headers at the same time, and its row is the same but for the
payload, which is a text. -/
structure Retells (record : SourceRecord) (image : Value) (text : String)
    (other : SourceRecord) : Prop where
  headers : other.headers = record.headers
  timestamp : other.timestamp = record.timestamp
  row : ∃ schemaId twin, Holds other schemaId (some twin) ∧
    Row.ofValue? twin =
      (Row.ofValue? image).map fun row => { row with payload := some (.text text) }

/-- It is decoded to the same event but for the payload, and for the schema among its
headers. -/
theorem Retells.decoder (retells : Retells record image text other)
    (made : sealRow now record schemaId image = .ok (.event envelope)) :
    ∃ headers, decoder now other =
      .ok (.event { envelope with payload := Text.toBytes text, headers }) := by
  obtain ⟨row, _, isRow, sealed, ⟨⟩⟩ := exists_row_of_sealRow made
  obtain ⟨otherId, twin, holds, same⟩ := retells.row
  rw [isRow] at same
  -- The frame of the other record may be another, so its draft has headers of its own.
  have draft : draftOf other otherId { row with payload := some (.text text) } =
      { draftOf record schemaId row with
        payload := Text.toBytes text
        headers := (draftOf other otherId row).headers } := by
    unfold draftOf
    rw [retells.headers, retells.timestamp]
    rfl
  have resealed := Envelope.Draft.seal_restated sealed (Text.toBytes text)
    (draftOf other otherId row).headers
  rw [← draft] at resealed
  refine ⟨(draftOf other otherId row).headers, ?_⟩
  rw [holds.decoder, decodeImage, sealRow, same]
  dsimp only [Option.map_some]
  rw [resealed]
  rfl

/-- The payload of an event is what the row has for it: read again it is the very value, unless
it was a text, which is kept verbatim, or nothing. An object is announced alike whether the row
has it as a part of itself or as a text. -/
theorem payload_survives (decoded : Outbox.decoder now record = .ok (.event envelope)) :
    ∃ schemaId image slot, Holds record schemaId (some image) ∧
      payloadSlot? image = some slot ∧ Survives slot envelope.payload ∧
      ∀ members text other, slot = .given (.object members) →
        Transcribes text (.object members) → Retells record image text other →
        ∃ twin, Outbox.decoder now other = .ok (.event twin) ∧
          ∀ destination name mapper, (name, mapper) ∈ Orders.mappers destination →
            mapper twin = mapper envelope := by
  obtain ⟨schemaId, image, holds, made⟩ := exists_holds_of_event decoded
  obtain ⟨row, _, isRow, sealed, ⟨⟩⟩ := exists_row_of_sealRow made
  obtain ⟨slot, found, held⟩ := exists_payloadSlot? isRow
  have payload : envelope.payload = Row.payloadBytes (valueOf? slot) := by
    rw [← held]
    exact Envelope.Draft.payload_of_seal sealed
  have within : ∀ item, slot = .given item → Value.Within depthLimit item := by
    rintro item rfl
    obtain ⟨opened, isOpened, taken⟩ := Option.bind_eq_some_iff.mp found
    exact within_slot? (holds.within image rfl) isOpened taken
  refine ⟨schemaId, image, slot, holds, found, ?_, ?_⟩
  · rw [payload]
    exact survives_payloadBytes within
  · rintro members text other rfl transcribes retells
    obtain ⟨headers, redecoded⟩ := retells.decoder made
    have synonymous : Synonymous envelope.payload (Text.toBytes text) := by
      rw [payload]
      exact transcribes.synonymous (within _ rfl)
    exact ⟨_, redecoded, fun _ _ _ => Orders.mapper_of_synonymous synonymous headers⟩

/-! ## A row written both ways -/

/-- A value that is written renders itself. -/
theorem renders_toBytes {row : Value} (integral : row.Integral) (within : row.Within depthLimit) :
    Renders row row.toBytes :=
  .intro integral.parse?_toBytes (integral.ofTree?_tree within)
    (.bare (integral.ofTree?_tree within))

/-- The payload of a cancelled order. -/
def cancelledPayload : Value :=
  .object [("cancelled_at", .text "1970-01-01T00:00:00Z"),
    ("order_id", .text "00000000000000000000000000000000"), ("reason", .text "late")]

theorem integral_cancelledPayload : cancelledPayload.Integral := by
  apply Value.Integral.object
  simp only [List.mem_cons, List.not_mem_nil, or_false]
  rintro member (rfl | rfl | rfl) <;> exact .text _

theorem within_cancelledPayload : cancelledPayload.Within (depthLimit - 1) := by
  have names : ["cancelled_at", "order_id", "reason"].Pairwise (· < ·) := by decide
  refine ⟨.of_map Prod.fst (fun _ _ less => less) names, ?_⟩
  simp only [List.mem_cons, List.not_mem_nil, or_false]
  rintro member (rfl | rfl | rfl) <;> trivial

/-- A row of a cancelled order. -/
def cancelledRow (payload : Value) : Value :=
  .object [("id", .text "7"), ("payload", payload), ("type", .text "Orders.Cancelled")]

/-- A record of the row as it is written. -/
def cancelledRecord (payload : Value) : SourceRecord :=
  ⟨⟨"outbox", 0, 7⟩, none, some (cancelledRow payload).toBytes, ∅, none⟩

theorem holds_cancelledRecord {payload : Value} (integral : payload.Integral)
    (within : payload.Within (depthLimit - 1)) :
    Holds (cancelledRecord payload) none (some (cancelledRow payload)) := by
  have whole : (cancelledRow payload).Integral := by
    apply Value.Integral.object
    simp only [List.mem_cons, List.not_mem_nil, or_false]
    rintro member (rfl | rfl | rfl)
    · exact .text _
    · exact integral
    · exact .text _
  have names : ["id", "payload", "type"].Pairwise (· < ·) := by decide
  have nested : (cancelledRow payload).Within depthLimit := by
    refine ⟨.of_map Prod.fst (fun _ _ less => less) names, ?_⟩
    simp only [List.mem_cons, List.not_mem_nil, or_false]
    rintro member (rfl | rfl | rfl)
    · trivial
    · exact within
    · trivial
  have plain : IsPlain (cancelledRow payload) := ⟨⟨_, rfl⟩, .inl rfl, .inl rfl⟩
  exact (renders_toBytes whole nested).holds plain rfl

/-- The event of such a row. -/
def cancelledEvent : Envelope :=
  ⟨"7", "Orders.Cancelled", cancelledPayload.toBytes, ∅, "", "", none, none, none, none, .epoch,
    rfl, rfl⟩

/-- The payload is there again, and is announced alike where the row has it as a text. -/
theorem payload_survives_quoted :
    Outbox.decoder .epoch (cancelledRecord cancelledPayload) = .ok (.event cancelledEvent) ∧
      Value.parse? cancelledEvent.payload = some cancelledPayload ∧
      ∃ twin, Outbox.decoder .epoch (cancelledRecord (.text cancelledPayload.toText)) =
          .ok (.event twin) ∧
        Orders.mapCancelled "orders" twin = Orders.mapCancelled "orders" cancelledEvent := by
  have embedded := holds_cancelledRecord integral_cancelledPayload within_cancelledPayload
  have quoted := holds_cancelledRecord (.text cancelledPayload.toText) trivial
  have decoded : Outbox.decoder .epoch (cancelledRecord cancelledPayload) =
      .ok (.event cancelledEvent) := by
    rw [embedded.decoder]
    rfl
  have retells : Retells (cancelledRecord cancelledPayload) (cancelledRow cancelledPayload)
      cancelledPayload.toText (cancelledRecord (.text cancelledPayload.toText)) :=
    ⟨rfl, rfl, none, _, quoted, rfl⟩
  obtain ⟨_, image, slot, holds, found, survives, announced⟩ := payload_survives decoded
  obtain rfl : cancelledRow cancelledPayload = image :=
    Option.some.inj (embedded.unique holds).2
  obtain rfl : .given cancelledPayload = slot := Option.some.inj found
  obtain ⟨twin, redecoded, same⟩ := announced _ _ _ rfl (.written rfl) retells
  have mem : (Orders.cancelledType, Orders.mapCancelled "orders") ∈ Orders.mappers "orders" := by
    simp [Orders.mappers]
  exact ⟨decoded, survives integral_cancelledPayload, twin, redecoded, same _ _ _ mem⟩

end Outbox

end EventRelay

import EventRelay.Proofs.Denotation
import EventRelay.Proofs.EventHeaders
import EventRelay.Proofs.RowImages

/-!
# Renderings of a row

A row is written bare, or wrapped together with a schema, or as the image after a change, or
as such an image that is wrapped; and each of these may stand behind a frame. All of them
decode alike, but for the schema id that a frame adds to the headers.
-/

namespace EventRelay.Outbox

open Json

/-! ## Shapes -/

/-- A document holds a schema and, as the payload that it describes, another document. -/
inductive Wraps (inner : Tree) : Tree → Prop
  | intro {schemaName payloadName : Bytes} {schema : Tree} {members : List (Bytes × Tree)}
      (schemaRead : readQuoted? schemaName = some "schema")
      (payloadRead : readQuoted? payloadName = some "payload")
      (holds : members.Perm [(schemaName, schema), (payloadName, inner)]) :
      Wraps inner (.object members)

/-- A document tells of a change after which there is another document. -/
inductive Changes (inner : Tree) : Tree → Prop
  | intro {opName beforeName afterName : Bytes} {op before : Tree}
      {members : List (Bytes × Tree)}
      (opRead : readQuoted? opName = some "op")
      (beforeRead : readQuoted? beforeName = some "before")
      (afterRead : readQuoted? afterName = some "after")
      (holds : members.Perm [(opName, op), (beforeName, before), (afterName, inner)]) :
      Changes inner (.object members)

/-- The shapes that a document of a row may have. -/
inductive Shape (row : Value) : Tree → Prop
  | bare {tree : Tree} (denotes : Value.ofTree? depthLimit tree = some row) : Shape row tree
  | wrapped {inner tree : Tree} (denotes : Value.ofTree? depthLimit inner = some row)
      (wraps : Wraps inner tree) : Shape row tree
  | changed {inner tree : Tree} (denotes : Value.ofTree? depthLimit inner = some row)
      (changes : Changes inner tree) : Shape row tree
  | wrappedChanged {inner middle tree : Tree}
      (denotes : Value.ofTree? depthLimit inner = some row) (changes : Changes inner middle)
      (wraps : Wraps middle tree) : Shape row tree

/-- A text that can be read, nested as it is, has one of the shapes of a row. -/
inductive Renders (row : Value) (text : Bytes) : Prop
  | intro {tree : Tree} {value : Value} (parsed : Tree.parse? text = some tree)
      (denotes : Value.ofTree? depthLimit tree = some value) (shape : Shape row tree)

/-- An object that is itself neither a wrapped document nor a change. -/
structure IsPlain (row : Value) : Prop where
  object : ∃ members, row = .object members
  unwrapped : member? "schema" row = none ∨ member? "payload" row = none
  unchanged : member? "op" row = none ∨ member? "after" row = none

variable {depth : Nat} {inner tree : Tree} {row value : Value}

theorem memberCount_object (name : String) (members : List (Bytes × Tree)) :
    memberCount name (.object members) = (members.filter (goesBy name)).length := rfl

/-- A wrapped document is unwrapped to what the payload denotes. -/
theorem Wraps.unwrap (wraps : Wraps inner tree)
    (denotes : Value.ofTree? (depth + 1) tree = some value) :
    Value.ofTree? depth inner = some (unwrap tree value) := by
  obtain @⟨schemaName, payloadName, schema, members, schemaRead, payloadRead, holds⟩ := wraps
  have schemaOnly : members.filter (goesBy "schema") = [(schemaName, schema)] := by
    apply List.perm_singleton.mp
    simpa [goesBy, schemaRead, payloadRead] using holds.filter (goesBy "schema")
  have payloadOnly : members.filter (goesBy "payload") = [(payloadName, inner)] := by
    apply List.perm_singleton.mp
    simpa [goesBy, schemaRead, payloadRead] using holds.filter (goesBy "payload")
  obtain ⟨payload, found, held⟩ := member?_of_only denotes payloadOnly
  rw [Outbox.unwrap, memberCount_object, memberCount_object, schemaOnly, payloadOnly, held]
  exact found

/-- A document of a change is not a wrapped one. -/
theorem Changes.unwrap (changes : Changes inner tree) : unwrap tree value = value := by
  obtain @⟨opName, beforeName, afterName, op, before, members, opRead, beforeRead, afterRead,
    holds⟩ := changes
  have unschemed : members.filter (goesBy "schema") = [] := by
    apply List.perm_nil.mp
    simpa [goesBy, opRead, beforeRead, afterRead] using holds.filter (goesBy "schema")
  rw [Outbox.unwrap, memberCount_object, unschemed]
  simp

/-- The image of a change is what the document after it denotes. -/
theorem Changes.rowImage? (changes : Changes inner tree)
    (denotes : Value.ofTree? (depth + 1) tree = some value) :
    ∃ image, Value.ofTree? depth inner = some image ∧ rowImage? value = image.nullable := by
  obtain @⟨opName, beforeName, afterName, op, before, members, opRead, beforeRead, afterRead,
    holds⟩ := changes
  have opOnly : members.filter (goesBy "op") = [(opName, op)] := by
    apply List.perm_singleton.mp
    simpa [goesBy, opRead, beforeRead, afterRead] using holds.filter (goesBy "op")
  have afterOnly : members.filter (goesBy "after") = [(afterName, inner)] := by
    apply List.perm_singleton.mp
    simpa [goesBy, opRead, beforeRead, afterRead] using holds.filter (goesBy "after")
  obtain ⟨_, _, changed⟩ := member?_of_only denotes opOnly
  obtain ⟨image, found, held⟩ := member?_of_only denotes afterOnly
  refine ⟨image, found, ?_⟩
  rw [Outbox.rowImage?, changed, held]

/-! ## Every shape holds the row -/

/-- A document with one member by a name denotes something under it. -/
theorem exists_member?_of_memberCount {name : String}
    (denotes : Value.ofTree? depth tree = some value) (single : memberCount name tree = 1) :
    ∃ held, member? name value = some held := by
  cases tree with
  | object members =>
      obtain ⟨⟨raw, inner⟩, only⟩ := List.length_eq_one_iff.mp single
      cases depth with
      | zero => simp [Value.ofTree?] at denotes
      | succ depth =>
          obtain ⟨held, _, found⟩ := member?_of_only denotes only
          exact ⟨held, found⟩
  | _ => contradiction

/-- A plain row that is written bare is not unwrapped. -/
theorem IsPlain.unwrap (plain : IsPlain row) (denotes : Value.ofTree? depth tree = some row) :
    unwrap tree row = row := by
  rw [Outbox.unwrap]
  split
  · rename_i both
    obtain ⟨_, schema⟩ := exists_member?_of_memberCount denotes both.1
    obtain ⟨_, payload⟩ := exists_member?_of_memberCount denotes both.2
    rcases plain.unwrapped with missing | missing
    · rw [missing] at schema
      contradiction
    · rw [missing] at payload
      contradiction
  · rfl

/-- A value that lacks the one or the other mark of a change is its own image. -/
theorem rowImage?_of_unchanged (unchanged : member? "op" row = none ∨ member? "after" row = none) :
    rowImage? row = some row := by
  rw [Outbox.rowImage?]
  rcases unchanged with missing | missing
  · rw [missing]
  · rw [missing]
    cases member? "op" row <;> rfl

theorem IsPlain.rowImage? (plain : IsPlain row) : rowImage? row = some row :=
  rowImage?_of_unchanged plain.unchanged

theorem IsPlain.nullable (plain : IsPlain row) : row.nullable = some row := by
  obtain ⟨members, rfl⟩ := plain.object
  rfl

/-- Whatever its shape, the image that a document holds is the row. -/
theorem Shape.rowImage? (shape : Shape row tree) (plain : IsPlain row)
    (denotes : Value.ofTree? depthLimit tree = some value) :
    rowImage? (unwrap tree value) = some row := by
  have limit : depthLimit = 125 + 1 + 1 := rfl
  cases shape with
  | bare same =>
      obtain rfl := Option.some.inj (same.symm.trans denotes)
      rw [plain.unwrap denotes, plain.rowImage?]
  | wrapped same wraps =>
      rw [limit] at denotes
      have found := ofTree?_mono (Nat.le_succ _) (wraps.unwrap denotes)
      rw [← Option.some.inj (same.symm.trans found), plain.rowImage?]
  | changed same changes =>
      rw [limit] at denotes
      obtain ⟨image, found, held⟩ := changes.rowImage? denotes
      have found := ofTree?_mono (Nat.le_succ _) found
      rw [changes.unwrap, held, ← Option.some.inj (same.symm.trans found), plain.nullable]
  | wrappedChanged same changes wraps =>
      rw [limit] at denotes
      obtain ⟨image, found, held⟩ := changes.rowImage? (wraps.unwrap denotes)
      have found := ofTree?_mono (Nat.le_add_right _ 2) found
      rw [held, ← Option.some.inj (same.symm.trans found), plain.nullable]

/-! ## Frames -/

/-- A text behind a frame: a zero byte and the four bytes of a schema id, highest first. -/
def frame (id : UInt32) (text : Bytes) : Bytes :=
  0 :: (id >>> 24).toUInt8 :: (id >>> 16).toUInt8 :: (id >>> 8).toUInt8 :: id.toUInt8 :: text

theorem frameNumber_bytes (id : UInt32) :
    frameNumber (id >>> 24).toUInt8 (id >>> 16).toUInt8 (id >>> 8).toUInt8 id.toUInt8 =
      id.toNat := by
  have high := id.toNat_lt
  simp only [frameNumber, UInt32.toNat_toUInt8, UInt32.toNat_shiftRight]
  simp [Nat.shiftRight_eq_div_pow]
  omega

/-- What stands behind a frame is found with the schema id of the frame. -/
theorem unframe_frame (id : UInt32) {text : Bytes} (nonempty : text ≠ []) :
    unframe (frame id text) = (some id.toNat, text) := by
  cases text with
  | nil => contradiction
  | cons first rest => rw [frame, unframe, frameNumber_bytes]

/-! ## Decoding a rendering -/

variable {text : Bytes} {record : SourceRecord}

theorem Renders.nonempty (renders : Renders row text) : text ≠ [] := by
  rintro rfl
  obtain ⟨parsed, _, _⟩ := renders
  rw [parse?_nil] at parsed
  contradiction

/-- A record with a rendering of a row holds the row. -/
theorem Renders.holds (renders : Renders row text) (plain : IsPlain row)
    (told : record.value = some text) : Holds record none (some row) := by
  obtain ⟨parsed, denotes, shape⟩ := renders
  rw [← shape.rowImage? plain denotes]
  exact holds_of_parse? told parsed denotes

/-- Behind a frame it holds the row with the schema id of the frame. -/
theorem Renders.holds_frame (renders : Renders row text) (plain : IsPlain row) {id : UInt32}
    (told : record.value = some (frame id text)) :
    Holds record (some id.toNat) (some row) := by
  have unframed := unframe_frame id renders.nonempty
  obtain ⟨parsed, denotes, shape⟩ := renders
  rw [← shape.rowImage? plain denotes]
  have spoken : record.content? = some (frame id text) := by
    rw [SourceRecord.content?, told]
    rfl
  have holds := Holds.intro spoken (by rw [unframed]; exact parsed) denotes
  rw [unframed] at holds
  exact holds

/-- Whatever shape a plain row is written in, it decodes alike. A frame changes nothing but
that the headers of an event hold its schema id. -/
theorem decoder_renderings (now : Instant) {one other : Bytes} (plain : IsPlain row)
    (renders : Renders row one) (rerenders : Renders row other) {left right : SourceRecord}
    (headers : left.headers = right.headers) (timestamp : left.timestamp = right.timestamp) :
    decoder now { left with value := some one } =
        decoder now { right with value := some other } ∧
      ∀ id : UInt32, decoder now { right with value := some (frame id other) } =
        (decoder now { left with value := some one }).map
          (Decoded.withHeaders fun headers =>
            headers.insert HeaderName.schemaId (Decimal.ofNat id.toNat)) := by
  have alike (value : Bytes) : sealRow now { right with value := some value } none row =
      sealRow now { left with value := some one } none row :=
    sealRow_congr headers.symm timestamp.symm now none row
  rw [(renders.holds plain rfl).decoder, decodeImage]
  constructor
  · rw [(rerenders.holds plain rfl).decoder, decodeImage, alike]
  · intro id
    rw [(rerenders.holds_frame plain rfl).decoder, decodeImage, sealRow_some, alike]
    rcases sealRow now { left with value := some one } none row with fault | decoded <;> rfl

/-- A row written bare, and wrapped behind a frame. -/
theorem decoder_renderings_wrapped :
    let row : Value := .object [("id", .text "1"), ("type", .text "t")]
    let bare := Text.toBytes "\x7b\"id\":\"1\",\"type\":\"t\"\x7d"
    let wrapped := Text.toBytes
      "\x7b\"schema\":null,\"payload\":\x7b\"id\":\"1\",\"type\":\"t\"\x7d\x7d"
    let record : SourceRecord := ⟨⟨"outbox", 0, 7⟩, none, some bare, ∅, none⟩
    let event : Envelope :=
      { id := "1", eventType := "t", payload := [], headers := ∅, aggregateType := "",
        aggregateId := "", aggregateVersion := none, correlationId := none, causationId := none,
        tenantId := none, occurredAt := .epoch, id_notBlank := rfl, eventType_notBlank := rfl }
    IsPlain row ∧ Renders row bare ∧ Renders row wrapped ∧
      decoder .epoch record = .ok (.event event) ∧
      decoder .epoch { record with value := some (frame 7 wrapped) } =
        .ok (.event
          { event with headers := (∅ : Headers).insert HeaderName.schemaId "7" }) := by
  intro row bare wrapped record event
  let inner : Tree :=
    .object [(Text.toBytes "id", .text (Text.toBytes "1")),
      (Text.toBytes "type", .text (Text.toBytes "t"))]
  let outer : Tree :=
    .object [(Text.toBytes "schema", .null), (Text.toBytes "payload", inner)]
  have plain : IsPlain row := ⟨⟨_, rfl⟩, .inl rfl, .inl rfl⟩
  have denotes : Value.ofTree? depthLimit inner = some row := rfl
  have parsed : Tree.parse? bare = some inner := rfl
  have renders : Renders row bare := ⟨parsed, denotes, .bare denotes⟩
  have schemaRead : readQuoted? (Text.toBytes "schema") = some "schema" := by decide +kernel
  have payloadRead : readQuoted? (Text.toBytes "payload") = some "payload" := by
    decide +kernel
  have wraps : Wraps inner outer := ⟨schemaRead, payloadRead, .refl _⟩
  have wrappedParsed : Tree.parse? wrapped = some outer := rfl
  obtain ⟨value, wrappedDenotes⟩ : ∃ value, Value.ofTree? depthLimit outer = some value :=
    Option.isSome_iff_exists.mp (by decide +kernel)
  have rerenders : Renders row wrapped :=
    ⟨wrappedParsed, wrappedDenotes, .wrapped denotes wraps⟩
  have decoded : decoder .epoch record = .ok (.event event) :=
    eq_ok_of_toOption (by decide +kernel)
  have framed : decoder .epoch { record with value := some (frame 7 wrapped) } =
      (decoder .epoch record).map _ :=
    (decoder_renderings .epoch plain renders rerenders rfl rfl).2 7
  rw [decoded] at framed
  exact ⟨plain, renders, rerenders, decoded, framed⟩

end EventRelay.Outbox

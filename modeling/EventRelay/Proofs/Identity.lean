import EventRelay.Proofs.RowImages
import EventRelay.Proofs.WrittenIntegers

/-!
# The identity of a row

Of an id and of an event type there are several candidates: the column of the row, then headers
of its record. The first that says something ought to count. But an id column stands before the
header unless it is empty, and the first of the two headers for an event type before the second
even if it is blank, so that a blank text may hide a candidate. A row is identified by the first
candidates exactly if none is hidden.
-/

namespace EventRelay

/-! ## Texts that say something -/

namespace Text

/-- A text, unless it is blank. -/
def spoken? (text : String) : Option String :=
  if isBlank text then none else some text

theorem spoken?_of_spoken {text : String} (spoken : isBlank text = false) :
    spoken? text = some text := by
  simp [spoken?, spoken]

theorem isBlank_ofList_of_mem {chars : List Char} {char : Char} (mem : char ∈ chars)
    (plain : isBlankChar char = false) : isBlank (String.ofList chars) = false := by
  rw [isBlank, String.toList_ofList, List.all_eq_false]
  exact ⟨char, mem, by simp [plain]⟩

/-- A digit is not blank. -/
theorem isBlankChar_of_isDigit {char : Char} (digit : char.isDigit = true) :
    isBlankChar char = false := by
  obtain ⟨least, most⟩ : 48 ≤ char.toNat ∧ char.toNat ≤ 57 := by
    simpa [Char.isDigit, UInt32.le_iff_toNat_le] using digit
  simp [isBlankChar, blankRanges]
  omega

end Text

/-! ## Written numbers -/

namespace Decimal

open Text

/-- Digits around a point show a zero before it, the point, or the mark of a whole number. -/
theorem exists_plain_positional (digits : Digits) :
    ∃ char ∈ digits.positional documentStyle.wholeMark, isBlankChar char = false := by
  unfold Digits.positional
  split
  · exact ⟨'0', List.mem_cons_self, rfl⟩
  · dsimp only
    split
    · exact ⟨'.', List.mem_append_right _ List.mem_cons_self, rfl⟩
    · exact ⟨'.', List.mem_append_right _ List.mem_cons_self, rfl⟩

theorem exists_plain_magnitude (binary : Binary) :
    ∃ char ∈ documentStyle.magnitude binary, isBlankChar char = false := by
  unfold Style.magnitude
  split
  · exact ⟨'0', List.mem_cons_self, rfl⟩
  · dsimp only
    split
    · exact exists_plain_positional _
    · exact ⟨'e', List.mem_append_right _ List.mem_cons_self, rfl⟩

theorem exists_plain_write (value : Float) :
    ∃ char ∈ documentStyle.write value, isBlankChar char = false := by
  unfold Style.write
  split
  · exact ⟨'N', List.mem_cons_self, rfl⟩
  · dsimp only
    obtain ⟨char, mem, plain⟩ :
        ∃ char ∈ if value.isInf then "inf".toList else
          documentStyle.magnitude (Binary.ofBits value.toBits), isBlankChar char = false := by
      split
      · exact ⟨'i', List.mem_cons_self, rfl⟩
      · exact exists_plain_magnitude _
    split
    · exact ⟨char, List.mem_cons_of_mem _ mem, plain⟩
    · exact ⟨char, mem, plain⟩

theorem exists_plain_intDigits (value : Int) :
    ∃ char ∈ intDigits value, isBlankChar char = false := by
  obtain ⟨first, mem⟩ := List.exists_mem_of_ne_nil _ (natDigits_ne_nil value.natAbs)
  have plain := isBlankChar_of_isDigit (isDigit_of_mem_natDigits mem)
  unfold intDigits
  split
  · exact ⟨first, List.mem_cons_of_mem _ mem, plain⟩
  · exact ⟨first, mem, plain⟩

end Decimal

/-- A number as written is not blank. -/
theorem Json.Number.isBlank_write (number : Number) :
    Text.isBlank (String.ofList number.write) = false := by
  obtain ⟨char, mem, plain⟩ :
      ∃ char ∈ number.write, Text.isBlankChar char = false := by
    cases number with
    | integer value => exact Decimal.exists_plain_intDigits value
    | float value => exact Decimal.exists_plain_write value
  exact Text.isBlank_ofList_of_mem mem plain

/-! ## Sealed drafts -/

namespace Envelope.Draft

variable (draft : Draft) (now : Instant)

theorem seal_of_blank_id (blank : Text.isBlank draft.id = true) :
    draft.seal now = .error .missingId :=
  dif_neg (by simp [blank])

theorem seal_of_blank_eventType (spoken : Text.isBlank draft.id = false)
    (blank : Text.isBlank draft.eventType = true) :
    draft.seal now = .error .missingEventType := by
  rw [Draft.seal, dif_pos spoken, dif_neg (by simp [blank])]

theorem exists_seal (id_spoken : Text.isBlank draft.id = false)
    (eventType_spoken : Text.isBlank draft.eventType = false) :
    ∃ envelope, draft.seal now = .ok envelope ∧ envelope.id = draft.id ∧
      envelope.eventType = draft.eventType := by
  rw [Draft.seal, dif_pos id_spoken, dif_pos eventType_spoken]
  exact ⟨_, rfl, rfl, rfl⟩

end Envelope.Draft

namespace Outbox

open Json (Tree Value)

/-! ## Candidates -/

/-- The text of a number, or a text that says something. -/
def spokenScalar? : Value → Option String
  | .text content => Text.spoken? content
  | .number number => some (String.ofList number.write)
  | _ => none

/-- The id that a row and its headers tell of. -/
def soughtId? (row : Row) (headers : Headers) : Option String :=
  (row.id.bind spokenScalar?).or ((headers.get? "id").bind Text.spoken?)

/-- The event type that a row and its headers tell of. -/
def soughtEventType? (row : Row) (headers : Headers) : Option String :=
  (row.eventType.bind Text.spoken?).or <|
    ((headers.get? "eventType").bind Text.spoken?).or
      ((headers.get? "event_type").bind Text.spoken?)

/-- A blank text stands before a text that says something. -/
structure Hides (text? later? : Option String) : Prop where
  blank : ∃ text, text? = some text ∧ Text.isBlank text = true
  spoken : ∃ later, later? = some later ∧ Text.isBlank later = false

/-- The id column is blank, but not empty, and hides the header. -/
def HidesId (row : Row) (headers : Headers) : Prop :=
  ∃ content, row.id = some (.text content) ∧ content ≠ "" ∧
    Hides (some content) (headers.get? "id")

/-- Of a row without an event type the first header for it hides the second. -/
def HidesEventType (row : Row) (headers : Headers) : Prop :=
  (∀ own, row.eventType = some own → Text.isBlank own = true) ∧
    Hides (headers.get? "eventType") (headers.get? "event_type")

variable {row : Row} {headers : Headers}

theorem spoken?_getD (text? : Option String) :
    Text.spoken? (text?.getD "") = text?.bind Text.spoken? := by
  cases text? <;> rfl

theorem filter_eq_bind (text? : Option String) :
    text?.filter (fun text => !Text.isBlank text) = text?.bind Text.spoken? := by
  cases text? with
  | none => rfl
  | some text => cases blank : Text.isBlank text <;> simp [Text.spoken?, blank]

theorem not_hides_none (later? : Option String) : ¬Hides none later? :=
  fun hides => nomatch hides.blank

theorem hides_some_iff {text : String} {later? : Option String} :
    Hides (some text) later? ↔
      Text.isBlank text = true ∧ (later?.bind Text.spoken?).isSome = true := by
  constructor
  · rintro ⟨⟨_, same, blank⟩, later, rfl, spoken⟩
    rw [Option.bind_some, Text.spoken?_of_spoken spoken, Option.some.inj same]
    exact ⟨blank, rfl⟩
  · rintro ⟨blank, told⟩
    obtain ⟨later, rfl⟩ := Option.isSome_iff_exists.mp (Option.isSome_of_isSome_bind told)
    refine ⟨⟨text, rfl, blank⟩, later, rfl, ?_⟩
    simpa [Text.spoken?] using told

/-- To take the first text before asking whether it says something is to take the first that
does, unless it hides the second. -/
theorem bind_or_eq_iff (text? later? : Option String) :
    (text?.bind Text.spoken?).or (later?.bind Text.spoken?) =
        (text?.or later?).bind Text.spoken? ↔ ¬Hides text? later? := by
  cases text? with
  | none => simp [not_hides_none]
  | some text =>
      rw [hides_some_iff, Option.some_or, Option.bind_some]
      cases blank : Text.isBlank text with
      | false => simp [Text.spoken?, blank]
      | true =>
          rw [Text.spoken?, if_pos blank, Option.none_or]
          simp

theorem identity?_text {content : String} (nonempty : content ≠ "") :
    Row.identity? (.text content) = some content := by
  simp [Row.identity?, nonempty]

/-- A row gets the id that is sought exactly if the column does not hide it. -/
theorem soughtId?_eq_iff :
    soughtId? row headers = Text.spoken? (idOf row headers) ↔ ¬HidesId row headers := by
  rw [soughtId?, idOf, spoken?_getD, HidesId]
  cases row.id with
  | none => simp [HeaderName.routedId]
  | some value =>
      cases value with
      | text content =>
          by_cases empty : content = ""
          · subst empty
            simp [HeaderName.routedId, spokenScalar?, Row.identity?, Text.spoken?]
          · have law := bind_or_eq_iff (some content) (headers.get? "id")
            simpa [spokenScalar?, identity?_text empty, empty] using law
      | number number =>
          have spoken := number.isBlank_write
          simp [spokenScalar?, Row.identity?, Text.spoken?, spoken]
      | null | bool _ | list _ | object _ =>
          simp [HeaderName.routedId, spokenScalar?, Row.identity?]

/-- A hidden id is not found. -/
theorem spoken?_idOf_of_hidesId (hides : HidesId row headers) :
    Text.spoken? (idOf row headers) = none := by
  obtain ⟨content, column, nonempty, ⟨_, same, blank⟩, -⟩ := hides
  rw [idOf, column, Option.bind_some, identity?_text nonempty, Option.some_or, Option.getD_some,
    Option.some.inj same, Text.spoken?, if_pos blank]

/-- A row gets the event type that is sought exactly if the headers do not hide it. -/
theorem soughtEventType?_eq_iff :
    soughtEventType? row headers = Text.spoken? (eventTypeOf row headers) ↔
      ¬HidesEventType row headers := by
  have law := bind_or_eq_iff (headers.get? "eventType") (headers.get? "event_type")
  have routed : HeaderName.routedEventTypes.findSome? headers.get? =
      (headers.get? "eventType").or (headers.get? "event_type") := by
    rw [HeaderName.routedEventTypes, List.findSome?_cons, List.findSome?_singleton]
    cases headers.get? "eventType" <;> rfl
  rw [eventTypeOf, spoken?_getD, routed, soughtEventType?, HidesEventType, filter_eq_bind]
  cases row.eventType with
  | none => simpa using law
  | some own =>
      cases blank : Text.isBlank own with
      | true => simpa [Text.spoken?, blank] using law
      | false => simp [Text.spoken?, blank]

/-! ## Decoding -/

/-- What is decoded has this id and this event type, or fails for want of one of them. -/
inductive Identifies : Option String → Option String → Except Failure Decoded → Prop
  | event (envelope : Envelope) :
      Identifies (some envelope.id) (some envelope.eventType) (.ok (.event envelope))
  | missingId (eventType? : Option String) :
      Identifies none eventType? (.error (.decode (.incomplete .missingId)))
  | missingEventType (id : String) :
      Identifies (some id) none (.error (.decode (.incomplete .missingEventType)))

variable {record : SourceRecord} {schemaId : Option Nat} {image : Value}

/-- What is decoded settles whether there is an id and, if so, the event type. -/
theorem Identifies.iff {id? eventType? other? another? : Option String}
    {result : Except Failure Decoded} (identifies : Identifies id? eventType? result)
    (agree : id?.isSome → other? = id?) :
    Identifies other? another? result ↔
      other? = id? ∧ (id?.isSome → another? = eventType?) := by
  constructor
  · intro other
    cases identifies with
    | event envelope => cases other; simp
    | missingId => cases other; simp
    | missingEventType id => cases other; exact ⟨agree rfl, fun _ => rfl⟩
  · rintro ⟨rfl, same⟩
    cases identifies with
    | event envelope =>
        rw [same rfl]
        exact .event envelope
    | missingId => exact .missingId another?
    | missingEventType id =>
        rw [same rfl]
        exact .missingEventType id

/-- A row is decoded to an event with its id and its event type, as far as it has them. -/
theorem identifies_decoder (holds : Holds record schemaId (some image))
    (isRow : Row.ofValue? image = some row) (now : Instant) :
    Identifies (Text.spoken? (idOf row record.headers))
      (Text.spoken? (eventTypeOf row record.headers)) (decoder now record) := by
  rw [holds.decoder, decodeImage, sealRow, isRow]
  dsimp only
  let draft := draftOf record schemaId row
  cases blankId : Text.isBlank (idOf row record.headers) with
  | true =>
      rw [draft.seal_of_blank_id now blankId, Text.spoken?, if_pos blankId]
      exact .missingId _
  | false =>
      cases blankType : Text.isBlank (eventTypeOf row record.headers) with
      | true =>
          rw [draft.seal_of_blank_eventType now blankId blankType,
            Text.spoken?_of_spoken blankId, Text.spoken?, if_pos blankType]
          exact .missingEventType _
      | false =>
          obtain ⟨envelope, sealed, id, eventType⟩ := draft.exists_seal now blankId blankType
          rw [sealed, Text.spoken?_of_spoken blankId, Text.spoken?_of_spoken blankType]
          have identified := Identifies.event envelope
          rw [id, eventType] at identified
          exact identified

/-- A row is identified by the first candidates that say something, or refused for want of
any, exactly if none of them is hidden behind a blank text. -/
theorem identifies_sought_iff (holds : Holds record schemaId (some image))
    (isRow : Row.ofValue? image = some row) (now : Instant) :
    Identifies (soughtId? row record.headers) (soughtEventType? row record.headers)
        (decoder now record) ↔
      ¬HidesId row record.headers ∧
        ((soughtId? row record.headers).isSome → ¬HidesEventType row record.headers) := by
  have agree : (Text.spoken? (idOf row record.headers)).isSome →
      soughtId? row record.headers = Text.spoken? (idOf row record.headers) := by
    intro spoken
    refine soughtId?_eq_iff.mpr fun hides => ?_
    rw [spoken?_idOf_of_hidesId hides] at spoken
    contradiction
  rw [(identifies_decoder holds isRow now).iff agree, soughtId?_eq_iff, soughtEventType?_eq_iff]
  refine and_congr_right fun unhidden => ?_
  rw [soughtId?_eq_iff.mpr unhidden]

/-- A blank id column keeps an id from being found. -/
theorem identifies_sought_iff_hidden :
    let text := Text.toBytes "\x7b\"id\":\" \",\"type\":\"t\"\x7d"
    let image : Value := .object [("id", .text " "), ("type", .text "t")]
    let row : Row := ⟨some (.text " "), some "t", none, none, none, none, none, none, none, none⟩
    let headers : Headers := (∅ : Headers).insert "id" "e-1"
    let record : SourceRecord := ⟨⟨"outbox", 0, 7⟩, none, some text, headers, none⟩
    Holds record none (some image) ∧ Row.ofValue? image = some row ∧
      soughtId? row headers = some "e-1" ∧ HidesId row headers ∧
      ¬Identifies (soughtId? row headers) (soughtEventType? row headers)
        (decoder .epoch record) := by
  intro text image row headers record
  let tree : Tree :=
    .object [(Text.toBytes "id", .text (Text.toBytes " ")),
      (Text.toBytes "type", .text (Text.toBytes "t"))]
  have parsed : Tree.parse? text = some tree := rfl
  have denotes : Value.ofTree? Json.depthLimit tree = some image := rfl
  have holds : Holds record none (some image) := holds_of_parse? rfl parsed denotes
  have isRow : Row.ofValue? image = some row := rfl
  have sought : soughtId? row headers = some "e-1" := rfl
  have hides : HidesId row headers :=
    ⟨" ", rfl, by decide, ⟨" ", rfl, rfl⟩, "e-1", rfl, rfl⟩
  exact ⟨holds, isRow, sought, hides, fun identified =>
    ((identifies_sought_iff holds isRow .epoch).mp identified).1 hides⟩

end Outbox

end EventRelay

import EventRelay.Proofs.Replay
import EventRelay.Proofs.RowImages

/-!
# Reserved headers

The relay puts headers of its own over those that a record came with. Whoever wrote the record
cannot change them: under a reserved name that the relay sets, the header of the record counts
for nothing. Layers are put on top of each other and nothing is taken away, so under a reserved
name that the relay has nothing to say about, the header of the record passes through.
-/

namespace EventRelay

/-! ## Headers made of a list -/

theorem Dictionary.get?_foldl_of_nodup {entries : List (String × Option String)}
    (distinct : (entries.map Prod.fst).Nodup) (base : Headers) (name : String) :
    ((entries.filterMap fun (name, value?) => value?.map fun value => (name, value)).foldl
      (fun dictionary entry => dictionary.insert entry.1 entry.2) base).get? name =
        (entries.lookup name).join.or (base.get? name) := by
  induction entries generalizing base with
  | nil => rfl
  | cons entry rest ih =>
      obtain ⟨first, value?⟩ := entry
      rw [List.map_cons, List.nodup_cons] at distinct
      have later : rest.lookup first = none := by
        rw [List.lookup_eq_none_iff]
        intro entry mem
        rw [bne_iff_ne]
        intro same
        apply distinct.1
        rw [same]
        exact List.mem_map.mpr ⟨entry, mem, rfl⟩
      cases value? with
      | none =>
          simp only [List.filterMap_cons, Option.map_none]
          rw [ih distinct.2, List.lookup_cons]
          by_cases same : name = first
          · subst same
            simp [later]
          · simp [beq_eq_false_iff_ne.mpr same]
      | some value =>
          simp only [List.filterMap_cons, Option.map_some, List.foldl_cons]
          rw [ih distinct.2, List.lookup_cons, Dictionary.get?_insert]
          by_cases same : name = first
          · subst same
            simp [later]
          · simp [beq_eq_false_iff_ne.mpr same, same]

/-- Under each of its names a list of headers has what is listed there. -/
theorem Headers.get?_ofPresent {names : List String} (distinct : names.Nodup)
    {entries : List (String × Option String)} (named : entries.map Prod.fst = names)
    (name : String) : (Headers.ofPresent entries).get? name = (entries.lookup name).join := by
  subst named
  rw [ofPresent, Dictionary.ofList, Dictionary.get?_foldl_of_nodup distinct]
  exact Option.or_none

namespace HeaderName

/-- The names under which the relay has something to say. -/
def reserved : List String :=
  schemaId :: (promoted ++ source)

end HeaderName

namespace Outbox

/-- A tombstone is not decoded. -/
theorem decoder_of_no_content (now : Instant) {record : SourceRecord}
    (held : record.content? = none) : decoder now record = .error (.decode .noValue) := by
  rw [decoder, decode, held]
  rfl

theorem decoder_of_content (now : Instant) {record : SourceRecord} {content : Bytes}
    (held : record.content? = some content) :
    decoder now record = (decodeContent now record content).mapError .decode := by
  rw [decoder, decode, held]

end Outbox

namespace SourceRecord

/-! ## What the relay sets -/

/-- The schema id of a framed value. -/
def schemaId? (record : SourceRecord) : Option Nat :=
  record.content?.bind fun content => (Outbox.unframe content).1

/-- The schema id of a framed value as headers. -/
def schemaHeaders (record : SourceRecord) : Headers :=
  Headers.ofPresent [(HeaderName.schemaId, record.schemaId?.map Decimal.ofNat)]

theorem schemaHeaders_of_content {record : SourceRecord} {content : Bytes}
    (held : record.content? = some content) :
    record.schemaHeaders = Outbox.frameHeaders content := by
  rw [schemaHeaders, schemaId?, held]
  rfl

/-- An event has the headers of its record, with those of its frame on top. -/
theorem headers_of_decoder {record : SourceRecord} {now : Instant} {envelope : Envelope}
    (decoded : Outbox.decoder now record = .ok (.event envelope)) :
    envelope.headers = record.headers.merge record.schemaHeaders := by
  cases held : record.content? with
  | none =>
      rw [Outbox.decoder_of_no_content now held] at decoded
      contradiction
  | some content =>
      rw [Outbox.decoder_of_content now held] at decoded
      rw [schemaHeaders_of_content held]
      cases made : Outbox.decodeContent now record content with
      | error fault =>
          rw [made] at decoded
          contradiction
      | ok result =>
          rw [made] at decoded
          rw [Except.ok.inj decoded] at made
          exact Outbox.headers_of_decodeContent made

/-- What the relay itself says of an event: the schema id of its frame, what its fields are
promoted to, and where its record came from. -/
def ownHeaders (record : SourceRecord) (envelope : Envelope) : Headers :=
  (record.schemaHeaders.merge envelope.promotedHeaders).merge record.sourceHeaders

/-- The relay has nothing to say under a reserved name. -/
inductive Unset (record : SourceRecord) (envelope : Envelope) : String → Prop
  | causation (none : envelope.causationId = none) : Unset record envelope HeaderName.causation
  | version (none : envelope.aggregateVersion = none) :
      Unset record envelope HeaderName.aggregateVersion
  | tenant (none : envelope.tenantId = none) : Unset record envelope HeaderName.tenantId
  | schema (none : record.schemaId? = none) : Unset record envelope HeaderName.schemaId
  | timestamp (none : record.timestamp = none) : Unset record envelope HeaderName.sourceTimestamp

theorem get?_ownHeaders (record : SourceRecord) (envelope : Envelope) (name : String) :
    (record.ownHeaders envelope).get? name =
      (record.sourceHeaders.get? name).or
        ((envelope.promotedHeaders.get? name).or (record.schemaHeaders.get? name)) := by
  simp [ownHeaders]

theorem get?_sourceHeaders (record : SourceRecord) (name : String) :
    record.sourceHeaders.get? name = (List.lookup name
      [(HeaderName.sourceTopic, some record.coordinates.topic),
       (HeaderName.sourcePartition, some (Decimal.ofInt record.coordinates.partition)),
       (HeaderName.sourceOffset, some (Decimal.ofInt record.coordinates.offset)),
       (HeaderName.sourceTimestamp, record.timestamp.map Instant.toMillisText)]).join :=
  Headers.get?_ofPresent (show HeaderName.source.Nodup by decide) rfl name

theorem get?_promotedHeaders (envelope : Envelope) (name : String) :
    envelope.promotedHeaders.get? name = (List.lookup name
      [(HeaderName.correlation, some (envelope.correlationId.getD envelope.id)),
       (HeaderName.causation, envelope.causationId),
       (HeaderName.outboxId, some envelope.id),
       (HeaderName.outboxEventType, some envelope.eventType),
       (HeaderName.aggregateType, some envelope.aggregateType),
       (HeaderName.aggregateId, some envelope.aggregateId),
       (HeaderName.aggregateVersion, envelope.aggregateVersion.map Decimal.ofInt),
       (HeaderName.tenantId, envelope.tenantId)]).join :=
  Headers.get?_ofPresent (show HeaderName.promoted.Nodup by decide) rfl name

theorem get?_schemaHeaders (record : SourceRecord) (name : String) :
    record.schemaHeaders.get? name =
      (List.lookup name [(HeaderName.schemaId, record.schemaId?.map Decimal.ofNat)]).join :=
  Headers.get?_ofPresent (show [HeaderName.schemaId].Nodup by decide) rfl name

theorem unset_iff {record : SourceRecord} {envelope : Envelope} {name : String}
    (mem : name ∈ HeaderName.reserved) :
    record.Unset envelope name ↔ (record.ownHeaders envelope).get? name = none := by
  rw [get?_ownHeaders, get?_sourceHeaders, get?_promotedHeaders, get?_schemaHeaders]
  constructor
  · intro unset
    cases unset with
    | causation missing | version missing | tenant missing | schema missing | timestamp missing =>
        rw [missing]
        rfl
  · intro missing
    rw [Option.or_eq_none_iff, Option.or_eq_none_iff] at missing
    obtain ⟨unsourced, unpromoted, unframed⟩ := missing
    simp only [HeaderName.reserved, HeaderName.promoted, HeaderName.source, List.cons_append,
      List.nil_append, List.mem_cons, List.not_mem_nil, or_false] at mem
    rcases mem with rfl | rfl | rfl | rfl | rfl | rfl | rfl | rfl | rfl | rfl | rfl | rfl | rfl
    · exact .schema (Option.map_eq_none_iff.mp unframed)
    · exact nomatch unpromoted
    · exact .causation unpromoted
    · exact nomatch unpromoted
    · exact nomatch unpromoted
    · exact nomatch unpromoted
    · exact nomatch unpromoted
    · exact .version (Option.map_eq_none_iff.mp unpromoted)
    · exact .tenant unpromoted
    · exact nomatch unsourced
    · exact nomatch unsourced
    · exact nomatch unsourced
    · exact .timestamp (Option.map_eq_none_iff.mp unsourced)

theorem Unset.mem_reserved {record : SourceRecord} {envelope : Envelope} {name : String}
    (unset : record.Unset envelope name) : name ∈ HeaderName.reserved := by
  cases unset <;> decide

/-- A header of an event is the relay's own, or else that of its record. -/
theorem get?_propagatedHeaders_of_decoder {now : Instant} {record : SourceRecord}
    {envelope : Envelope} (decoded : Outbox.decoder now record = .ok (.event envelope))
    (name : String) :
    (record.propagatedHeaders envelope).get? name =
      ((record.ownHeaders envelope).get? name).or (record.headers.get? name) := by
  have headers : envelope.headers = record.headers.merge record.schemaHeaders :=
    record.headers_of_decoder decoded
  rw [get?_propagatedHeaders, headers, Dictionary.get?_merge, get?_ownHeaders]
  simp only [Option.or_assoc]

/-! ## Records of different writers -/

/-- Two records differ in nothing but headers under reserved names. -/
structure Akin (left right : SourceRecord) : Prop where
  coordinates : right.coordinates = left.coordinates
  key : right.key = left.key
  value : right.value = left.value
  timestamp : right.timestamp = left.timestamp
  unreserved : ∀ name, name ∉ HeaderName.reserved →
    right.headers.get? name = left.headers.get? name

variable {left right : SourceRecord}

theorem Akin.alike (akin : Akin left right) : Outbox.Alike left right where
  timestamp := akin.timestamp.symm
  routed := by
    intro name mem
    apply akin.unreserved
    revert name
    decide

/-- They are decoded to the same but for the headers. -/
theorem Akin.decoder (akin : Akin left right) (now : Instant) :
    Outbox.decoder now right = (Outbox.decoder now left).map
      (Outbox.Decoded.withHeaders fun _ => right.headers.merge left.schemaHeaders) := by
  have same : right.content? = left.content? := by
    rw [content?, akin.value]
    rfl
  cases content : left.content? with
  | none =>
      rw [content] at same
      rw [Outbox.decoder_of_no_content now content, Outbox.decoder_of_no_content now same]
      rfl
  | some bytes =>
      rw [content] at same
      rw [Outbox.decoder_of_content now content, Outbox.decoder_of_content now same,
        akin.alike.decodeContent, schemaHeaders_of_content content]
      cases Outbox.decodeContent now left bytes <;> rfl

/-- What the relay says of their events is the same. -/
theorem Akin.ownHeaders (akin : Akin left right) {now : Instant} {first second : Envelope}
    (leftDecoded : Outbox.decoder now left = .ok (.event first))
    (rightDecoded : Outbox.decoder now right = .ok (.event second)) :
    right.ownHeaders second = left.ownHeaders first := by
  have decoded := akin.decoder now
  rw [leftDecoded, rightDecoded] at decoded
  obtain rfl := Outbox.Decoded.event.inj (Except.ok.inj decoded)
  have schema : right.schemaHeaders = left.schemaHeaders := by
    rw [schemaHeaders, schemaId?, content?, akin.value]
    rfl
  have source : right.sourceHeaders = left.sourceHeaders := by
    rw [sourceHeaders, akin.coordinates, akin.timestamp]
    rfl
  rw [SourceRecord.ownHeaders, schema, source]
  rfl

/-- Of two records that differ in nothing but headers under reserved names, both decode alike,
and their headers agree wherever the relay sets them and under every name that is not reserved.
Under a reserved name that the relay does not set, each record's own header passes through. -/
theorem headers_of_akin (akin : Akin left right) (now : Instant) :
    (Outbox.decoder now right).map (Outbox.Decoded.withHeaders fun _ => ∅) =
        (Outbox.decoder now left).map (Outbox.Decoded.withHeaders fun _ => ∅) ∧
      ∀ first second, Outbox.decoder now left = .ok (.event first) →
        Outbox.decoder now right = .ok (.event second) →
        (∀ name, ¬left.Unset first name →
          (right.propagatedHeaders second).get? name =
            (left.propagatedHeaders first).get? name) ∧
        (∀ name ∈ HeaderName.reserved, ¬left.Unset first name →
          ∃ value, (left.ownHeaders first).get? name = some value ∧
            (left.propagatedHeaders first).get? name = some value) ∧
        (∀ name, left.Unset first name →
          (left.propagatedHeaders first).get? name = left.headers.get? name ∧
            (right.propagatedHeaders second).get? name = right.headers.get? name) ∧
        (right.propagatedHeaders second = left.propagatedHeaders first ↔
          ∀ name, left.Unset first name → right.headers.get? name = left.headers.get? name) := by
  constructor
  · rw [akin.decoder]
    rcases Outbox.decoder now left with failure | envelope | reason <;> rfl
  intro first second leftDecoded rightDecoded
  have own := akin.ownHeaders leftDecoded rightDecoded
  have ofLeft := left.get?_propagatedHeaders_of_decoder leftDecoded
  have ofRight := right.get?_propagatedHeaders_of_decoder rightDecoded
  rw [own] at ofRight
  have set : ∀ name ∈ HeaderName.reserved, ¬left.Unset first name →
      ∃ value, (left.ownHeaders first).get? name = some value := by
    intro name mem held
    rw [unset_iff mem] at held
    exact Option.ne_none_iff_exists'.mp held
  have passed : ∀ name, left.Unset first name →
      (left.propagatedHeaders first).get? name = left.headers.get? name ∧
        (right.propagatedHeaders second).get? name = right.headers.get? name := by
    intro name unset
    have silent := (unset_iff unset.mem_reserved).mp unset
    rw [ofLeft, ofRight, silent]
    exact ⟨rfl, rfl⟩
  have agree : ∀ name, ¬left.Unset first name →
      (right.propagatedHeaders second).get? name =
        (left.propagatedHeaders first).get? name := by
    intro name held
    rw [ofLeft, ofRight]
    by_cases mem : name ∈ HeaderName.reserved
    · obtain ⟨value, given⟩ := set name mem held
      rw [given]
      rfl
    · rw [akin.unreserved name mem]
  refine ⟨agree, ?_, passed, ?_⟩
  · intro name mem held
    obtain ⟨value, given⟩ := set name mem held
    refine ⟨value, given, ?_⟩
    rw [ofLeft, given]
    rfl
  · constructor
    · intro same name unset
      obtain ⟨throughLeft, throughRight⟩ := passed name unset
      rw [← throughLeft, ← throughRight, same]
    · intro same
      apply Dictionary.ext_get?
      intro name
      by_cases unset : left.Unset first name
      · obtain ⟨throughLeft, throughRight⟩ := passed name unset
        rw [throughLeft, throughRight, same name unset]
      · exact agree name unset

/-! ## A forged header -/

/-- A record of a row that says nothing but its id and its type. -/
def bareRecord (headers : Headers) : SourceRecord :=
  ⟨⟨"outbox", 0, 7⟩, none,
    some (Text.toBytes "\x7b\"id\":\"bare\",\"type\":\"t\"\x7d"), headers, none⟩

/-- The event of such a row. -/
def bareEvent (headers : Headers) : Envelope :=
  ⟨"bare", "t", [], headers, "", "", none, none, none, none, .epoch, rfl, rfl⟩

/-- Headers with one that the relay would not have set. -/
def forged (name : String) : Headers :=
  (∅ : Headers).insert name "forged"

theorem akin_forged {name : String} (mem : name ∈ HeaderName.reserved) :
    Akin (bareRecord ∅) (bareRecord (forged name)) where
  coordinates := rfl
  key := rfl
  value := rfl
  timestamp := rfl
  unreserved other absent := by
    have different : other ≠ name := by
      rintro rfl
      exact absent mem
    change (forged name).get? other = (∅ : Headers).get? other
    rw [forged, Dictionary.get?_insert, if_neg different]

theorem decoder_bareRecord (headers : Headers)
    (read : (Outbox.decoder .epoch (bareRecord headers)).toOption =
      some (.event (bareEvent headers))) :
    Outbox.decoder .epoch (bareRecord headers) = .ok (.event (bareEvent headers)) :=
  Outbox.eq_ok_of_toOption read

/-- A correlation id of the record's own changes nothing. -/
theorem headers_of_akin_correlated :
    Akin (bareRecord ∅) (bareRecord (forged HeaderName.correlation)) ∧
      Outbox.decoder .epoch (bareRecord ∅) = .ok (.event (bareEvent ∅)) ∧
      Outbox.decoder .epoch (bareRecord (forged HeaderName.correlation)) =
        .ok (.event (bareEvent (forged HeaderName.correlation))) ∧
      (bareRecord (forged HeaderName.correlation)).propagatedHeaders
          (bareEvent (forged HeaderName.correlation)) =
        (bareRecord ∅).propagatedHeaders (bareEvent ∅) := by
  have akin := akin_forged (show HeaderName.correlation ∈ HeaderName.reserved by decide)
  have plain := decoder_bareRecord ∅ (by decide +kernel)
  have other := decoder_bareRecord (forged HeaderName.correlation) (by decide +kernel)
  refine ⟨akin, plain, other, ?_⟩
  apply (((headers_of_akin akin .epoch).2 _ _ plain other).2.2.2).mpr
  intro name unset
  cases unset <;> rfl

/-- A causation id of the record's own passes through where the row has none. -/
theorem forged_causation_passes :
    ¬∀ (left right : SourceRecord) (now : Instant) (first second : Envelope), Akin left right →
      Outbox.decoder now left = .ok (.event first) →
      Outbox.decoder now right = .ok (.event second) →
      right.propagatedHeaders second = left.propagatedHeaders first := by
  intro claimed
  have akin := akin_forged (show HeaderName.causation ∈ HeaderName.reserved by decide)
  have same := claimed _ _ .epoch _ _ akin
    (decoder_bareRecord ∅ (by decide +kernel))
    (decoder_bareRecord (forged HeaderName.causation) (by decide +kernel))
  exact absurd same (by decide +kernel)

end SourceRecord

end EventRelay

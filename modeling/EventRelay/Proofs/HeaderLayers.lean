import EventRelay.DeadLetter

/-!
# Layers of headers

A relay puts headers of its own on top of those that a record came with: what the fields of
the event promote, where the record came from and, on a dead letter, what is known of the
failure. The names of all of these are fixed, and headers under any other name pass through.
-/

namespace EventRelay

/-! ## Headers made of a list -/

theorem Dictionary.get?_foldl_of_notMem {α : Type} {entries : List (String × α)}
    {name : String} (absent : name ∉ entries.map Prod.fst) (base : Dictionary α) :
    (entries.foldl (fun dictionary entry => dictionary.insert entry.1 entry.2) base).get? name =
      base.get? name := by
  induction entries generalizing base with
  | nil => rfl
  | cons entry rest ih =>
      rw [List.map_cons, List.mem_cons, not_or] at absent
      rw [List.foldl_cons, ih absent.2, get?_insert, if_neg absent.1]

/-- Headers made of a list have no name that the list has not. -/
theorem Headers.get?_ofPresent_of_notMem {entries : List (String × Option String)}
    {name : String} (absent : name ∉ entries.map Prod.fst) :
    (Headers.ofPresent entries).get? name = none := by
  apply Dictionary.get?_foldl_of_notMem
  intro present
  apply absent
  obtain ⟨entry, mem, rfl⟩ := List.mem_map.mp present
  obtain ⟨listed, given, same⟩ := List.mem_filterMap.mp mem
  obtain ⟨value, _, rfl⟩ := Option.map_eq_some_iff.mp same
  exact List.mem_map_of_mem given

/-! ## The names that a relay uses -/

namespace HeaderName

/-- What the fields of an event are promoted to. -/
def promoted : List String :=
  [correlation, causation, outboxId, outboxEventType, aggregateType, aggregateId,
    aggregateVersion, tenantId]

/-- What tells where a record came from. -/
def source : List String :=
  [sourceTopic, sourcePartition, sourceOffset, sourceTimestamp]

/-- What describes a failure. -/
def diagnostic : List String :=
  [deadLetterId, deadLetterTopic, deadLetterPartition, deadLetterOffset, deadLetterReason,
    deadLetterKind, deadLetterTimestamp, deadLetterGroup]

/-- The names that a decoder looks for where a row lacks its identity. -/
def routed : List String :=
  routedId :: routedEventTypes

end HeaderName

variable {name : String}

theorem Envelope.get?_promotedHeaders_of_notMem (envelope : Envelope)
    (absent : name ∉ HeaderName.promoted) : envelope.promotedHeaders.get? name = none :=
  Headers.get?_ofPresent_of_notMem absent

theorem SourceRecord.get?_sourceHeaders_of_notMem (record : SourceRecord)
    (absent : name ∉ HeaderName.source) : record.sourceHeaders.get? name = none :=
  Headers.get?_ofPresent_of_notMem absent

theorem DeadLetter.get?_diagnosticHeaders_of_notMem (letter : DeadLetter)
    (absent : name ∉ HeaderName.diagnostic) : letter.diagnosticHeaders.get? name = none :=
  Headers.get?_ofPresent_of_notMem absent

/-- What goes with a message under a name that the relay does not use came with the event. -/
theorem SourceRecord.get?_propagatedHeaders_of_notMem (record : SourceRecord)
    (envelope : Envelope) (unpromoted : name ∉ HeaderName.promoted)
    (unsourced : name ∉ HeaderName.source) :
    (record.propagatedHeaders envelope).get? name = envelope.headers.get? name := by
  rw [get?_propagatedHeaders, get?_sourceHeaders_of_notMem record unsourced,
    Envelope.get?_promotedHeaders_of_notMem envelope unpromoted]
  rfl

/-- What a dead letter carries under a name that describes no failure, its record was handled
with. -/
theorem DeadLetter.get?_toMessage_of_notMem (letter : DeadLetter) (suffix : String)
    (undiagnosed : name ∉ HeaderName.diagnostic) :
    (letter.toMessage suffix).headers.get? name = letter.headers.get? name := by
  rw [toMessage, Dictionary.get?_merge, get?_diagnosticHeaders_of_notMem letter undiagnosed]
  rfl

end EventRelay

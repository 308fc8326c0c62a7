import EventRelay.Dictionary

/-!
# Headers

A record and a message carry texts under names. Sets of headers are layered:
where two layers have one name, the upper layer counts.
-/

namespace EventRelay

/-- Texts under names, listed in increasing order of names. -/
abbrev Headers := Dictionary String

/-- The headers that are present in a list, each name taken once at most. -/
def Headers.ofPresent (entries : List (String × Option String)) : Headers :=
  Dictionary.ofList <| entries.filterMap fun (name, value?) => value?.map fun value => (name, value)

namespace HeaderName

/-- Ties the messages of one piece of work together. -/
def correlation : String := "CorrelationId"

/-- Names what caused a message. -/
def causation : String := "CausationId"

/-- The outbox id of the event a message came from. -/
def outboxId : String := "X-Original-Outbox-Id"

/-- The event type of the event a message came from. -/
def outboxEventType : String := "X-Original-Event-Type"

/-- The type of the aggregate that changed. -/
def aggregateType : String := "X-Original-Aggregate-Type"

/-- The id of the aggregate that changed. -/
def aggregateId : String := "X-Original-Aggregate-Id"

/-- The version of the aggregate after the change. -/
def aggregateVersion : String := "X-Original-Aggregate-Version"

/-- The tenant the event belongs to. -/
def tenantId : String := "X-Original-Tenant-Id"

/-- The topic a record was read from. -/
def sourceTopic : String := "X-Source-Topic"

/-- The partition a record was read from. -/
def sourcePartition : String := "X-Source-Partition"

/-- The offset a record was read at. -/
def sourceOffset : String := "X-Source-Offset"

/-- When the source log took a record in. -/
def sourceTimestamp : String := "X-Source-Timestamp"

/-- The schema id of a framed value. -/
def schemaId : String := "X-Schema-Id"

/-- The id of a dead letter. -/
def deadLetterId : String := "X-DLQ-Id"

/-- The topic of a dead-lettered record. -/
def deadLetterTopic : String := "X-DLQ-OriginalTopic"

/-- The partition of a dead-lettered record. -/
def deadLetterPartition : String := "X-DLQ-OriginalPartition"

/-- The offset of a dead-lettered record. -/
def deadLetterOffset : String := "X-DLQ-OriginalOffset"

/-- Why a record was dead-lettered. -/
def deadLetterReason : String := "X-DLQ-ErrorReason"

/-- The kind of the failure that a record was dead-lettered for. -/
def deadLetterKind : String := "X-DLQ-ExceptionType"

/-- When a record was dead-lettered. -/
def deadLetterTimestamp : String := "X-DLQ-TimestampUtc"

/-- The group of readers that dead-lettered a record. -/
def deadLetterGroup : String := "X-DLQ-ConsumerGroup"

/-- The event type that a message announces. -/
def eventType : String := "X-Event-Type"

/-- Where a router before the relay leaves the outbox id. -/
def routedId : String := "id"

/-- Where a router before the relay leaves the event type, most trusted first. -/
def routedEventTypes : List String := ["eventType", "event_type"]

end HeaderName

end EventRelay

/-!
# Codes of the broker's client

A code has a name and a description. Descriptions say first who found the fault:
the client itself, or the broker that it talks to.
-/

namespace EventRelay.BrokerCode

/-- The codes of faults that the client found. -/
def localDescriptions : List (String × String) :=
  [("BadMessage", "Bad message format"),
   ("BadCompression", "Invalid compressed data"),
   ("BrokerDestroy", "Broker handle destroyed for termination"),
   ("Fail", "Communication failure with broker"),
   ("BrokerTransportFailure", "Broker transport failure"),
   ("CriticalSystemResource", "Critical system resource failure"),
   ("Resolve", "Host resolution failure"),
   ("MessageTimedOut", "Message timed out"),
   ("UnknownPartition", "Unknown partition"),
   ("FileSystem", "File or filesystem error"),
   ("UnknownTopic", "Unknown topic"),
   ("AllBrokersDown", "All broker connections are down"),
   ("InvalidArgument", "Invalid argument or configuration"),
   ("OperationTimedOut", "Timed out"),
   ("QueueFull", "Queue full"),
   ("ISRInsufficient", "ISR count insufficient"),
   ("NodeUpdate", "Broker node update"),
   ("SSL", "SSL error"),
   ("WaitingForCoordinator", "Waiting for coordinator"),
   ("UnknownGroup", "Unknown group"),
   ("InProgress", "Operation in progress"),
   ("PreviousInProgress", "Previous operation in progress"),
   ("ExistingSubscription", "Existing subscription"),
   ("AssignPartitions", "Assign partitions"),
   ("RevokePartitions", "Revoke partitions"),
   ("Conflict", "Conflicting use"),
   ("State", "Erroneous state"),
   ("UnknownProtocol", "Unknown protocol"),
   ("NotImplemented", "Not implemented"),
   ("Authentication", "Authentication failure"),
   ("NoOffset", "No offset stored"),
   ("Outdated", "Outdated"),
   ("TimedOutQueue", "Timed out in queue"),
   ("UnsupportedFeature", "Required feature not supported by broker"),
   ("WaitCache", "Awaiting cache update"),
   ("Interrupted", "Operation interrupted"),
   ("KeySerialization", "Key serialization error"),
   ("ValueSerialization", "Value serialization error"),
   ("KeyDeserialization", "Key deserialization error"),
   ("ValueDeserialization", "Value deserialization error"),
   ("Partial", "Partial response"),
   ("ReadOnly", "Read-only object"),
   ("NoEnt", "No such entry"),
   ("Underflow", "Read underflow"),
   ("InvalidType", "Invalid type"),
   ("Retry", "Retry operation"),
   ("PurgeQueue", "Purged in queue"),
   ("PurgeInflight", "Purged in flight"),
   ("Fatal", "Fatal error"),
   ("Inconsistent", "Inconsistent state"),
   ("GaplessGuarantee", "Gap-less ordering would not be guaranteed if proceeding"),
   ("PollExceeded", "Maximum application poll interval (max.poll.interval.ms) exceeded"),
   ("UnknownBroker", "Unknown broker"),
   ("NotConfigured", "Functionality not configured"),
   ("Fenced", "This instance has been fenced by a newer instance"),
   ("Application", "Application generated error"),
   ("AssignmentLost", "Group partition assignment lost"),
   ("Noop", "No operation performed"),
   ("AutoOffsetReset", "No offset to automatically reset to"),
   ("LogTruncation", "Partition log truncation detected"),
   ("InvalidDifferentRecord",
    "an invalid record in the same batch caused the failure of this message too"),
   ("DestroyBroker", "Broker handle destroyed without termination")]

/-- The codes of faults that the broker found. -/
def brokerDescriptions : List (String × String) :=
  [("PartitionEOF", "No more messages"),
   ("OffsetOutOfRange", "Offset out of range"),
   ("InvalidMessage", "Invalid message"),
   ("UnknownTopicOrPartition", "Unknown topic or partition"),
   ("InvalidMessageSize", "Invalid message size"),
   ("LeaderNotAvailable", "Leader not available"),
   ("NotLeaderForPartition", "Not leader for partition"),
   ("RequestTimedOut", "Request timed out"),
   ("BrokerNotAvailable", "Broker not available"),
   ("ReplicaNotAvailable", "Replica not available"),
   ("MessageSizeTooLarge", "Message size too large"),
   ("StaleControllerEpoch", "StaleControllerEpochCode"),
   ("OffsetMetadataTooLarge", "Offset metadata string too large"),
   ("NetworkException", "Broker disconnected before response received"),
   ("CoordinatorLoadInProgress", "Coordinator load in progress"),
   ("CoordinatorNotAvailable", "Coordinator not available"),
   ("NotCoordinator", "Not coordinator"),
   ("InvalidTopic", "Invalid topic"),
   ("MessageBatchTooLarge", "Message batch larger than configured server segment size"),
   ("NotEnoughReplicas", "Not enough in-sync replicas"),
   ("NotEnoughReplicasAfterAppend",
    "Message(s) written to insufficient number of in-sync replicas"),
   ("InvalidRequiredAcks", "Invalid required acks value"),
   ("IllegalGeneration", "Specified group generation id is not valid"),
   ("InconsistentGroupProtocol", "Inconsistent group protocol"),
   ("InvalidGroupId", "Invalid group.id"),
   ("UnknownMemberId", "Unknown member"),
   ("InvalidSessionTimeout", "Invalid session timeout"),
   ("RebalanceInProgress", "Group rebalance in progress"),
   ("InvalidCommitOffsetSize", "Commit offset data size is not valid"),
   ("TopicAuthorizationFailed", "Topic authorization failed"),
   ("GroupAuthorizationFailed", "Group authorization failed"),
   ("ClusterAuthorizationFailed", "Cluster authorization failed"),
   ("InvalidTimestamp", "Invalid timestamp"),
   ("UnsupportedSASLMechanism", "Unsupported SASL mechanism"),
   ("IllegalSASLState", "Request not valid in current SASL state"),
   ("UnsupportedVersion", "API version not supported"),
   ("TopicAlreadyExists", "Topic already exists"),
   ("InvalidPartitions", "Invalid number of partitions"),
   ("InvalidReplicationFactor", "Invalid replication factor"),
   ("InvalidReplicaAssignment", "Invalid replica assignment"),
   ("InvalidConfig", "Configuration is invalid"),
   ("NotController", "Not controller for cluster"),
   ("InvalidRequest", "Invalid request"),
   ("UnsupportedForMessageFormat", "Message format on broker does not support request"),
   ("PolicyViolation", "Policy violation"),
   ("OutOfOrderSequenceNumber", "Broker received an out of order sequence number"),
   ("DuplicateSequenceNumber", "Broker received a duplicate sequence number"),
   ("InvalidProducerEpoch", "Producer attempted an operation with an old epoch"),
   ("InvalidTransactionalState",
    "Producer attempted a transactional operation in an invalid state"),
   ("InvalidProducerIdMapping",
    "Producer attempted to use a producer id which is not currently assigned to its " ++
    "transactional id"),
   ("InvalidTransactionTimeout",
    "Transaction timeout is larger than the maximum value allowed by the broker's " ++
    "max.transaction.timeout.ms"),
   ("ConcurrentTransactions",
    "Producer attempted to update a transaction while another concurrent operation on " ++
    "the same transaction was ongoing"),
   ("TransactionCoordinatorFenced",
    "Indicates that the transaction coordinator sending a WriteTxnMarker is no longer " ++
    "the current coordinator for a given producer"),
   ("TransactionalIdAuthorizationFailed", "Transactional Id authorization failed"),
   ("SecurityDisabled", "Security features are disabled"),
   ("OperationNotAttempted", "Operation not attempted"),
   ("KafkaStorageError", "Disk error when trying to access log file on disk"),
   ("LogDirNotFound", "The user-specified log directory is not found in the broker config"),
   ("SaslAuthenticationFailed", "SASL Authentication failed"),
   ("UnknownProducerId", "Unknown Producer Id"),
   ("ReassignmentInProgress", "Partition reassignment is in progress"),
   ("DelegationTokenAuthDisabled", "Delegation Token feature is not enabled"),
   ("DelegationTokenNotFound", "Delegation Token is not found on server"),
   ("DelegationTokenOwnerMismatch", "Specified Principal is not valid Owner/Renewer"),
   ("DelegationTokenRequestNotAllowed",
    "Delegation Token requests are not allowed on this connection"),
   ("DelegationTokenAuthorizationFailed", "Delegation Token authorization failed"),
   ("DelegationTokenExpired", "Delegation Token is expired"),
   ("InvalidPrincipalType", "Supplied principalType is not supported"),
   ("NonEmptyGroup", "The group is not empty"),
   ("GroupIdNotFound", "The group id does not exist"),
   ("FetchSessionIdNotFound", "The fetch session ID was not found"),
   ("InvalidFetchSessionEpoch", "The fetch session epoch is invalid"),
   ("ListenerNotFound", "No matching listener"),
   ("TopicDeletionDisabled", "Topic deletion is disabled"),
   ("FencedLeaderEpoch", "Leader epoch is older than broker epoch"),
   ("UnknownLeaderEpoch", "Leader epoch is newer than broker epoch"),
   ("UnsupportedCompressionType", "Unsupported compression type"),
   ("StaleBrokerEpoch", "Broker epoch has changed"),
   ("OffsetNotAvailable", "Leader high watermark is not caught up"),
   ("MemberIdRequired", "Group member needs a valid member ID"),
   ("PreferredLeaderNotAvailable", "Preferred leader was not available"),
   ("GroupMaxSizeReached", "Consumer group has reached maximum size"),
   ("FencedInstanceId", "Static consumer fenced by other consumer with same group.instance.id"),
   ("EligibleLeadersNotAvailable", "Eligible partition leaders are not available"),
   ("ElectionNotNeeded", "Leader election not needed for topic partition"),
   ("NoReassignmentInProgress", "No partition reassignment is in progress"),
   ("GroupSubscribedToTopic",
    "Deleting offsets of a topic while the consumer group is subscribed to it"),
   ("InvalidRecord", "Broker failed to validate record"),
   ("UnstableOffsetCommit", "There are unstable offsets that need to be cleared"),
   ("ThrottlingQuotaExceeded", "Throttling quota has been exceeded"),
   ("ProducerFenced",
    "There is a newer producer with the same transactionalId which fences the current " ++
    "one"),
   ("ResourceNotFound", "Request illegally referred to resource that does not exist"),
   ("DuplicateResource", "Request illegally referred to the same resource twice"),
   ("UnacceptableCredential", "Requested credential would not meet criteria for acceptability"),
   ("InconsistentVoterSet",
    "Indicates that the either the sender or recipient of a voter-only request is not " ++
    "one of the expected voters"),
   ("InvalidUpdateVersion", "Invalid update version"),
   ("FeatureUpdateFailed", "Unable to update finalized features due to server error"),
   ("PrincipalDeserializationFailure",
    "Request principal deserialization failed during forwarding"),
   ("UnknownTopicId", "Unknown topic id"),
   ("FencedMemberEpoch", "The member epoch is fenced by the group coordinator"),
   ("UnreleasedInstanceId",
    "The instance ID is still used by another member in the consumer group"),
   ("UnsupportedAssignor",
    "The assignor or its version range is not supported by the consumer group"),
   ("StaleMemberEpoch", "The member epoch is stale"),
   ("UnknownSubscriptionId",
    "Client sent a push telemetry request with an invalid or outdated subscription ID"),
   ("TelemetryTooLarge",
    "Client sent a push telemetry request larger than the maximum size the broker will " ++
    "accept"),
   ("RebootstrapRequired",
    "Client metadata is stale, client should rebootstrap to obtain new metadata")]

/-- The codes that are nobody's fault in particular. -/
def generalDescriptions : List (String × String) :=
  [("Begin", "Err--200?"),
   ("End", "Err--100?"),
   ("EndAll", "Err-130?"),
   ("Unknown", "Unknown broker error"),
   ("NoError", "Success")]

/-- The description of a code. -/
def description? (code : String) : Option String :=
  match localDescriptions.lookup code, brokerDescriptions.lookup code with
  | some text, _ => some ("Local: " ++ text)
  | none, some text => some ("Broker: " ++ text)
  | none, none => generalDescriptions.lookup code

/-- A code with its description, where it has one. -/
def describe (code : String) : String :=
  match description? code with
  | some description => code ++ " (" ++ description ++ ")"
  | none => code

example : describe "QueueFull" = "QueueFull (Local: Queue full)" := by decide +kernel

end EventRelay.BrokerCode

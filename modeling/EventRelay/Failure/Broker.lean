import EventRelay.Decimal.Integer
import EventRelay.Failure.BrokerCode
import EventRelay.Failure.Kind

/-!
# Errors of the broker's client

Most errors of the client name an operation that failed and a code. The code
decides the kind of failure, and some codes cannot be recovered from: the login
was rejected, the versions do not match, or the membership of the group is lost.
-/

namespace EventRelay

/-- The operations of the client that fail with a code. -/
inductive BrokerOperation
  | administration
  | commit
  | queueClose
  | flush
  | global
  | groupListing
  | consumption
  | fatalConsumption
  | production
  | metadata
  | offsets
  | rebalance
  | offsetAssignment
  | offsetStore
  | mockCluster
  deriving DecidableEq, Repr

/-- What is said of a failed operation before its code. -/
def BrokerOperation.label : BrokerOperation → String
  | .administration => "Admin operation error"
  | .commit => "Consumer commit error"
  | .queueClose => "Consumer queue close error"
  | .flush => "Flush error"
  | .global => "Global error"
  | .groupListing => "Group list fetch error"
  | .consumption => "Message consumption error"
  | .fatalConsumption => "(Fatal) Message consumption error"
  | .production => "Message production error"
  | .metadata => "Meta data fetch error"
  | .offsets => "Offset fetch error"
  | .rebalance => "Rebalance error"
  | .offsetAssignment => "Set partition offset error"
  | .offsetStore => "Store offset error"
  | .mockCluster => "Mock cluster error"

/-- The operations by name. -/
def BrokerOperation.named : List (String × BrokerOperation) :=
  [("AdminOp", .administration),
   ("ConsumerCommit", .commit),
   ("ConsumerQueueClose", .queueClose),
   ("Flush", .flush),
   ("Global", .global),
   ("GroupListFetch", .groupListing),
   ("MessageConsumption", .consumption),
   ("MessageConsumptionFatal", .fatalConsumption),
   ("MessageProduction", .production),
   ("MetadataFetch", .metadata),
   ("OffsetFetch", .offsets),
   ("Rebalance", .rebalance),
   ("SetPartitionOffset", .offsetAssignment),
   ("StoreOffset", .offsetStore),
   ("MockCluster", .mockCluster)]

/-- The operations of the client that fail with a description. -/
inductive BrokerRequest
  | administrationSetup
  | clientSetup
  | pauseResume
  | seek
  | subscription
  deriving DecidableEq, Repr

/-- What is said of a failed request before its description. -/
def BrokerRequest.label : BrokerRequest → String
  | .administrationSetup => "Admin operation creation error"
  | .clientSetup => "Client creation error"
  | .pauseResume => "Pause/resume error"
  | .seek => "Seek error"
  | .subscription => "Subscription error"

/-- The requests by name. -/
def BrokerRequest.named : List (String × BrokerRequest) :=
  [("AdminOpCreation", .administrationSetup),
   ("ClientCreation", .clientSetup),
   ("PauseResume", .pauseResume),
   ("Seek", .seek),
   ("Subscription", .subscription)]

/-- An error of the broker's client. -/
inductive BrokerError
  /-- An operation failed with a code, known by its name. -/
  | coded (operation : BrokerOperation) (code : String)
  /-- A request failed, for the reason described. -/
  | described (request : BrokerRequest) (text : String)
  /-- The client went away during the operation. -/
  | canceled
  /-- A poll ended without a record. -/
  | noMessage
  /-- A partition has been read to its end. -/
  | partitionEnd (partition : Int)
  deriving DecidableEq, Repr

namespace BrokerError

/-- The wording of an error, given that of its code. -/
def wording (ofCode : String → String) : BrokerError → String
  | .coded operation code => operation.label ++ ": " ++ ofCode code
  | .described request text => request.label ++ ": " ++ text
  | .canceled => "KafkaError (Client dropped)"
  | .noMessage => "No message received within the given poll interval"
  | .partitionEnd partition => "Partition EOF: " ++ Decimal.ofInt partition

/-- The wording of an error, its code described. -/
def message (error : BrokerError) : String :=
  error.wording BrokerCode.describe

/-- The wording of an error, its code only named. -/
def brief (error : BrokerError) : String :=
  error.wording id

/-- The code of an error. Administration keeps its code to itself. -/
def code? : BrokerError → Option String
  | .coded .administration _ => none
  | .coded _ code => some code
  | _ => none

/-- The codes with a kind of their own. -/
def kindsOfCodes : List (String × FailureKind) :=
  [("MessageSizeTooLarge", .messageTooLarge),
   ("InvalidMessageSize", .messageTooLarge),
   ("MessageBatchTooLarge", .messageTooLarge),
   ("MessageTimedOut", .timeout),
   ("RequestTimedOut", .timeout),
   ("OperationTimedOut", .timeout),
   ("BrokerTransportFailure", .brokerUnavailable),
   ("AllBrokersDown", .brokerUnavailable),
   ("BrokerNotAvailable", .brokerUnavailable),
   ("LeaderNotAvailable", .brokerUnavailable),
   ("NotLeaderForPartition", .brokerUnavailable),
   ("NetworkException", .brokerUnavailable),
   ("Authentication", .authorization),
   ("SaslAuthenticationFailed", .authorization),
   ("TopicAuthorizationFailed", .authorization),
   ("GroupAuthorizationFailed", .authorization),
   ("ClusterAuthorizationFailed", .authorization),
   ("KeySerialization", .serialization),
   ("ValueSerialization", .serialization),
   ("QueueFull", .transient),
   ("NotEnoughReplicas", .transient)]

/-- The codes that cannot be polled through. -/
def fatalCodes : List String :=
  ["Authentication", "SaslAuthenticationFailed", "UnsupportedVersion",
   "TopicAuthorizationFailed", "GroupAuthorizationFailed", "InconsistentGroupProtocol",
   "FencedInstanceId", "Fatal"]

/-- The kind of failure that an error is. -/
def kind (error : BrokerError) : FailureKind :=
  match error.code? with
  | some code => (kindsOfCodes.lookup code).getD .unknown
  | none => if error = .canceled then .transient else .unknown

/-- Whether an error cannot be recovered from. -/
def isFatal : BrokerError → Bool
  | .coded .fatalConsumption _ => true
  | error => error.code?.any fun code => fatalCodes.contains code

end BrokerError

end EventRelay

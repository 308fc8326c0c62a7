import EventRelay.Orders.Mapping
import EventRelay.Settings.Variables

/-!
# Settings of the order service

Beside the relay, the service has one setting of its own: where messages about
orders go.
-/

namespace EventRelay

/-- The settings of the order service. -/
structure ServiceSettings where
  /-- Where messages about orders go. -/
  ordersTopic : String := Orders.defaultTopic
  deriving DecidableEq, Repr

/-- Why settings of the service are not usable. -/
inductive ServiceFault
  /-- A variable is at fault. -/
  | variable (fault : VariableFault)
  /-- The topic is blank. -/
  | blankTopic
  deriving DecidableEq

/-- The wording of a fault. -/
def ServiceFault.message : ServiceFault → String
  | .variable fault => "Failed to read service configuration: " ++ fault.message
  | .blankTopic => "ORDERS_INTEGRATION_TOPIC must not be empty"

namespace ServiceSettings

/-- The field that holds the topic. -/
def topicField : String := "orders_integration_topic"

/-- The usable settings that variables make. -/
def ofVariables (bindings : Variables) : Except ServiceFault ServiceSettings :=
  match bindings.filter fun entry => Variables.fieldOf entry.1 == topicField with
  | [] => .ok {}
  | [(_, topic)] => if Text.isBlank topic then .error .blankTopic else .ok ⟨topic⟩
  | _ => .error (.variable (.duplicate topicField))

end ServiceSettings

end EventRelay

import EventRelay.Decimal.Literal
import EventRelay.Decimal.Style

/-!
# What can be wrong with settings

Settings are wrong in themselves, or a variable that sets one cannot be read, or
the mappers do not fit together.
-/

namespace EventRelay

/-- Why a variable does not set what it is meant to set. -/
inductive VariableFault
  /-- The value is no integer of the wanted size. -/
  | integer (fault : Decimal.IntegerFault) (value name : String)
  /-- The value is no number. -/
  | float (fault : Decimal.FloatFault) (value name : String)
  /-- The value is neither `true` nor `false`. -/
  | boolean (value name : String)
  /-- The value is none of the spellings to choose from. -/
  | unknownChoice (value : String) (spellings : List String)
  /-- Two variables set one field. -/
  | duplicate (field : String)
  deriving DecidableEq

namespace VariableFault

/-- A text between backquotes. -/
def backquoted (text : String) : String :=
  "`" ++ text ++ "`"

/-- The wording of a fault. -/
def message : VariableFault → String
  | .integer fault value name => provided fault.message value name
  | .float fault value name => provided fault.message value name
  | .boolean value name => provided "provided string was not `true` or `false`" value name
  | .unknownChoice value spellings =>
      "unknown variant " ++ backquoted value ++ ", expected one of " ++
        String.intercalate ", " (spellings.map backquoted)
  | .duplicate field => "duplicate field " ++ backquoted field
where
  /-- Says which value of which variable is at fault. -/
  provided (reason value name : String) : String :=
    reason ++ " while parsing value '" ++ value ++ "' provided by " ++ name

end VariableFault

/-- Why settings are not usable. -/
inductive SettingsFault
  | noTopic
  | blankGroup
  | zeroPollTimeout
  | factorBelowOne (factor : Float)
  | boundsCrossed (least most : UInt64)
  | emptySchedule
  | unknownKind (name : String)
  | variable (fault : VariableFault)
  | blankEventType
  | repeatedEventType (eventType : String)
  | reported (reason : String)
  deriving DecidableEq

/-- The wording of a fault. -/
def SettingsFault.message : SettingsFault → String
  | .noTopic => "RELAY_SOURCE_TOPICS must name at least one topic"
  | .blankGroup => "RELAY_GROUP_ID must not be empty"
  | .zeroPollTimeout => "RELAY_POLL_TIMEOUT_MS must be greater than zero"
  | .factorBelowOne factor =>
      "RELAY_RETRY_EXPONENTIAL_FACTOR must be >= 1, got " ++
        String.ofList (Decimal.settingStyle.write factor)
  | .boundsCrossed least most =>
      "RELAY_RETRY_EXPONENTIAL_MIN_MS (" ++ Decimal.ofNat least.toNat ++
        ") exceeds RELAY_RETRY_EXPONENTIAL_MAX_MS (" ++ Decimal.ofNat most.toNat ++ ")"
  | .emptySchedule =>
      "RELAY_RETRY_INTERVAL_SCHEDULE_MS must not be empty for the interval strategy"
  | .unknownKind name => "unknown failure kind '" ++ name ++ "'"
  | .variable fault => fault.message
  | .blankEventType => "mapper event type is empty"
  | .repeatedEventType eventType =>
      "mapper already registered for event type '" ++ eventType ++ "'"
  | .reported reason => reason

end EventRelay

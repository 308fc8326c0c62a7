import EventRelay.Text.Blank

/-!
# Kinds of failure

Every failure is of exactly one kind, which decides whether a retry may help and
which a dead letter reports. Kinds are named in settings without regard to the
case of ASCII letters and to blanks around the name.
-/

namespace EventRelay

/-- What sort of failure one is. -/
inductive FailureKind
  | transient
  | timeout
  | brokerUnavailable
  | messageTooLarge
  | validation
  | serialization
  | authorization
  | decode
  | mappingNotFound
  | unknown
  deriving DecidableEq, Repr

namespace FailureKind

/-- Every kind, in the order in which kinds are listed. -/
def all : List FailureKind :=
  [.transient, .timeout, .brokerUnavailable, .messageTooLarge, .validation, .serialization,
   .authorization, .decode, .mappingNotFound, .unknown]

/-- The name of a kind. -/
def name : FailureKind → String
  | .transient => "TransientError"
  | .timeout => "TimeoutError"
  | .brokerUnavailable => "BrokerUnavailableError"
  | .messageTooLarge => "MessageTooLargeError"
  | .validation => "ValidationError"
  | .serialization => "SerializationError"
  | .authorization => "AuthorizationError"
  | .decode => "DecodeError"
  | .mappingNotFound => "MappingNotFoundError"
  | .unknown => "Unknown"

/-- A text with its ASCII letters in lower case. -/
def foldCase (text : String) : List Char :=
  text.toList.map Char.toLower

/-- The kind that a text names. -/
def ofName? (text : String) : Option FailureKind :=
  all.find? fun kind => foldCase kind.name == foldCase (Text.trim text)

theorem mem_all (kind : FailureKind) : kind ∈ all := by
  cases kind <;> decide

/-- Different kinds have names that differ in more than case. -/
theorem foldCase_name_injective {left right : FailureKind}
    (eq : foldCase left.name = foldCase right.name) : left = right := by
  revert eq
  cases left <;> cases right <;> decide

/-- A text names a kind exactly when, trimmed, it is the kind's name in some case. -/
theorem ofName?_eq_some_iff {text : String} {kind : FailureKind} :
    ofName? text = some kind ↔ foldCase kind.name = foldCase (Text.trim text) := by
  constructor
  · intro found
    simpa using List.find?_some found
  · intro named
    cases found : ofName? text with
    | none =>
        have := List.find?_eq_none.mp found kind (mem_all kind)
        simp [named] at this
    | some other =>
        have same : foldCase other.name = foldCase (Text.trim text) := by
          simpa using List.find?_some found
        rw [foldCase_name_injective (same.trans named.symm)]

end FailureKind

end EventRelay

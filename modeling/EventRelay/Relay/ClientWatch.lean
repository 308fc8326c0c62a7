import EventRelay.Failure.Broker
import EventRelay.Relay.Report

/-!
# Errors the client reports on its own

The broker's client reports errors outside of any operation, and a poll reports those that it
meets itself. One that cannot be recovered from asks for shutdown, and the first of them is
remembered as the reason.
-/

namespace EventRelay.Relay

/-- An error of the client, as a callback is told of it or as a poll meets it. -/
structure ClientError where
  error : BrokerError
  /-- What a callback is told beside the error; a poll is told nothing. -/
  reason : Option String
  deriving DecidableEq, Repr

namespace ClientError

/-- What is said of a reported error after its wording. -/
def remark (reported : ClientError) : String :=
  reported.reason.elim "" fun reason => ": " ++ reason

/-- The wording of a reported error. -/
def message (reported : ClientError) : String :=
  reported.error.message ++ reported.remark

/-- The wording of a reported error, its code only named. -/
def brief (reported : ClientError) : String :=
  reported.error.brief ++ reported.remark

end ClientError

/-- What the client has reported so far. -/
structure ClientWatch where
  /-- Why the client cannot go on, as first reported. -/
  lost : Option ClientError := none
  /-- Whether shutdown has been asked for. -/
  shutdown : Bool := false
  deriving DecidableEq, Repr

namespace ClientWatch

/-- Nothing reported yet. -/
def fresh : ClientWatch := { lost := none }

/-- Take in a reported error. -/
def report (watch : ClientWatch) (reported : ClientError) : ClientWatch :=
  if reported.error.isFatal then
    { lost := watch.lost.or (some reported), shutdown := true }
  else watch

/-- What is to be noted of a reported error. -/
def notice (reported : ClientError) : Notice :=
  if reported.error.isFatal then Report.clientLost reported.message
  else
    match reported.reason with
    | some reason => Report.clientTroubled reported.error.message reason
    | none => Report.pollTroubled reported.error.message

/-- What reading the log fails with. -/
def fatalError (watch : ClientWatch) : Option Failure :=
  watch.lost.map fun reported => .fatal reported.message

theorem report_of_not_isFatal {reported : ClientError} (recoverable : ¬reported.error.isFatal)
    (watch : ClientWatch) : watch.report reported = watch := by
  simp [report, recoverable]

/-- The first error that cannot be recovered from stays the reason. -/
theorem lost_report {watch : ClientWatch} {first : ClientError} (lost : watch.lost = some first)
    (reported : ClientError) : (watch.report reported).lost = some first := by
  unfold report
  split <;> simp [lost]

end ClientWatch

end EventRelay.Relay

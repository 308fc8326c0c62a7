import EventRelay.Proofs.Callbacks
import EventRelay.Proofs.PartitionedLog
import Mathlib.Control.Monad.Basic

/-!
# A lost client is no clean stop

A relay that stops because shutdown was asked for asks once more whether the client is lost,
and stops cleanly only if it is not. So whatever comes between the steps of the relay, a
client that was lost before that question makes the run fail, with the reason that was kept
first.
-/

namespace EventRelay.Relay

open Run Watched

variable {ω : Type}

namespace Chronicle

/-- Shutdown has been asked for. -/
def Given (chronicle : Chronicle) : Prop :=
  chronicle.watch.shutdown = true

theorem calm_given : Calm Given := fun _ _ _ given =>
  shutdown_watch_of_suffix (List.suffix_cons _ _) given

/-- What is known after a look at the signal. -/
def Looked : Bool → Chronicle → Prop
  | true => Given
  | false => fun _ => True

theorem looked_shutdown (chronicle : Chronicle) : Looked chronicle.watch.shutdown
    (.happened (.looked chronicle.watch.shutdown) :: chronicle) := by
  cases given : chronicle.watch.shutdown with
  | false => trivial
  | true => exact given

/-- What the relay does last ends the run with this result; nothing but reports and
requests for shutdown comes after it. -/
inductive Concludes : Except Failure Unit → Chronicle → Prop
  /-- When the relay asked, the client was not lost. -/
  | clean {after earlier : Chronicle} (calm : ∀ incident ∈ after, incident.isCalm = true)
      (given : earlier.Given) (none : earlier.firstLoss = none) :
      Concludes (.ok ()) (after ++ .checked :: earlier)
  /-- When the relay asked, the client was lost. -/
  | lost {after earlier : Chronicle} {first : ClientError}
      (calm : ∀ incident ∈ after, incident.isCalm = true) (given : earlier.Given)
      (lost : earlier.firstLoss = some first) :
      Concludes (.error (.fatal first.message)) (after ++ .checked :: earlier)
  /-- The relay was refused something. -/
  | refused {after earlier : Chronicle} {request : Happening} {failure : Failure}
      (calm : ∀ incident ∈ after, incident.isCalm = true)
      (refused : request.refusal? = some failure) (fatal : failure.isFatal = true) :
      Concludes (.error failure) (after ++ .happened request :: earlier)

theorem calm_concludes (result : Except Failure Unit) : Calm (Concludes result) := by
  intro chronicle incident quiet concludes
  cases concludes with
  | clean calm given none =>
      exact .clean (List.forall_mem_cons.mpr ⟨quiet, calm⟩) given none
  | lost calm given lost =>
      exact .lost (List.forall_mem_cons.mpr ⟨quiet, calm⟩) given lost
  | refused calm refused fatal =>
      exact .refused (List.forall_mem_cons.mpr ⟨quiet, calm⟩) refused fatal

/-- A run has come to this result after shutdown was asked for. -/
def Stopped (result : Except Failure Unit) (chronicle : Chronicle) : Prop :=
  chronicle.Given ∧ chronicle.Concludes result

theorem calm_stopped (result : Except Failure Unit) : Calm (Stopped result) :=
  fun _ _ quiet ended => ⟨calm_given _ _ quiet ended.1, calm_concludes result _ _ quiet ended.2⟩

/-- Where the relay asked whether the client is lost, the answer says how the run ends. -/
theorem Given.stopped {chronicle : Chronicle} (given : chronicle.Given) :
    Stopped (chronicle.watch.fatalError.elim (.ok ()) .error) (.checked :: chronicle) := by
  refine ⟨given, ?_⟩
  unfold ClientWatch.fatalError
  rw [lost_watch]
  have calm : ∀ incident ∈ ([] : Chronicle), incident.isCalm = true := by simp
  cases found : chronicle.firstLoss with
  | none => exact .clean calm given found
  | some first => exact .lost calm given found

/-- A poll has come to this result. -/
def PolledTo (result : Except Failure (Option Disposition)) (chronicle : Chronicle) : Prop :=
  ∀ failure, result = .error failure → failure.isFatal = true →
    chronicle.Concludes (.error failure)

theorem calm_polledTo (result : Except Failure (Option Disposition)) : Calm (PolledTo result) :=
  fun _ _ quiet polled failure failed fatal =>
    calm_concludes _ _ _ quiet (polled failure failed fatal)

end Chronicle

open Chronicle

variable (relay : Relay) (intruder : StateM ω (List Intrusion))
  (met : Except Failure Polled → StateM ω (Option BrokerError)) (environment : Environment ω)

/-! ## The loop -/

namespace ClientLoss

/-- Anything may have happened. -/
def Any : Session (Watched ω) → Prop := fun _ => True

theorem pollOnce_polled :
    Leads (Holds (Looked false)) (relay.pollOnce (environment.watched intruder met))
      (fun result => Holds (PolledTo result)) Any := by
  intro session _
  have led := Mark.pollOnce_asks (environment.keeps_watched intruder met) relay session
    (Mark.asked_nil Watched.history session)
  rw [pollOnce_unchecked] at led
  revert led
  rcases relay.pollOnce (environment.watched intruder met) session with ⟨_ | result, later⟩
  · exact fun _ => trivial
  · rintro ⟨visit, rfl, ⟨since, whole, asks⟩, _⟩ failure failed fatal
    obtain ⟨fails, request, head, refused⟩ := Visit.exists_refusal failed
    have last : History.last? (Watched.history later.world) = some request := by
      rw [show Watched.history later.world = since ++ Watched.history session.world from whole]
      exact History.last?_append ((asks.last fails).trans head) _
    obtain ⟨after, earlier, parts, calm⟩ :=
      exists_of_last? (Happening.isRequest_of_refusal? refused) last
    rw [parts]
    exact .refused calm refused fatal

/-- Where the loop has led. -/
def TurnedTo (result : Option (Except Failure Unit)) (chronicle : Chronicle) : Prop :=
  ∀ ended, result = some ended → chronicle.Stopped ended

theorem TurnedTo.of_stopped {result : Except Failure Unit} {chronicle : Chronicle}
    (stopped : chronicle.Stopped result) : TurnedTo (some result) chronicle := by
  rintro ended ⟨⟩
  exact stopped

theorem stop_turnedTo :
    Leads (Holds (Looked true)) (stop (environment.watched intruder met))
      (fun result => Holds (TurnedTo (some result))) Any := by
  have checks : Leads (Holds Given) (act (environment.watched intruder met).log.fatalError)
      (fun lost => Holds (Stopped (lost.elim (.ok ()) .error))) Any :=
    leads_check calm_given fun _ given => given.stopped
  have stops : Leads (Holds Given) (stop (environment.watched intruder met))
      (fun result => Holds (Stopped result)) Any :=
    leads_stop checks fun result _ => leads_pass (calm_stopped result) _
  exact stops.imp (fun _ looked => looked) fun _ _ stopped => TurnedTo.of_stopped stopped

theorem goOn_turnedTo (result : Except Failure (Option Disposition)) :
    Leads (Holds (PolledTo result)) (relay.goOn (environment.watched intruder met) result)
      (fun result => Holds (TurnedTo result)) Any := by
  apply leads_goOn
  · exact fun _ => leads_pass (calm_polledTo result) _
  · exact fun _ _ _ => nofun
  · exact fun _ => leads_keep (calm_polledTo result) fun _ _ _ => nofun
  · rintro failure rfl fatal
    apply leads_quit (calm_polledTo _)
    intro chronicle polled
    exact .of_stopped ⟨rfl, calm_concludes _ _ _ rfl (polled failure rfl fatal)⟩

theorem run_turnedTo (most : Nat) :
    Leads Any (relay.run (environment.watched intruder met) most)
      (fun result => Holds (TurnedTo result)) Any := by
  have looks : Leads Any (act (environment.watched intruder met).signal.isTriggered)
      (fun given => Holds (Looked given)) Any :=
    leads_act fun _ _ => looked_shutdown (Watched.intruded intruder _).chronicle
  have turn := leads_turn looks (stop_turnedTo intruder met environment)
    (pollOnce_polled relay intruder met environment) (goOn_turnedTo relay intruder met environment)
  have notes : Leads Any
      (act ((environment.watched intruder met).note
        (Report.started relay.policy.strategy.name relay.policy.maxRetries)))
      (fun _ => Any) Any :=
    leads_act fun _ _ => trivial
  unfold run
  apply notes.bind
  intro _
  exact leads_turns turn (fun _ _ => nofun) (fun _ _ => trivial) most

end ClientLoss

/-! ## What is known at every moment -/

/-- What is known of the reports of the client at a moment of a chronicle. -/
structure Chronicle.Known (chronicle moment : Chronicle) : Prop where
  /-- The reason kept is the first error that cannot be recovered from. -/
  lost : moment.watch.fatalError = moment.firstLoss.map fun first => .fatal first.message
  /-- It stays the reason. -/
  stays : ∀ first, moment.firstLoss = some first → chronicle.firstLoss = some first
  /-- Shutdown was asked for by someone, or by a report whose error called for it. -/
  given : moment.Given ↔ .happened .shutdown ∈ moment ∨
    ∃ reported, .returned reported ∈ moment ∧ reported.error.isFatal = true
  /-- A report that is over has kept its reason before. -/
  kept : ∀ reported, .returned reported ∈ moment → reported ∈ moment.reports
  /-- With every report over, one of them has asked for shutdown exactly if there was an
  error that cannot be recovered from. -/
  asked : (∀ reported ∈ moment.reports, .returned reported ∈ moment) →
    ((∃ reported, .returned reported ∈ moment ∧ reported.error.isFatal = true) ↔
      moment.firstLoss.isSome = true)

theorem Chronicle.known {chronicle moment : Chronicle} (sound : chronicle.Sound)
    (before : moment <:+ chronicle) : chronicle.Known moment where
  lost := by rw [ClientWatch.fatalError, lost_watch]
  stays first lost := by
    rw [← lost_watch] at lost ⊢
    exact lost_watch_of_suffix before lost
  given := shutdown_watch
  kept _ returned := (sound.of_suffix before).mem_reports returned
  asked complete := by
    simp only [firstLoss, List.find?_isSome, List.mem_reverse]
    constructor
    · rintro ⟨reported, returned, fatal⟩
      exact ⟨reported, (sound.of_suffix before).mem_reports returned, fatal⟩
    · rintro ⟨reported, kept, fatal⟩
      exact ⟨reported, complete reported kept, fatal⟩

/-- Whatever callbacks and requests for shutdown come between the steps of a run, and whatever
its polls meet: the first error that cannot be recovered from is kept for good, the reports ask
for shutdown exactly for such errors, and a run that returns does so after shutdown was asked
for, cleanly only if there was no such error when it asked last. -/
theorem concludes_run (most : Nat) (session : Session (Watched ω)) :
    let ran := relay.run (environment.watched intruder met) most session
    (∀ moment, moment <:+ ran.2.world.chronicle → ran.2.world.chronicle.Known moment) ∧
      ∀ result, ran.1 = .ok (some result) →
        ran.2.world.chronicle.Given ∧ ran.2.world.chronicle.Concludes result := by
  intro ran
  refine ⟨fun _ before => known ran.2.world.sound before, ?_⟩
  intro result returned
  have led := ClientLoss.run_turnedTo relay intruder met environment most session trivial
  rw [show relay.run (environment.watched intruder met) most session =
    (.ok (some result), ran.2) from Prod.ext returned rfl] at led
  exact led result rfl

/-- A client that is lost just before a message is published, and one that is lost in a poll,
where a callback comes between the halves of the report of the poll. -/
theorem concludes_run_lost :
    let place : Place := ⟨"outbox", 0⟩
    let content := Content.single place [⟨⟨"", 0, 0⟩, none, some [1], ∅, none⟩]
    let error : BrokerError := .coded .global "Fatal"
    let reported : ClientError := ⟨error, some "gone"⟩
    let intruder (moment : Nat) : StateM (Course Unit) (List Intrusion) := fun course =>
      (if course.history.length = moment then [.start reported, .finish reported] else [], course)
    let met (answer : Except Failure Polled) : StateM (Course Unit) (Option BrokerError) :=
      pure (if answer = .ok .idle then some error else none)
    let environment := content.environment (.smooth place)
    let published := passing.run (environment.watched (intruder 3) fun _ => pure none) 2
      { world := ⟨opening.world, [], .nil⟩ }
    let polled := passing.run (environment.watched (intruder 6) met) 3
      { world := ⟨opening.world, [], .nil⟩ }
    (published.1 = .ok (some (.error (.fatal reported.message))) ∧
      published.2.world.chronicle.Given ∧
        published.2.world.chronicle.Concludes (.error (.fatal reported.message))) ∧
    polled.1 = .ok (some (.error (.fatal error.message))) ∧
      polled.2.world.chronicle.Given ∧
        polled.2.world.chronicle.Concludes (.error (.fatal error.message)) := by
  intro place content error reported intruder met environment published polled
  have lost : published.1 = .ok (some (.error (.fatal reported.message))) := by decide +kernel
  have lostEarlier : polled.1 = .ok (some (.error (.fatal error.message))) := by decide +kernel
  exact ⟨⟨lost, (concludes_run passing (intruder 3) _ _ 2 _).2 _ lost⟩,
    lostEarlier, (concludes_run passing (intruder 6) met _ 3 _).2 _ lostEarlier⟩

end EventRelay.Relay

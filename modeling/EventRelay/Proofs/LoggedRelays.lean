import EventRelay.Proofs.AlikeRelays
import EventRelay.Proofs.Transcripts
import EventRelay.Relay.Logging

/-!
# Relays over logged logs and publishers

A log and a publisher whose answers are noted are wrapped, and a relay works with the wrappers. It
is no different: the same is asked of the log and of the publisher inside, in the same order, the
polls come to the same, and so does the run. A failure that the log reports only when it is asked
for one gets through to the relay like any other answer.
-/

namespace EventRelay

variable {ω χ α : Type} {related : ω → χ → Prop}

/-! ## Noting changes nothing but the journal -/

namespace Journaled

/-- Journals of related worlds. -/
def Over (related : ω → χ → Prop) (journaled : Journaled ω) (other : Journaled χ) : Prop :=
  related journaled.world other.world

/-- Whatever is noted, it is noted in the journal. -/
def Quiet (notes : StateM (Journaled ω) Unit) : Prop :=
  ∀ journaled, (notes journaled).2.world = journaled.world

theorem quiet_note (notice : Notice) : Quiet (ω := ω) (note notice) :=
  fun _ => rfl

theorem quiet_forM (notice : Option Notice) : Quiet (ω := ω) (notice.forM note) := by
  cases notice with
  | none => exact fun _ => rfl
  | some notice => exact quiet_note notice

theorem answers_note (notice : Notice) : Answers (Over related) (note notice) (note notice) :=
  fun _ _ holds => ⟨rfl, holds⟩

theorem answers_act {action : StateM ω α} {other : StateM χ α}
    (answers : Answers related action other) :
    Answers (Over related) (act action) (act other) :=
  fun _ _ holds => answers _ _ holds

/-- An answer that is noted is the same answer. -/
theorem answers_noted {action : StateM ω α} {other : StateM χ α}
    (answers : Answers related action other) {notes : α → StateM (Journaled ω) Unit}
    (quiet : ∀ answer, Quiet (notes answer)) :
    Answers (Over related)
      (do
        let answer ← act action
        notes answer
        return answer)
      (act other) := by
  intro journaled rest holds
  obtain ⟨same, kept⟩ := answers _ _ holds
  refine ⟨same, ?_⟩
  change related (notes (action journaled.world).1 (act action journaled).2).2.world _
  rw [quiet]
  exact kept

end Journaled

namespace Relay

open Journaled

/-- What is noted of an attempt that was raced. -/
def raceNotice? (message : Message) : Raced (Except Failure Unit) → Option Notice
  | .finished answer => some (publishNotice message answer)
  | .cutOff => none

theorem race_logged (note : Notice → StateM ω Unit) (publisher : Publisher ω) (message : Message)
    (headers : Headers) :
    (publisher.logged note).race message headers =
      (do
        let raced ← publisher.race message headers
        (raceNotice? message raced).forM note
        return raced) := by
  change (publisher.race message headers >>= _) = _
  congr 1
  funext raced
  cases raced <;> rfl

namespace Environment.Like

variable {environment : Environment ω} {other : Environment χ}

theorem refl (environment : Environment ω) : environment.Like Eq environment where
  poll _ := .refl _
  commit _ := .refl _
  rewind _ := .refl _
  fatalError := .refl _
  publish _ _ := .refl _
  race _ _ := .refl _
  signal := ⟨.refl _, fun _ => .refl _⟩
  trigger := .refl _
  now := .refl _
  freshId := .refl _
  note _ := .refl _

/-- Like environments are alike with journals beside them. -/
theorem journaled (like : environment.Like related other) :
    environment.journaled.Like (Over related) other.journaled where
  poll timeout := answers_act (like.poll timeout)
  commit coordinates := answers_act (like.commit coordinates)
  rewind coordinates := answers_act (like.rewind coordinates)
  fatalError := answers_act like.fatalError
  publish message headers := answers_act (like.publish message headers)
  race message headers := answers_act (like.race message headers)
  signal := ⟨answers_act like.signal.isTriggered, fun span => answers_act (like.signal.pause span)⟩
  trigger := answers_act like.trigger
  now := answers_act like.now
  freshId := answers_act like.freshId
  note := answers_note

/-- They are so even if one has the answers of its log and of its publisher noted. -/
theorem logged (like : environment.Like related other) :
    environment.journaled.logged.Like (Over related) other.journaled :=
  { like.journaled with
    poll := fun timeout => answers_noted (like.poll timeout) fun _ => quiet_forM _
    commit := fun coordinates => answers_noted (like.commit coordinates) fun _ => quiet_note _
    rewind := fun coordinates => answers_noted (like.rewind coordinates) fun _ => quiet_note _
    publish := fun message headers =>
      answers_noted (like.publish message headers) fun _ => quiet_note _
    race := fun message headers => by
      change Answers _ ((environment.journaled.publisher.logged Journaled.note).race _ _) _
      rw [race_logged]
      exact answers_noted (like.race message headers) fun _ => quiet_forM _ }

end Environment.Like

/-! ## What happens in a run -/

/-- What is asked of a log or of a publisher. -/
inductive Request
  | poll (timeout : Duration)
  | commit (coordinates : Coordinates)
  | rewind (coordinates : Coordinates)
  | fatalError
  | publish (message : Message) (headers : Headers)
  | race (message : Message) (headers : Headers)
  deriving DecidableEq

open Transcribed

/-- An environment in which what is asked of the log and of the publisher is taken down. -/
def Environment.overheard (environment : Environment ω) :
    Environment (Transcribed Request ω) where
  log :=
    { poll := fun timeout => ask (.poll timeout) (environment.log.poll timeout)
      commit := fun coordinates => ask (.commit coordinates) (environment.log.commit coordinates)
      rewind := fun coordinates => ask (.rewind coordinates) (environment.log.rewind coordinates)
      fatalError := ask .fatalError environment.log.fatalError }
  publisher :=
    { publish := fun message headers =>
        ask (.publish message headers) (environment.publisher.publish message headers)
      race := fun message headers =>
        ask (.race message headers) (environment.publisher.race message headers) }
  signal :=
    { isTriggered := lift environment.signal.isTriggered
      pause := fun duration => lift (environment.signal.pause duration) }
  trigger := lift environment.trigger
  now := lift environment.now
  freshId := lift environment.freshId
  note := fun notice => lift (environment.note notice)

theorem Environment.like_overheard (environment : Environment ω) :
    environment.overheard.Like Of environment where
  poll _ := answers_ask _ _
  commit _ := answers_ask _ _
  rewind _ := answers_ask _ _
  fatalError := answers_ask _ _
  publish _ _ := answers_ask _ _
  race _ _ := answers_ask _ _
  signal := ⟨answers_lift _, fun _ => answers_lift _⟩
  trigger := answers_lift _
  now := answers_lift _
  freshId := answers_lift _
  note _ := answers_lift _

/-- What the poll of a turn comes to, where the signal is not given. -/
def polled (relay : Relay) (environment : Environment ω) :
    Run ω (Option (Except Failure (Option Disposition))) := do
  if ← Run.act environment.signal.isTriggered then return none
  else return some (← relay.pollOnce environment)

/-- What the polls come to in at most so many turns, as long as the loop goes on. -/
def polls (relay : Relay) (environment : Environment ω) :
    Nat → Session ω → List (Except Failure (Option Disposition))
  | 0, _ => []
  | count + 1, session =>
      let later :=
        match relay.turn environment session with
        | (.ok none, later) => relay.polls environment count later
        | _ => []
      match (relay.polled environment session).1 with
      | .ok (some result) => result :: later
      | _ => later

/-- A session with a new journal. -/
def journal (session : Session ω) : Session (Journaled ω) :=
  { session with world := { world := session.world } }

/-- A session without its journal. -/
def unjournal (session : Session (Journaled ω)) : Session ω :=
  { session with world := session.world.world }

/-- What a run comes to, and what comes about in it. -/
structure Summary (ω : Type) where
  result : Except Overflow (Option (Except Failure Unit))
  /-- The world that is left, with the counts and samples. -/
  session : Session ω
  polls : List (Except Failure (Option Disposition))
  requests : List Request

/-- The summary of a run over at most so many turns. -/
def summary (relay : Relay) (environment : Environment (Journaled (Transcribed Request ω)))
    (most : Nat) (session : Session ω) : Summary ω :=
  let start := journal (Transcribed.start session)
  let started := Report.started relay.policy.strategy.name relay.policy.maxRetries
  let done := relay.run environment most start
  { result := done.1
    session := forget (unjournal done.2)
    polls := relay.polls environment most (Run.act (environment.note started) start).2
    requests := done.2.world.world.transcript }

theorem Environment.Like.matches_polled {environment : Environment ω} {other : Environment χ}
    (relay : Relay) (like : environment.Like related other) :
    Run.Matches related (relay.polled environment) (relay.polled other) := by
  unfold polled
  apply Run.Matches.act_bind like.signal.isTriggered
  intro given
  apply Run.Matches.ite
  · exact .pure _
  · exact (like.matches_pollOnce relay).bind fun _ => .pure _

/-- The induction is on the turns that may be made. -/
theorem Environment.Like.polls_eq {environment : Environment ω} {other : Environment χ}
    (relay : Relay) (like : environment.Like related other) (count : Nat) {session : Session ω}
    {rest : Session χ} (alike : Session.Like related session rest) :
    relay.polls environment count session = relay.polls other count rest := by
  induction count generalizing session rest with
  | zero => rfl
  | succ count ih =>
      obtain ⟨result, -⟩ := like.matches_polled relay session rest alike
      obtain ⟨turned, kept⟩ := like.matches_turn relay session rest alike
      unfold polls
      rw [result]
      revert turned kept
      rcases relay.turn environment session with ⟨ended, later⟩
      rcases relay.turn other rest with ⟨ended', later'⟩
      rintro ⟨⟩ kept
      rcases ended with overflow | _ | outcome
      · rfl
      · dsimp only
        rw [ih kept]
      · rfl

/-! ## Runs over wrappers -/

theorem like_unjournal {session : Session (Journaled ω)} {rest : Session (Journaled χ)}
    (like : Session.Like (Over related) session rest) :
    Session.Like related (unjournal session) (unjournal rest) :=
  ⟨like.world, like.counters, like.samples⟩

variable (relay : Relay) (environment : Environment ω) (most : Nat) (session : Session ω)
  {failure : Failure}

/-- A relay that stops comes to the failure that the log then reports. -/
theorem stop_of_fatalError
    (lost : (environment.log.fatalError session.world).1 = some failure) :
    ∃ later, stop environment session = (.ok (.error failure), later) := by
  unfold stop
  rw [Run.bind_apply, Run.act_apply]
  dsimp only
  rw [lost]
  exact ⟨_, rfl⟩

theorem turn_of_fatalError (given : (environment.signal.isTriggered session.world).1 = true)
    (lost : (environment.log.fatalError (environment.signal.isTriggered session.world).2).1 =
      some failure) :
    ∃ later, relay.turn environment session = (.ok (some (.error failure)), later) := by
  unfold turn
  rw [Run.bind_apply, Run.act_apply]
  dsimp only
  rw [given, if_pos rfl, Run.bind_apply]
  obtain ⟨later, stops⟩ := stop_of_fatalError environment
    { session with world := (environment.signal.isTriggered session.world).2 } lost
  rw [stops]
  exact ⟨later, rfl⟩

/-- So it is with a run that begins where the signal is given already. -/
theorem run_of_fatalError (turns : 0 < most)
    (given : (environment.signal.isTriggered session.world).1 = true)
    (lost : (environment.log.fatalError (environment.signal.isTriggered session.world).2).1 =
      some failure) :
    (relay.run environment.journaled most (journal session)).1 = .ok (some (.error failure)) := by
  obtain ⟨count, rfl⟩ := Nat.exists_eq_succ_of_ne_zero (Nat.ne_of_gt turns)
  let started := Report.started relay.policy.strategy.name relay.policy.maxRetries
  let begun : Session (Journaled ω) := { journal session with world := ⟨session.world, [started]⟩ }
  obtain ⟨later, ends⟩ := relay.turn_of_fatalError environment.journaled begun given lost
  change (relay.turns environment.journaled (count + 1) begun).1 = _
  unfold Relay.turns
  rw [Run.bind_apply, ends]
  rfl

/-- To take down what is asked changes nothing, whether the answers are noted or not. -/
theorem run_eq_summary {wrapped : Environment (Journaled ω)}
    {overheard : Environment (Journaled (Transcribed Request ω))}
    (like : overheard.Like (Over Of) wrapped) :
    (relay.run wrapped most (journal session)).1 = (relay.summary overheard most session).result ∧
      unjournal (relay.run wrapped most (journal session)).2 =
        (relay.summary overheard most session).session := by
  obtain ⟨same, kept⟩ :=
    like.matches_run relay most (journal (Transcribed.start session)) (journal session)
      ⟨rfl, rfl, rfl⟩
  exact ⟨same.symm, (forget_eq (like_unjournal kept)).symm⟩

/-- A run over a logged log and a logged publisher has the summary of one over the log and the
publisher themselves: the same is asked of them, the polls come to the same, and so does the run,
which leaves the same world, counts and samples. Neither run is changed by taking down what is
asked. A failure that the log reports only when it is asked for one ends the run. -/
theorem summary_logged (relay : Relay) (environment : Environment ω) (most : Nat)
    (session : Session ω) :
    let plain := environment.overheard.journaled
    let logged := relay.run environment.journaled.logged most (journal session)
    let direct := relay.run environment.journaled most (journal session)
    relay.summary plain.logged most session = relay.summary plain most session ∧
      (logged.1 = (relay.summary plain.logged most session).result ∧
        unjournal logged.2 = (relay.summary plain.logged most session).session) ∧
      (direct.1 = (relay.summary plain most session).result ∧
        unjournal direct.2 = (relay.summary plain most session).session) ∧
      ∀ failure, 0 < most → (environment.signal.isTriggered session.world).1 = true →
        (environment.log.fatalError (environment.signal.isTriggered session.world).2).1 =
          some failure →
        logged.1 = .ok (some (.error failure)) := by
  intro plain logged direct
  have unheard := environment.like_overheard
  have overLogged := relay.run_eq_summary most session unheard.logged
  have wrapped : environment.journaled.logged.Like (Over Eq) environment.journaled :=
    Environment.Like.logged (.refl environment)
  obtain ⟨ended, left⟩ := wrapped.matches_run relay most (journal session) _ ⟨rfl, rfl, rfl⟩
  have overPlain := relay.run_eq_summary most session unheard.journaled
  have like : plain.logged.Like (Over Eq) plain := Environment.Like.logged (.refl _)
  have start : Session.Like (Over Eq) (journal (Transcribed.start (ι := Request) session))
      (journal (Transcribed.start session)) := ⟨rfl, rfl, rfl⟩
  obtain ⟨result, kept⟩ := like.matches_run relay most _ _ start
  have same := (like_unjournal kept).eq
  have polls := like.polls_eq relay most ((Run.Matches.act (like.note (Report.started
    relay.policy.strategy.name relay.policy.maxRetries)) _ _ start).2)
  have summaries : relay.summary plain.logged most session = relay.summary plain most session := by
    unfold summary
    simp only [Summary.mk.injEq]
    exact ⟨result, congrArg forget same, polls,
      congrArg (fun session => session.world.transcript) same⟩
  refine ⟨summaries, ⟨ended.trans overLogged.1, (like_unjournal left).eq.trans overLogged.2⟩,
    overPlain, fun failure turns given lost => ?_⟩
  exact ended.trans (relay.run_of_fatalError environment most session turns given lost)

/-- The signal is given, and the log reports a failure only when it is asked for one. -/
theorem summary_logged_lost :
    let lost : Failure := .fatal "client lost"
    let environment : Environment Unit :=
      { log :=
          { poll := fun _ => pure (.ok .idle)
            commit := fun _ => pure (.ok ())
            rewind := fun _ => pure (.ok ())
            fatalError := pure (some lost) }
        publisher :=
          { publish := fun _ _ => pure (.ok ())
            race := fun _ _ => pure (.finished (.ok ())) }
        signal := { isTriggered := pure true, pause := fun _ => pure .interrupted }
        trigger := pure ()
        now := pure .epoch
        freshId := pure .zero
        note := fun _ => pure () }
    let relay : Relay :=
      { decoder := Outbox.decoder
        registry := .empty
        policy := { strategy := .never, limit := 0 }
        forwarder := { suffix := "_error", group := "outbox-relay" }
        pollTimeout := .zero
        redeliveryBackoff := .zero }
    let session : Session Unit := { world := () }
    let summary := relay.summary environment.overheard.journaled.logged 1 session
    (relay.run environment.journaled.logged 1 (journal session)).1 =
        .ok (some (.error lost)) ∧
      summary.result = .ok (some (.error lost)) ∧ summary.polls = [] ∧
        summary.requests = [.fatalError] := by
  intro lost environment relay session summary
  obtain ⟨-, ⟨result, -⟩, -, ends⟩ := summary_logged relay environment 1 session
  have ended := ends lost (by decide) rfl rfl
  exact ⟨ended, result.symm.trans ended, rfl, rfl⟩

end Relay

end EventRelay

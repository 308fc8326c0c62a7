import EventRelay.Proofs.Settlements
import EventRelay.Relay.ClientWatch

/-!
# Callbacks of the client between the steps of a relay

The client reports errors whenever it likes, and a poll reports what it meets itself. A report
first keeps the reason and then asks for shutdown, and anything may happen in between: a step of
the relay, another report, a request for shutdown by someone else. A chronicle lists all of
this, and what the client is known to have reported follows from it.
-/

namespace EventRelay.Relay

/-! ## The two halves of a report -/

namespace ClientWatch

/-- The first half of a report: keep the reason. -/
def keepReason (watch : ClientWatch) (reported : ClientError) : ClientWatch :=
  { watch with lost := (watch.report reported).lost }

/-- The second half of a report: ask for shutdown. -/
def askShutdown (watch : ClientWatch) (reported : ClientError) : ClientWatch :=
  { watch with shutdown := (watch.report reported).shutdown }

variable (watch : ClientWatch) (reported : ClientError)

/-- Where nothing comes in between, the halves make up the report. -/
theorem askShutdown_keepReason :
    (watch.keepReason reported).askShutdown reported = watch.report reported := by
  unfold askShutdown keepReason report
  split <;> rfl

theorem lost_keepReason : (watch.keepReason reported).lost =
    watch.lost.or (if reported.error.isFatal then some reported else none) := by
  unfold keepReason report
  split <;> simp

theorem shutdown_askShutdown :
    (watch.askShutdown reported).shutdown = (watch.shutdown || reported.error.isFatal) := by
  unfold askShutdown report
  split <;> simp [*]

end ClientWatch

/-! ## Chronicles -/

/-- What happens to a relay and to what its client has reported. -/
inductive Incident
  /-- A callback, or a poll, has kept the reason of an error. -/
  | kept (reported : ClientError)
  /-- A report has asked for shutdown, if its error calls for it, and is over. -/
  | returned (reported : ClientError)
  /-- The relay has asked whether the client is lost. -/
  | checked
  /-- Something else happened to the relay, or someone asked for shutdown. -/
  | happened (happening : Happening)

/-- Whether it is nothing but a report or a request for shutdown. -/
def Incident.isCalm : Incident → Bool
  | .kept _ | .returned _ | .happened .shutdown => true
  | _ => false

/-- What happened, latest first. -/
abbrev Chronicle := List Incident

namespace Chronicle

/-- The errors reported, latest first. -/
def reports : Chronicle → List ClientError
  | [] => []
  | .kept reported :: earlier => reported :: reports earlier
  | _ :: earlier => reports earlier

/-- The first error reported that cannot be recovered from. -/
def firstLoss (chronicle : Chronicle) : Option ClientError :=
  chronicle.reports.reverse.find? fun reported => reported.error.isFatal

/-- What the client is known to have reported, and whether shutdown has been asked for. -/
def watch : Chronicle → ClientWatch
  | [] => .fresh
  | .kept reported :: earlier => (watch earlier).keepReason reported
  | .returned reported :: earlier => (watch earlier).askShutdown reported
  | .happened .shutdown :: earlier => { watch earlier with shutdown := true }
  | _ :: earlier => watch earlier

/-- A report that is over has kept its reason before. -/
def Sound (chronicle : Chronicle) : Prop :=
  ∀ after reported earlier, chronicle = after ++ .returned reported :: earlier →
    reported ∈ reports earlier

variable {chronicle moment : Chronicle} {incident : Incident}

theorem Sound.nil : Sound [] := by
  intro after reported earlier parts
  simp at parts

theorem Sound.cons (sound : chronicle.Sound)
    (may : ∀ reported, incident = .returned reported → reported ∈ chronicle.reports) :
    Sound (incident :: chronicle) := by
  intro after reported earlier parts
  cases after with
  | nil =>
      injection parts with same rest
      subst rest
      exact may reported same
  | cons first after =>
      injection parts with _ rest
      exact sound after reported earlier rest

theorem Sound.of_suffix (sound : chronicle.Sound) (before : moment <:+ chronicle) :
    moment.Sound := by
  rcases before with ⟨later, rfl⟩
  rintro after reported earlier rfl
  exact sound (later ++ after) reported earlier (by simp)

theorem reports_suffix (before : moment <:+ chronicle) : moment.reports <:+ chronicle.reports := by
  rcases before with ⟨later, rfl⟩
  induction later with
  | nil => exact List.suffix_refl _
  | cons incident later ih =>
      cases incident with
      | kept reported => exact ih.trans (List.suffix_cons _ _)
      | _ => exact ih

theorem Sound.mem_reports (sound : chronicle.Sound) {reported : ClientError}
    (returned : .returned reported ∈ chronicle) : reported ∈ chronicle.reports := by
  obtain ⟨after, earlier, rfl⟩ := List.append_of_mem returned
  have kept := sound after reported earlier rfl
  exact (reports_suffix ⟨after ++ [.returned reported], by simp⟩).subset kept

/-! ## What is known of the reports -/

/-- The reason kept is the first error reported that cannot be recovered from. -/
theorem lost_watch (chronicle : Chronicle) : chronicle.watch.lost = chronicle.firstLoss := by
  unfold firstLoss
  induction chronicle with
  | nil => rfl
  | cons incident earlier ih =>
      cases incident with
      | kept reported =>
          rw [watch, ClientWatch.lost_keepReason, ih, reports, List.reverse_cons,
            List.find?_append, List.find?_singleton]
      | happened happening => cases happening <;> exact ih
      | _ => exact ih

/-- What was the reason stays the reason. -/
theorem lost_watch_of_suffix (before : moment <:+ chronicle) {first : ClientError}
    (lost : moment.watch.lost = some first) : chronicle.watch.lost = some first := by
  rcases before with ⟨later, rfl⟩
  induction later with
  | nil => exact lost
  | cons incident later ih =>
      cases incident with
      | kept reported => exact ClientWatch.lost_report ih reported
      | happened happening => cases happening <;> exact ih
      | _ => exact ih

/-- Shutdown was asked for by someone, or by a report whose error called for it. -/
theorem shutdown_watch : chronicle.watch.shutdown = true ↔
    .happened .shutdown ∈ chronicle ∨
      ∃ reported, .returned reported ∈ chronicle ∧ reported.error.isFatal = true := by
  induction chronicle with
  | nil => simp [watch, ClientWatch.fresh]
  | cons incident earlier ih =>
      cases incident with
      | kept reported => simpa [watch, ClientWatch.keepReason] using ih
      | returned reported =>
          rw [watch, ClientWatch.shutdown_askShutdown, Bool.or_eq_true, ih]
          grind
      | checked => simpa [watch] using ih
      | happened happening =>
          cases happening with
          | shutdown => simp [watch]
          | _ => simpa [watch] using ih

theorem shutdown_watch_of_suffix (before : moment <:+ chronicle)
    (given : moment.watch.shutdown = true) : chronicle.watch.shutdown = true := by
  rw [shutdown_watch] at given ⊢
  rcases given with asked | ⟨reported, returned, fatal⟩
  · exact .inl (before.subset asked)
  · exact .inr ⟨reported, before.subset returned, fatal⟩

end Chronicle

/-! ## Worlds with a chronicle -/

/-- What may come between two steps of a relay. -/
inductive Intrusion
  /-- A callback starts, and keeps the reason of its error. -/
  | start (reported : ClientError)
  /-- A callback that has kept its reason asks for shutdown, and is over. -/
  | finish (reported : ClientError)
  /-- Someone asks for shutdown. -/
  | ask

/-- A world with a chronicle. -/
structure Watched (ω : Type) where
  world : ω
  chronicle : Chronicle
  sound : chronicle.Sound

variable {ω α : Type}

namespace Watched

/-- One more thing has happened. -/
def add (watched : Watched ω) (incident : Incident)
    (may : ∀ reported, incident = .returned reported → reported ∈ watched.chronicle.reports) :
    Watched ω :=
  { watched with chronicle := incident :: watched.chronicle, sound := watched.sound.cons may }

/-- Something comes in between; a callback that has not started cannot be over. -/
def intrude (watched : Watched ω) : Intrusion → Watched ω
  | .start reported => watched.add (.kept reported) nofun
  | .finish reported =>
      if kept : reported ∈ watched.chronicle.reports then
        watched.add (.returned reported) fun _ same => Incident.returned.inj same ▸ kept
      else watched
  | .ask => watched.add (.happened .shutdown) nofun

variable (intruder : StateM ω (List Intrusion))

/-- What comes in between is up to an intruder. -/
def intruded (watched : Watched ω) : Watched ω :=
  let (intrusions, world) := intruder watched.world
  intrusions.foldl intrude { watched with world }

/-- Do something that is of no account. -/
def pass (action : StateM ω α) : StateM (Watched ω) α := fun watched =>
  let watched := watched.intruded intruder
  let (value, world) := action watched.world
  (value, { watched with world })

/-- Do something, and keep what happened by it. -/
def keep (happening : α → Happening) (action : StateM ω α) : StateM (Watched ω) α :=
  fun watched =>
    let watched := watched.intruded intruder
    let (value, world) := action watched.world
    (value, { watched with world }.add (.happened (happening value)) nofun)

/-- Report an error that a poll has met. -/
def meet (watched : Watched ω) (error : BrokerError) : Watched ω :=
  let reported : ClientError := ⟨error, none⟩
  ((watched.intrude (.start reported)).intruded intruder).intrude (.finish reported)

/-- Poll the log. An error that the poll meets is reported before the poll is over. -/
def poll (met : Except Failure Polled → StateM ω (Option BrokerError))
    (action : StateM ω (Except Failure Polled)) :
    StateM (Watched ω) (Except Failure Polled) := fun watched =>
  let watched := watched.intruded intruder
  let (answer, world) := action watched.world
  let (error, world) := met answer world
  let watched := { watched with world }
  let watched := error.elim watched (watched.meet intruder)
  (answer, watched.add (.happened (.polled answer)) nofun)

/-- Look whether shutdown has been asked for. -/
def look : StateM (Watched ω) Bool := fun watched =>
  let watched := watched.intruded intruder
  let given := watched.chronicle.watch.shutdown
  (given, watched.add (.happened (.looked given)) nofun)

/-- Ask whether the client is lost. -/
def check : StateM (Watched ω) (Option Failure) := fun watched =>
  let watched := watched.intruded intruder
  (watched.chronicle.watch.fatalError, watched.add .checked nofun)

/-- Ask for shutdown. -/
def quit : StateM (Watched ω) Unit := fun watched =>
  let watched := watched.intruded intruder
  ((), watched.add (.happened .shutdown) nofun)

end Watched

open Watched

/-- An environment whose client reports errors as an intruder has it, whose polls meet errors
of their own, and whose signal is the one that the reports give. -/
def Environment.watched (intruder : StateM ω (List Intrusion))
    (met : Except Failure Polled → StateM ω (Option BrokerError)) (environment : Environment ω) :
    Environment (Watched ω) where
  log :=
    { poll := fun timeout => Watched.poll intruder met (environment.log.poll timeout)
      commit := fun coordinates =>
        keep intruder (.committed coordinates) (environment.log.commit coordinates)
      rewind := fun coordinates =>
        keep intruder (.rewound coordinates) (environment.log.rewind coordinates)
      fatalError := check intruder }
  publisher :=
    { publish := fun message headers =>
        keep intruder (.forwarded message headers) (environment.publisher.publish message headers)
      race := fun message headers =>
        keep intruder (.attempted message headers) (environment.publisher.race message headers) }
  signal :=
    { isTriggered := look intruder
      pause := fun duration => keep intruder .paused (environment.signal.pause duration) }
  trigger := quit intruder
  now := keep intruder .told environment.now
  freshId := pass intruder environment.freshId
  note := fun notice => pass intruder (environment.note notice)

/-! ## What is told of a chronicle -/

/-- What is told stays true whatever comes in between. -/
def Calm (told : Chronicle → Prop) : Prop :=
  ∀ chronicle incident, incident.isCalm = true → told chronicle → told (incident :: chronicle)

variable {told : Chronicle → Prop}

namespace Calm

theorem intrude (calm : Calm told) {watched : Watched ω} (intrusion : Intrusion)
    (holds : told watched.chronicle) : told (watched.intrude intrusion).chronicle := by
  cases intrusion with
  | start reported => exact calm _ _ rfl holds
  | finish reported =>
      unfold Watched.intrude
      dsimp only
      split
      · exact calm _ _ rfl holds
      · exact holds
  | ask => exact calm _ _ rfl holds

theorem foldl (calm : Calm told) (intrusions : List Intrusion) {watched : Watched ω}
    (holds : told watched.chronicle) :
    told (intrusions.foldl Watched.intrude watched).chronicle := by
  induction intrusions generalizing watched with
  | nil => exact holds
  | cons intrusion intrusions ih => exact ih (calm.intrude intrusion holds)

variable {intruder : StateM ω (List Intrusion)}

theorem intruded (calm : Calm told) {watched : Watched ω} (holds : told watched.chronicle) :
    told (watched.intruded intruder).chronicle :=
  calm.foldl _ holds

theorem meet (calm : Calm told) {watched : Watched ω} (error : BrokerError)
    (holds : told watched.chronicle) : told (watched.meet intruder error).chronicle :=
  calm.intrude _ (calm.intruded (calm.intrude _ holds))

end Calm

/-- The chronicle is as told. -/
def Watched.Holds (told : Chronicle → Prop) (session : Session (Watched ω)) : Prop :=
  told session.world.chronicle

namespace Watched

open Run

variable {intruder : StateM ω (List Intrusion)} {broken : Session (Watched ω) → Prop}

theorem leads_pass (calm : Calm told) (action : StateM ω α) :
    Leads (Holds told) (act (pass intruder action)) (fun _ => Holds told) broken :=
  leads_act fun _ holds => calm.intruded holds

theorem leads_keep (calm : Calm told) {happening : α → Happening} {action : StateM ω α}
    {after : α → Chronicle → Prop}
    (step : ∀ answer chronicle, told chronicle →
      after answer (.happened (happening answer) :: chronicle)) :
    Leads (Holds told) (act (keep intruder happening action)) (fun answer => Holds (after answer))
      broken :=
  leads_act fun _ holds => step _ _ (calm.intruded holds)

theorem leads_check (calm : Calm told) {after : Option Failure → Chronicle → Prop}
    (step : ∀ chronicle, told chronicle →
      after chronicle.watch.fatalError (.checked :: chronicle)) :
    Leads (Holds told) (act (check intruder)) (fun lost => Holds (after lost)) broken :=
  leads_act fun _ holds => step _ (calm.intruded holds)

theorem leads_quit (calm : Calm told) {after : Chronicle → Prop}
    (step : ∀ chronicle, told chronicle → after (.happened .shutdown :: chronicle)) :
    Leads (Holds told) (act (quit intruder)) (fun _ => Holds after) broken :=
  leads_act fun _ holds => step _ (calm.intruded holds)

end Watched

/-! ## The history in a chronicle -/

theorem History.last?_append {since : History} {happening : Happening}
    (last : since.last? = some happening) (base : History) :
    History.last? (since ++ base) = some happening := by
  induction since with
  | nil => contradiction
  | cons first since ih => cases first <;> first | exact last | exact ih last

namespace Chronicle

/-- What happened to the relay. A check of the client is kept as a look. -/
def history : Chronicle → History
  | [] => []
  | .happened happening :: earlier => happening :: history earlier
  | .checked :: earlier => .looked true :: history earlier
  | _ :: earlier => history earlier

theorem calm_lapses (earlier : History) :
    Calm fun chronicle => earlier.Lapses chronicle.history := by
  intro chronicle incident calm lapses
  cases incident with
  | happened happening =>
      cases happening with
      | shutdown => exact .shutdown lapses
      | _ => contradiction
  | checked => contradiction
  | _ => exact lapses

/-- After the request that was the last thing to happen to a relay, nothing happened but
callbacks and requests for shutdown. -/
theorem exists_of_last? {request : Happening} (isRequest : request.isRequest = true)
    {chronicle : Chronicle} (last : chronicle.history.last? = some request) :
    ∃ after earlier, chronicle = after ++ .happened request :: earlier ∧
      ∀ incident ∈ after, incident.isCalm = true := by
  induction chronicle with
  | nil => contradiction
  | cons incident rest ih =>
      have later (calm : incident.isCalm = true)
          (last : History.last? (history rest) = some request) :
          ∃ after earlier, incident :: rest = after ++ .happened request :: earlier ∧
            ∀ incident ∈ after, incident.isCalm = true := by
        obtain ⟨after, earlier, parts, calmly⟩ := ih last
        exact ⟨incident :: after, earlier, congrArg _ parts,
          List.forall_mem_cons.mpr ⟨calm, calmly⟩⟩
      cases incident with
      | kept reported => exact later rfl last
      | returned reported => exact later rfl last
      | checked =>
          obtain rfl := Option.some.inj last
          contradiction
      | happened happening =>
          by_cases shutdown : happening = .shutdown
          · subst shutdown
            exact later rfl last
          · have same : happening = request := by
              cases happening <;> first | exact Option.some.inj last | contradiction
            exact ⟨[], rest, by rw [same, List.nil_append], by simp⟩

end Chronicle

/-- The same environment, but that the client is never found lost. -/
def Environment.unchecked (environment : Environment ω) : Environment ω :=
  { environment with log := { environment.log with fatalError := pure none } }

/-- A poll does not ask whether the client is lost. -/
theorem pollOnce_unchecked (relay : Relay) (environment : Environment ω) :
    relay.pollOnce environment.unchecked = relay.pollOnce environment := rfl

namespace Watched

/-- What happened to the relay in a watched world. -/
def history (watched : Watched ω) : History :=
  watched.chronicle.history

variable (intruder : StateM ω (List Intrusion))

theorem lapses_intruded (watched : Watched ω) :
    watched.history.Lapses (watched.intruded intruder).history :=
  (Chronicle.calm_lapses watched.history).intruded (.refl _)

theorem tells_keep (happening : α → Happening) (action : StateM ω α) :
    Tells Watched.history (fun _ _ => True) (keep intruder happening action) happening :=
  fun watched => ⟨_, watched.lapses_intruded intruder, trivial, rfl⟩

theorem tells_poll (met : Except Failure Polled → StateM ω (Option BrokerError))
    (action : StateM ω (Except Failure Polled)) :
    Tells Watched.history (fun _ _ => True) (poll intruder met action) .polled := by
  intro watched
  have arrived := watched.lapses_intruded intruder
  unfold poll
  dsimp only
  rcases action (watched.intruded intruder).world with ⟨answer, world⟩
  dsimp only
  rcases met answer world with ⟨_ | error, world⟩
  · exact ⟨_, arrived, trivial, rfl⟩
  · let moment : Watched ω := { watched.intruded intruder with world }
    have reported : watched.history.Lapses (moment.meet intruder error).history :=
      (Chronicle.calm_lapses watched.history).meet error arrived
    exact ⟨_, reported, trivial, rfl⟩

theorem silent_pass (action : StateM ω α) : Silent Watched.history (pass intruder action) :=
  fun watched => watched.lapses_intruded intruder

end Watched

theorem Environment.keeps_watched (intruder : StateM ω (List Intrusion))
    (met : Except Failure Polled → StateM ω (Option BrokerError)) (environment : Environment ω) :
    (environment.watched intruder met).unchecked.Keeps Watched.history fun _ _ => True where
  poll _ := tells_poll _ _ _
  commit _ := tells_keep _ _ _
  rewind _ := tells_keep _ _ _
  fatalError watched := .refl watched.history
  publish _ _ := tells_keep _ _ _
  race _ _ := tells_keep _ _ _
  isTriggered watched := ⟨_, watched.lapses_intruded intruder, trivial, rfl⟩
  pause _ := tells_keep _ _ _
  trigger watched := .shutdown (watched.lapses_intruded intruder)
  now := tells_keep _ _ _
  freshId := silent_pass _ _
  note _ := silent_pass _ _

end EventRelay.Relay

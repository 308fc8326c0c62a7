import EventRelay.Proofs.PartitionedLog
import EventRelay.Proofs.Recording
import EventRelay.Proofs.Settlements

/-!
# Commits that are refused

A commit that is refused ends the poll it was made in with its own failure. Whether the
loop ends with it too is decided by that failure alone: one that is fatal stops the relay
at once, and after any other the relay looks at the signal and goes on.
-/

namespace EventRelay.Relay

open Run Recorded

variable {ω : Type} {base : History}

namespace History

/-- Nothing happened but that shutdown was asked for, at least once. -/
def Halts (history : History) : Prop :=
  history ≠ [] ∧ ∀ happening ∈ history, happening = .shutdown

/-- Nothing happened after the request that happened last, but requests for shutdown. -/
theorem eq_shutdown_of_last? {request : Happening} (isRequest : request.isRequest = true)
    {before : History} (after : History) (last : last? (after ++ before) = some request)
    (none : requests after = []) : ∀ happening ∈ after, happening = .shutdown := by
  induction after with
  | nil => simp
  | cons first after ih =>
      by_cases shutdown : first = .shutdown
      · subst shutdown
        exact List.forall_mem_cons.mpr ⟨rfl, ih last none⟩
      · have same : first = request := by
          cases first <;> first | exact Option.some.inj last | contradiction
        rw [same, requests, List.filter_cons_of_pos isRequest] at none
        contradiction

end History

/-- A poll in which a commit was refused comes to that failure, and nothing happens in it
afterwards. -/
theorem Visit.of_refused {visit : Visit} {after before : History} {coordinates : Coordinates}
    {failure : Failure}
    (asks : History.Asks visit.isFailure visit.requests
      (after ++ .committed coordinates (.error failure) :: before)) :
    visit.result = .error failure ∧ ∀ happening ∈ after, happening = .shutdown := by
  have parts : History.requests after ++ .committed coordinates (.error failure) ::
      History.requests before = visit.requests := by
    rw [← asks.asked]
    unfold History.requests
    rw [List.filter_append, List.filter_cons_of_pos rfl]
  have mem : .committed coordinates (.error failure) ∈ visit.requests := by
    rw [← parts]
    exact List.mem_append_right _ List.mem_cons_self
  cases visit with
  | settled record settlement =>
      cases settlement with
      | declined other =>
          have same : coordinates = record.coordinates ∧ failure = other := by
            simpa [Visit.requests, Settlement.requests] using mem
          rcases same with ⟨rfl, rfl⟩
          refine ⟨rfl, History.eq_shutdown_of_last? rfl after (asks.last rfl) ?_⟩
          rcases List.append_eq_cons_iff.mp parts with ⟨none, _⟩ | ⟨rest, _, polled⟩
          · exact none
          · have second : .committed record.coordinates (.error failure) ∈
                rest ++ .committed record.coordinates (.error failure) ::
                  History.requests before := List.mem_append_right _ List.mem_cons_self
            rw [← polled] at second
            simp at second
      | _ => simp [Visit.requests, Settlement.requests] at mem
  | _ => simp [Visit.requests] at mem

/-! ## What is known between the turns of a loop -/

namespace CommitFailure

/-- No commit was refused with a failure that is fatal. -/
def Spared (base history : History) : Prop :=
  ∃ since, history = since ++ base ∧ ∀ coordinates failure,
    .committed coordinates (.error failure) ∈ since → failure.isFatal = false

theorem Spared.cons {history : History} {happening : Happening} (spared : Spared base history)
    (other : ∀ coordinates failure, happening ≠ .committed coordinates (.error failure)) :
    Spared base (happening :: history) := by
  rcases spared with ⟨since, rfl, spared⟩
  refine ⟨happening :: since, rfl, ?_⟩
  intro coordinates failure mem
  rcases List.mem_cons.mp mem with same | mem
  · exact absurd same.symm (other coordinates failure)
  · exact spared coordinates failure mem

/-- The relay has looked at the signal, and no commit was refused before with a failure that
is fatal. -/
def Looked (base history : History) : Prop :=
  ∃ given earlier, history = .looked given :: earlier ∧ Spared base earlier

/-- After a look at the signal a poll has come to this result. -/
def Returned (base : History) (result : Except Failure (Option Disposition)) (history : History) :
    Prop :=
  ∃ since moment, history = since ++ moment ∧ Looked base moment ∧
    ∃ visit : Visit, visit.result = result ∧ since.Asks visit.isFailure visit.requests

/-- Since the loop began, commits were refused with failures that are fatal just where the
loop stopped at once with that failure. -/
def Judged (result : Option (Except Failure Unit)) (since : History) : Prop :=
  ∀ after coordinates failure before,
    since = after ++ .committed coordinates (.error failure) :: before →
      ((result = some (.error failure) ∧ History.Halts after) ↔ failure.isFatal = true)

/-- A loop that has come to this result was judged right. -/
def Concluded (base : History) (result : Option (Except Failure Unit)) (history : History) :
    Prop :=
  ∃ since, history = since ++ base ∧ Judged result since

/-- A loop that stopped had looked at the signal after all commits of earlier turns. -/
theorem Looked.concluded {result : Option (Except Failure Unit)} {moment since : History}
    (looked : Looked base moment) (judged : Judged result since) :
    Concluded base result (since ++ moment) := by
  rcases looked with ⟨given, _, rfl, earlier, rfl, spared⟩
  refine ⟨since ++ .looked given :: earlier, by simp, ?_⟩
  intro after coordinates failure before parts
  rcases List.append_eq_append_iff.mp parts with ⟨between, rfl, rest⟩ | ⟨between, rfl, rest⟩
  · cases between with
    | nil => simp at rest
    | cons first between =>
        injection rest with same rest
        subst same
        have harmless := spared coordinates failure (by rw [rest]; simp)
        constructor
        · rintro ⟨_, _, only⟩
          have := only (.looked given) (by simp)
          contradiction
        · intro fatal
          rw [harmless] at fatal
          contradiction
  · cases between with
    | nil => simp at rest
    | cons first between =>
        injection rest with same _
        subst same
        exact judged after coordinates failure between rfl

theorem Spared.concluded {history : History} (spared : Spared base history) :
    Concluded base none history := by
  rcases spared with ⟨since, rfl, spared⟩
  refine ⟨since, rfl, ?_⟩
  rintro after coordinates failure before rfl
  simp [spared coordinates failure (by simp)]

/-- The loop goes on where a poll came to no failure that is fatal. -/
theorem Returned.spared {result : Except Failure (Option Disposition)} {history : History}
    (returned : Returned base result history)
    (harmless : ∀ failure, result = .error failure → failure.isFatal = false) :
    Spared base history := by
  rcases returned with ⟨since, _, rfl, ⟨given, _, rfl, earlier, rfl, spared⟩, visit, came, asks⟩
  refine ⟨since ++ .looked given :: earlier, by simp, ?_⟩
  intro coordinates failure mem
  rcases List.mem_append.mp mem with new | old
  · rcases List.append_of_mem new with ⟨after, before, rfl⟩
    exact harmless failure (came.symm.trans (Visit.of_refused asks).1)
  · exact spared coordinates failure (by simpa using old)

/-- The loop stops at once where a poll came to a failure that is fatal. -/
theorem Returned.concluded {failure : Failure} {history : History}
    (returned : Returned base (.error failure) history) (fatal : failure.isFatal = true) :
    Concluded base (some (.error failure)) (.shutdown :: history) := by
  rcases returned with ⟨since, moment, rfl, looked, visit, came, asks⟩
  suffices judged : Judged (some (.error failure)) (.shutdown :: since) from
    looked.concluded judged
  intro after coordinates other before parts
  cases after with
  | nil => simp at parts
  | cons first after =>
      injection parts with same rest
      subst same
      rw [rest] at asks
      obtain ⟨failed, only⟩ := Visit.of_refused asks
      cases failed.symm.trans came
      have halts : History.Halts (.shutdown :: after) :=
        ⟨List.cons_ne_nil _ _, List.forall_mem_cons.mpr ⟨rfl, only⟩⟩
      exact iff_of_true ⟨rfl, halts⟩ fatal

/-! ## The loop -/

variable (relay : Relay) (environment : Environment ω)

theorem pollOnce_returned :
    Leads (Holds (Looked base)) (relay.pollOnce environment.recorded)
      (fun result => Holds (Returned base result)) (Holds (Spared base)) := by
  intro session looked
  have led := Mark.pollOnce_asks (environment.keeps_recorded) relay session
    (Mark.asked_nil Recorded.history session)
  revert led
  rcases relay.pollOnce environment.recorded session with ⟨_ | result, later⟩
  · -- A poll that breaks off has asked for no more than one that is abandoned.
    rintro ⟨record, ⟨since, whole, asks⟩, _⟩
    have returned : Returned base (.ok (some .abandoned)) later.world.history :=
      ⟨since, _, whole, looked, .settled record .abandoned, rfl, asks⟩
    exact returned.spared nofun
  · rintro ⟨visit, came, ⟨since, whole, asks⟩, _⟩
    exact ⟨since, _, whole, looked, visit, came, asks⟩

/-- Where the loop has led. -/
def TurnedTo (base : History) : Option (Except Failure Unit) → History → Prop
  | none => Spared base
  | some result => Concluded base (some result)

theorem stop_turnedTo :
    Leads (Holds (Looked base)) (stop environment.recorded)
      (fun result => Holds (TurnedTo base (some result))) (Holds (Spared base)) := by
  have checks : Leads (Holds (Looked base)) (act environment.recorded.log.fatalError)
      (fun _ => Holds (Looked base)) (Holds (Spared base)) :=
    leads_pass _
  have concluded (result : Except Failure Unit) (session : Session (Recorded ω))
      (looked : Holds (Looked base) session) : Holds (TurnedTo base (some result)) session :=
    have judged : Judged (some result) [] := by simp [Judged]
    Looked.concluded looked judged
  have stops : Leads (Holds (Looked base)) (stop environment.recorded)
      (fun _ => Holds (Looked base)) (Holds (Spared base)) :=
    leads_stop checks fun _ _ => leads_pass _
  exact stops.imp (fun _ looked => looked) concluded

theorem goOn_turnedTo (result : Except Failure (Option Disposition)) :
    Leads (Holds (Returned base result)) (relay.goOn environment.recorded result)
      (fun result => Holds (TurnedTo base result)) (Holds (Spared base)) := by
  apply leads_goOn
  · exact fun _ => leads_pass _
  · exact fun harmless _ returned => Returned.spared returned harmless
  · rintro rfl
    exact leads_keep fun _ _ returned => (returned.spared nofun).cons nofun
  · rintro failure rfl fatal
    exact leads_act fun _ returned => Returned.concluded returned fatal

theorem run_turnedTo (most : Nat) :
    Leads (Holds (Spared base)) (relay.run environment.recorded most)
      (fun result => Holds (TurnedTo base result)) (Holds (Spared base)) := by
  have looks : Leads (Holds (Spared base)) (act environment.recorded.signal.isTriggered)
      (fun _ => Holds (Looked base)) (Holds (Spared base)) :=
    leads_keep fun given history spared => ⟨given, history, rfl, spared⟩
  have turn := leads_turn looks (stop_turnedTo environment) (pollOnce_returned relay environment)
    (goOn_turnedTo relay environment)
  unfold run
  apply (leads_pass _).bind
  intro _
  exact leads_turns turn (fun _ spared => spared) (fun _ spared => spared) most

theorem TurnedTo.concluded {result : Option (Except Failure Unit)} {history : History}
    (turned : TurnedTo base result history) : Concluded base result history := by
  cases result with
  | none => exact Spared.concluded turned
  | some result => exact turned

end CommitFailure

/-- Where a commit is refused in a run, the run stops with that failure, and nothing happens
any more but that shutdown is asked for, exactly if the failure is fatal. -/
theorem stops_iff_isFatal (relay : Relay) (environment : Environment ω) (most : Nat)
    (session : Session (Recorded ω)) :
    ∃ since, (relay.run environment.recorded most session).2.world.history =
        since ++ session.world.history ∧
      ∀ after coordinates failure before,
        since = after ++ .committed coordinates (.error failure) :: before →
          (((relay.run environment.recorded most session).1 = .ok (some (.error failure)) ∧
              History.Halts after) ↔
            failure.isFatal = true) := by
  have spared : CommitFailure.Spared session.world.history session.world.history :=
    ⟨[], rfl, by simp⟩
  have led := CommitFailure.run_turnedTo relay environment most session spared
  revert led
  rcases relay.run environment.recorded most session with ⟨overflow | result, later⟩
  · rintro ⟨since, whole, spared⟩
    refine ⟨since, whole, ?_⟩
    rintro after coordinates failure before rfl
    simp [spared coordinates failure (by simp)]
  · intro turned
    obtain ⟨since, whole, judged⟩ := CommitFailure.TurnedTo.concluded turned
    refine ⟨since, whole, ?_⟩
    intro after coordinates failure before parts
    simpa using judged after coordinates failure before parts

/-- Whether a commit was refused with a failure that is not fatal. -/
def Happening.isHarmlessRefusal : Happening → Bool
  | .committed _ (.error failure) => !failure.isFatal
  | _ => false

/-- A commit that times out: the run goes on. -/
theorem stops_iff_isFatal_timedOut :
    let whims : Whims Unit :=
      { Whims.smooth ⟨"outbox", 0⟩ with
        commit := fun _ => pure (.error (.broker (.coded .commit "RequestTimedOut"))) }
    let record : SourceRecord := ⟨⟨"outbox", 0, 0⟩, none, some [1], ∅, none⟩
    let content := Content.single ⟨"outbox", 0⟩ [record]
    let session : Session (Recorded (Course Unit)) := { world := { world := opening.world } }
    let done := passing.run (content.environment whims).recorded 2 session
    ∃ after coordinates failure before,
      done.2.world.history = after ++ .committed coordinates (.error failure) :: before ∧
        failure.isFatal = false ∧
          ¬(done.1 = .ok (some (.error failure)) ∧ History.Halts after) := by
  intro whims record content session done
  have refused : done.2.world.history.any Happening.isHarmlessRefusal = true := by
    decide +kernel
  rcases stops_iff_isFatal passing (content.environment whims) 2 session with ⟨since, whole, stops⟩
  rw [List.append_nil] at whole
  obtain ⟨happening, mem, harmless⟩ := List.any_eq_true.mp refused
  obtain ⟨after, before, parts⟩ := List.append_of_mem mem
  cases happening with
  | committed coordinates answer =>
      rcases answer with failure | _
      · have spared : failure.isFatal = false := by
          simpa [Happening.isHarmlessRefusal] using harmless
        refine ⟨after, coordinates, failure, before, parts, spared, ?_⟩
        rw [stops after coordinates failure before (whole.symm.trans parts), spared]
        decide
      · contradiction
  | _ => contradiction

end EventRelay.Relay

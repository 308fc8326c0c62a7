import EventRelay.Proofs.ContestedWork

/-!
# Work that the signal cancels

However chance gives the signal, at most one attempt starts after it. Work is cancelled
only after the signal, and the cancellation tells what the last attempt came to. A result
that ends the work is never taken back.
-/

namespace EventRelay.Retry

open Run

/-! ## Where the work stands -/

namespace Script

variable {ε κ α : Type} [Classified ε κ] [DecidableEq κ] {script : Script ε κ α}
  {budget attempt : Nat} {contest : Contest ε α}

/-- No attempt so far was late, and none came to a result that ends the work; so many were
made, and so many may follow. -/
structure Open (script : Script ε κ α) (budget attempts : Nat) (contest : Contest ε α) :
    Prop where
  calls : contest.calls = attempts
  left : attempts + budget = script.policy.maxRetries
  timely : contest.lateCalls = 0
  unended : ∀ number outcome, .resolved number outcome ∈ contest → ¬script.Ends number

/-- An attempt is under way, and is the only one that may be late. -/
structure Underway (script : Script ε κ α) (budget attempt : Nat) (contest : Contest ε α) :
    Prop where
  calls : contest.calls = attempt
  left : attempt + budget = script.policy.maxRetries + 1
  late : contest.lateCalls ≤ 1
  unended : ∀ number outcome, .resolved number outcome ∈ contest → ¬script.Ends number

/-- The last attempt ended so, and is the only one that may be late or may have come to a
result that ends the work. -/
structure Answered (script : Script ε κ α) (budget attempt : Nat)
    (ending : Raced (Except ε α)) (contest : Contest ε α) : Prop where
  calls : contest.calls = attempt
  left : attempt + budget = script.policy.maxRetries + 1
  late : contest.lateCalls ≤ 1
  ended : contest.lastEnding? = some ending
  found : ∀ outcome, ending = .finished outcome → script.outcomes attempt = outcome
  dropped : ending = .cutOff → contest.isGiven = true
  settled : ∀ number outcome, .resolved number outcome ∈ contest → script.Ends number →
    number = attempt ∧ ending = .finished outcome

/-- What a result tells of what happened. -/
structure Concluded (script : Script ε κ α) (result : Except (Surrender ε) α)
    (contest : Contest ε α) : Prop where
  late : contest.lateCalls ≤ 1
  cancelled : ∀ attempts last, result = .error (.cancelled attempts last) →
    contest.isGiven = true ∧ contest.calls = attempts ∧
      contest.lastEnding? = some (last.elim .cutOff fun failure => .finished (.error failure))
  settled : ∀ number outcome, .resolved number outcome ∈ contest → script.Ends number →
    result = script.answer number

theorem steady_open : Contested.Steady (script.Open budget attempt) := by
  intro contest stands
  refine ⟨stands.calls, stands.left, stands.timely, ?_⟩
  simpa using stands.unended

theorem steady_underway : Contested.Steady (script.Underway budget attempt) := by
  intro contest stands
  refine ⟨stands.calls, stands.left, stands.late, ?_⟩
  simpa using stands.unended

theorem steady_answered {ending : Raced (Except ε α)} :
    Contested.Steady (script.Answered budget attempt ending) := by
  intro contest stands
  refine ⟨stands.calls, stands.left, stands.late, stands.ended, stands.found, ?_, ?_⟩
  · intro _
    exact contest.isGiven_given
  · simpa using stands.settled

theorem steady_concluded {result : Except (Surrender ε) α} :
    Contested.Steady (script.Concluded result) := by
  intro contest stands
  refine ⟨stands.late, ?_, ?_⟩
  · intro attempts last cancelled
    exact ⟨contest.isGiven_given, (stands.cancelled attempts last cancelled).2⟩
  · simpa using stands.settled

/-- The next attempt starts. -/
theorem Open.call {attempts : Nat} (stands : script.Open budget attempts contest)
    (context : Context) : script.Underway budget (attempts + 1) (.called context :: contest) where
  calls := by rw [Contest.calls_called, stands.calls]
  left := by
    have left := stands.left
    omega
  late := Contest.lateCalls_called_le stands.timely context
  unended := by simpa using stands.unended

theorem Underway.resolve (stands : script.Underway budget attempt contest) :
    script.Answered budget attempt (.finished (script.outcomes attempt))
      (.resolved attempt (script.outcomes attempt) :: contest) where
  calls := stands.calls
  left := stands.left
  late := stands.late
  ended := rfl
  found _ same := Raced.finished.inj same
  dropped same := nomatch same
  settled := by
    intro number outcome resolved ends
    rcases List.mem_cons.mp resolved with same | before
    · cases same
      exact ⟨rfl, rfl⟩
    · exact absurd ends (stands.unended number outcome before)

theorem Underway.drop (stands : script.Underway budget attempt contest)
    (given : contest.isGiven = true) :
    script.Answered budget attempt .cutOff (.dropped :: contest) where
  calls := stands.calls
  left := stands.left
  late := stands.late
  ended := rfl
  found _ same := nomatch same
  dropped _ := given
  settled := by
    intro number outcome resolved ends
    have before : .resolved number outcome ∈ contest := by simpa using resolved
    exact absurd ends (stands.unended number outcome before)

/-- What an attempt came to is no cancellation. -/
theorem answer_ne_cancelled (number attempts : Nat) (last : Option ε) :
    script.answer number ≠ .error (.cancelled attempts last) := by
  unfold answer
  split
  · simp
  · split <;> simp

/-- A result that ends the work is the result of the work. -/
theorem Answered.conclude {result : Except (Surrender ε) α} {ending : Raced (Except ε α)}
    (stands : script.Answered budget attempt ending contest)
    (answers : script.answer attempt = result) : script.Concluded result contest where
  late := stands.late
  cancelled attempts last cancelled :=
    absurd (answers.trans cancelled) (answer_ne_cancelled attempt attempts last)
  settled := by
    intro number outcome resolved ends
    rw [(stands.settled number outcome resolved ends).1]
    exact answers.symm

/-- A failure that is retried, with retries left, does not end the work, nor does any result
before it. -/
theorem Answered.unended {failure : ε}
    (stands : script.Answered (budget + 1) attempt (.finished (.error failure)) contest)
    (retried : script.policy.filter.retries (Classified.kind failure) = true) (number : Nat)
    (outcome : Except ε α) (resolved : .resolved number outcome ∈ contest) :
    ¬script.Ends number := by
  intro ends
  have left := stands.left
  obtain ⟨rfl, _⟩ := stands.settled number outcome resolved ends
  exact not_ends (stands.found _ rfl) retried (by omega) ends

theorem Answered.unended_of_cutOff (stands : script.Answered budget attempt .cutOff contest)
    (number : Nat) (outcome : Except ε α) (resolved : .resolved number outcome ∈ contest) :
    ¬script.Ends number := by
  intro ends
  obtain ⟨_, same⟩ := stands.settled number outcome resolved ends
  contradiction

/-- After a failure that is retried the work goes on if the signal has not been given. -/
theorem Answered.open {failure : ε}
    (stands : script.Answered (budget + 1) attempt (.finished (.error failure)) contest)
    (retried : script.policy.filter.retries (Classified.kind failure) = true)
    (idle : contest.isGiven = false) : script.Open budget attempt contest where
  calls := stands.calls
  left := Nat.succ.inj stands.left
  timely := Contest.lateCalls_eq_zero idle
  unended := stands.unended retried

/-- Once the signal is given, work that no result ended may be cancelled. -/
theorem concluded_cancelled {last : Option ε} (late : contest.lateCalls ≤ 1)
    (given : contest.isGiven = true) (calls : contest.calls = attempt)
    (ended : contest.lastEnding? =
      some (last.elim .cutOff fun failure => .finished (.error failure)))
    (unended : ∀ number outcome, .resolved number outcome ∈ contest → ¬script.Ends number) :
    script.Concluded (.error (.cancelled attempt last)) contest where
  late := late
  cancelled := by
    rintro attempts other ⟨⟩
    exact ⟨given, calls, ended⟩
  settled number outcome resolved ends := absurd ends (unended number outcome resolved)

/-! ## The engine under the signal -/

section Contested

open Contested

variable {χ : Type} {chances : Chances χ}

/-- As many attempts were made as can be counted, and one more would be allowed. -/
def Spent (script : Script ε κ α) (contest : Contest ε α) : Prop :=
  contest.lateCalls = 0 ∧ contest.calls = script.policy.maxRetries ∧
    script.policy.maxRetries + 1 = UInt32.size

theorem leads_contested {broken : Session (Contested χ ε α) → Prop} (context : Context)
    (attempts : Nat) :
    Leads (Told (script.Open budget attempts))
      (act (Contested.attempt chances script.outcomes context))
      (fun ending => Told (script.Answered budget (attempts + 1) ending)) broken := by
  unfold Contested.attempt
  rw [act_bind]
  apply (leads_lapse steady_open).bind
  intro _
  rw [act_bind]
  apply (leads_add fun contest stands => stands.call context).bind
  intro _
  rw [act_bind]
  have counted : Leads (Told (script.Underway budget (attempts + 1)))
      (act (get : StateM (Contested χ ε α) _))
      (fun world session => world.contest.calls = attempts + 1 ∧
        Told (script.Underway budget (attempts + 1)) session) broken :=
    leads_act fun session stands => ⟨Underway.calls stands, stands⟩
  apply counted.bind
  intro world
  apply leads_and
  intro calls
  rw [calls, act_bind]
  apply leads_draw.bind
  exact leads_race steady_underway (fun _ stands => stands.resolve)
    fun _ stands given => stands.drop given

/-- Where contested work stands between the steps of the engine. -/
def outlineContested (script : Script ε κ α) (chances : Chances χ) :
    (script.contested chances).Outline (fun result => Told (script.Concluded result))
      (Told script.Spent) where
  trying budget attempt _ session :=
    ∃ attempts, attempt = attempts + 1 ∧ Told (script.Open budget attempts) session
  answered budget attempt ending := Told (script.Answered budget attempt ending)
  waiting budget attempt failure :=
    Told fun contest => script.Open budget attempt contest ∧
      contest.lastEnding? = some (.finished (.error failure))
  notes _ _ := leads_lapse steady_concluded
  leaves _ _ := leads_leave fun _ told => told
  overflows := by
    rintro budget attempt _ spent session ⟨attempts, rfl, stands⟩
    have left := stands.left
    have most := script.policy.maxRetries_lt
    exact ⟨stands.timely, stands.calls.trans (by omega), by omega⟩
  attempts := by
    intro budget attempt lastError
    apply leads_exists
    intro attempts
    apply leads_and
    rintro rfl
    exact leads_contested _ attempts
  succeeds := by
    intro budget attempt value session stands
    exact stands.conclude (by simp [answer, stands.found _ rfl])
  drops := by
    intro budget attempt session stands
    exact concluded_cancelled stands.late (stands.dropped rfl) stands.calls stands.ended
      stands.unended_of_cutOff
  refuses := by
    intro budget attempt failure refused session stands
    have refused : script.policy.filter.retries (Classified.kind failure) = false := refused
    exact stands.conclude (by simp [answer, stands.found _ rfl, refused])
  exhausts := by
    intro attempt failure retried session stands
    have retried : script.policy.filter.retries (Classified.kind failure) = true := retried
    exact stands.conclude (by simp [answer, stands.found _ rfl, retried])
  looks := by
    intro budget attempt failure retried
    apply (leads_look steady_answered).imp fun _ stands => stands
    rintro (_ | _) session ⟨stands, given⟩
    · exact ⟨stands.open retried given, stands.ended⟩
    · exact concluded_cancelled stands.late given stands.calls stands.ended
        (stands.unended retried)
  warns _ := leads_lapse (steady_open.and fun _ ended => ended)
  hastens := by
    rintro budget attempt failure undelayed session ⟨stands, _⟩
    exact ⟨attempt, rfl, stands⟩
  pauses := by
    intro budget attempt failure delayed
    change Leads _ (act (_ >>= _)) _ _
    rw [act_bind]
    apply leads_draw.bind
    intro naps
    apply (leads_rest (steady_open.and fun _ ended => ended) naps).imp fun _ stands => stands
    rintro (_ | _) session told
    · exact ⟨attempt, rfl, told.1⟩
    · obtain ⟨⟨stands, ended⟩, given⟩ := told
      exact concluded_cancelled (stands.timely.le.trans (Nat.zero_le 1)) given stands.calls ended
        stands.unended

theorem contested_concluded (script : Script ε κ α) (chances : Chances χ) :
    Leads (Told fun contest => contest = []) (script.contested chances).run
      (fun result => Told (script.Concluded result)) (Told script.Spent) := by
  apply (script.outlineContested chances).leads_run.imp _ fun _ _ told => told
  intro session (fresh : session.world.contest = [])
  refine ⟨0, rfl, ?_⟩
  rw [Told, fresh]
  exact ⟨rfl, Nat.zero_add _, rfl, by simp⟩

/-- Whenever the signal is given and whatever is taken in a tie, at most one attempt starts
after the signal. The work is cancelled only after the signal, with the attempts that were
made and with the failure that the last one came to, which is missing exactly where that
attempt was dropped. A result that ends the work is what the work comes to. -/
theorem contested_run (script : Script ε κ α) (chances : Chances χ) (chance : χ)
    (session : Session (Contested χ ε α)) :
    let done := (script.contested chances).run { session with world := { chance } }
    let contest := done.2.world.contest
    contest.lateCalls ≤ 1 ∧
      (∀ overflow, done.1 = .error overflow →
        script.policy.maxRetries + 1 = UInt32.size ∧
          contest.calls = script.policy.maxRetries) ∧
      ∀ result, done.1 = .ok result →
        (∀ attempts last, result = .error (.cancelled attempts last) →
          contest.isGiven = true ∧ attempts = contest.calls ∧
            (last = none ↔ contest.lastEnding? = some .cutOff) ∧
            ∀ failure, last = some failure ↔
              contest.lastEnding? = some (.finished (.error failure))) ∧
        ∀ attempt outcome, .resolved attempt outcome ∈ contest → script.Ends attempt →
          result = script.answer attempt := by
  have led := contested_concluded script chances { session with world := { chance } } rfl
  revert led
  rcases (script.contested chances).run { session with world := { chance } } with
    ⟨_ | result, later⟩
  · rintro ⟨timely, calls, spent⟩
    exact ⟨timely.le.trans (Nat.zero_le 1), fun _ _ => ⟨spent, calls⟩, nofun⟩
  · intro (concluded : script.Concluded result later.world.contest)
    refine ⟨concluded.late, nofun, ?_⟩
    rintro _ ⟨⟩
    refine ⟨?_, concluded.settled⟩
    intro attempts last cancelled
    obtain ⟨given, calls, ended⟩ := concluded.cancelled attempts last cancelled
    refine ⟨given, calls.symm, ?_⟩
    rw [ended]
    cases last <;> simp [eq_comm]

/-- The signal is given when a wait is over, and the wait is taken: one attempt starts after
the signal, and its failure is the last. -/
theorem contested_run_tie :
    let passes : Failure := .publish "orders" .timeout "slow"
    let script : Script Failure FailureKind Unit :=
      { policy := ⟨.intervals [Duration.ofMillis 10], 3, {}⟩
        subject := "outbox[0]@7"
        outcomes := fun _ => .error passes }
    let chances : Chances Nat :=
      { fires := fun moments => (moments == 4, moments + 1)
        stalls := fun _ => pure 0
        naps := fun _ => pure 0
        tie := pure .elapsed }
    let done := (script.contested chances).run { world := { chance := 0 } }
    let contest := done.2.world.contest
    done.1 = .ok (.error (.cancelled 2 (some passes))) ∧ contest.lateCalls = 1 ∧
      contest.isGiven = true ∧ contest.calls = 2 ∧
        contest.lastEnding? = some (.finished (.error passes)) := by
  intro passes script chances done contest
  have result : done.1 = .ok (.error (.cancelled 2 (some passes))) := by decide +kernel
  have late : contest.lateCalls = 1 := by decide +kernel
  obtain ⟨_, _, concluded⟩ := contested_run script chances 0 { world := { chance := 0 } }
  obtain ⟨given, calls, _, failed⟩ := (concluded _ result).1 2 (some passes) rfl
  exact ⟨result, late, given, calls.symm, (failed passes).mp rfl⟩

end Contested

end Script

end EventRelay.Retry

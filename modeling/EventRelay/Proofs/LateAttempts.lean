import EventRelay.Proofs.Since
import EventRelay.Relay.Loop

/-!
# Late attempts

An attempt to publish is late if shutdown had been asked for when it ended. What a
relay has come to can be told of its last attempt alone: whether that was late, how it
ended and how many there were before. Each of these assertions follows from the one
before it by the next thing that happens.
-/

namespace EventRelay.Relay

/-- Whether a dead letter was handed to the publisher or a commit was asked for. -/
def Happening.isSettlement : Happening → Bool
  | .forwarded _ _ _ | .committed _ _ => true
  | _ => false

namespace History

/-- Nothing was set aside and nothing committed. -/
def IsQuiet (history : History) : Prop :=
  ∀ happening ∈ history, happening.isSettlement = false

/-- How many attempts to publish were made. -/
def attempts : History → Nat
  | [] => 0
  | .attempted _ _ _ :: earlier => attempts earlier + 1
  | _ :: earlier => attempts earlier

/-- How the last attempt to publish ended, and what had happened before. -/
def lastAttempt? : History → Option (Raced (Except Failure Unit) × History)
  | [] => none
  | .attempted _ _ outcome :: earlier => some (outcome, earlier)
  | _ :: earlier => lastAttempt? earlier

theorem IsQuiet.cons {history : History} {happening : Happening} (quiet : history.IsQuiet)
    (unsettled : happening.isSettlement = false) : IsQuiet (happening :: history) := by
  intro other mem
  rcases List.mem_cons.mp mem with rfl | mem
  · exact unsettled
  · exact quiet other mem

theorem lastAttempt?_append (history : History) {base : History} (none : base.lastAttempt? = none) :
    lastAttempt? (history ++ base) =
      history.lastAttempt?.map fun found => (found.1, found.2 ++ base) := by
  induction history with
  | nil => exact none
  | cons happening earlier ih => cases happening <;> first | rfl | exact ih

end History

/-- An attempt to publish that did not fail for good: if it failed, then with a failure
that is retried, and with retries left. -/
def Spares (relay : Relay) (earlier : History) (outcome : Except Failure Unit) : Prop :=
  ∀ failure, outcome = .error failure →
    relay.policy.filter.retries failure.kind = true ∧
      earlier.attempts < relay.policy.maxRetries

/-! ## What is told of a late attempt -/

variable (relay : Relay) (delivery : Delivery) (mapper : Mapper) (base : History)

/-- What holds of the last attempt if shutdown had been asked for when it ended. -/
def Late (claim : Raced (Except Failure Unit) → History → Prop) (since : History) : Prop :=
  ∀ outcome earlier, since.lastAttempt? = some (outcome, earlier) →
    History.given (earlier ++ base) = true → claim outcome earlier

/-- No attempt was late. -/
def Unlate (since : History) : Prop :=
  Late base (fun _ _ => False) since

/-- Another attempt is to be made, with so many retries left after it. -/
structure Trying (budget : Nat) (since : History) : Prop where
  quiet : since.IsQuiet
  counted : ∀ message, (mapper delivery.envelope).run = .ok (.ok message) →
    since.attempts + budget = relay.policy.maxRetries
  unlate : Unlate base since

/-- An attempt has ended as told. -/
structure Answered (result : Raced (Except Failure Unit)) (budget : Nat) (since : History) :
    Prop where
  quiet : since.IsQuiet
  counted : ∀ message, (mapper delivery.envelope).run = .ok (.ok message) →
    since.attempts + budget = relay.policy.maxRetries + 1
  late : Late base (fun outcome earlier =>
    outcome = result ∧ earlier.attempts + budget = relay.policy.maxRetries ∧
      History.given (since ++ base) = true) since

/-- The message is published, and a look at the signal would tell if that was late. -/
structure Published (since : History) : Prop where
  quiet : since.IsQuiet
  late : Late base (fun outcome _ =>
    outcome = .finished (.ok ()) ∧ History.given (since ++ base) = true) since

/-- Nothing is settled, and no late attempt failed for good. -/
structure Spared (since : History) : Prop where
  quiet : since.IsQuiet
  late : Late base (fun outcome earlier =>
    ∀ result, outcome = .finished result → relay.Spares earlier result) since

/-- A late attempt failed for good. -/
def Doomed (since : History) : Prop :=
  Late base (fun outcome earlier =>
    ∀ result, outcome = .finished result → ¬relay.Spares earlier result) since

/-- What the engine has come to. -/
def Ended : Except (Retry.Surrender Failure) Unit → History → Prop
  | .ok () => Published base
  | .error (.cancelled _ _) => Spared relay base
  | .error _ => Doomed relay base

/-- What a late delivery has come to. -/
def Judged (result : Except Failure Disposition) (since : History) : Prop :=
  Late base (fun outcome earlier =>
    ∀ attempt, outcome = .finished attempt →
      ((result = .ok .abandoned ∧ since.IsQuiet) ↔ relay.Spares earlier attempt)) since

variable {relay delivery mapper base} {budget : Nat} {since : History}

theorem Trying.steady : Steady (Trying relay delivery mapper base budget) := by
  intro since trying
  exact ⟨trying.quiet.cons rfl, trying.counted, trying.unlate⟩

theorem Answered.steady {result : Raced (Except Failure Unit)} :
    Steady (Answered relay delivery mapper base result budget) := by
  intro since answered
  constructor
  · exact answered.quiet.cons rfl
  · exact answered.counted
  · intro outcome earlier last given
    rcases answered.late outcome earlier last given with ⟨same, left, _⟩
    exact ⟨same, left, rfl⟩

theorem Published.steady : Steady (Published base) := by
  intro since published
  constructor
  · exact published.quiet.cons rfl
  · intro outcome earlier last given
    exact ⟨(published.late outcome earlier last given).1, rfl⟩

theorem Spared.steady : Steady (Spared relay base) := by
  intro since spared
  exact ⟨spared.quiet.cons rfl, spared.late⟩

theorem Doomed.steady : Steady (Doomed relay base) := by
  intro since doomed
  exact doomed

theorem Ended.steady {value : Except (Retry.Surrender Failure) Unit} :
    Steady (Ended relay base value) := by
  rcases value with surrender | ⟨⟩
  · cases surrender with
    | cancelled => exact Spared.steady
    | exhausted => exact Doomed.steady
    | notRetryable => exact Doomed.steady
  · exact Published.steady

/-- A delivery that was spared is abandoned. -/
theorem Spared.judged (spared : Spared relay base since) :
    Judged relay base (.ok .abandoned) since := by
  intro outcome earlier last given attempt same
  constructor
  · intro _
    exact spared.late outcome earlier last given attempt same
  · intro _
    exact ⟨rfl, spared.quiet⟩

/-- A delivery that was not spared is not abandoned. -/
theorem Doomed.judged {result : Except Failure Disposition} (doomed : Doomed relay base since)
    (settled : result ≠ .ok .abandoned) : Judged relay base result since := by
  intro outcome earlier last given attempt same
  constructor
  · intro abandoned
    exact absurd abandoned.1 settled
  · intro spares
    exact absurd spares (doomed outcome earlier last given attempt same)

/-- Where no attempt was late, nothing is to be told of late ones. -/
theorem Unlate.judged {result : Except Failure Disposition} (unlate : Unlate base since) :
    Judged relay base result since := by
  intro outcome earlier last given
  exact (unlate outcome earlier last given).elim

/-! ## One attempt and what follows it -/

namespace Answered

variable {failure : Failure}

theorem of_attempted {message : Message} {headers : Headers}
    {result : Raced (Except Failure Unit)} (trying : Trying relay delivery mapper base budget since)
    (mapped : (mapper delivery.envelope).run = .ok (.ok message)) :
    Answered relay delivery mapper base result budget
      (.attempted message headers result :: since) where
  quiet := trying.quiet.cons rfl
  counted other same := by
    have left := trying.counted other same
    simp only [History.attempts]
    omega
  late := by
    intro outcome earlier last given
    cases last
    exact ⟨rfl, trying.counted message mapped, given⟩

/-- An envelope that is refused is not attempted to be published. -/
theorem of_refused {result : Raced (Except Failure Unit)}
    (trying : Trying relay delivery mapper base budget since)
    (mapped : (mapper delivery.envelope).run = .ok (.error failure)) :
    Answered relay delivery mapper base result budget since where
  quiet := trying.quiet
  counted message same := by
    cases mapped.symm.trans same
  late := by
    intro outcome earlier last given
    exact (trying.unlate outcome earlier last given).elim

theorem published
    (answered : Answered relay delivery mapper base (.finished (.ok ())) budget since) :
    Published base since where
  quiet := answered.quiet
  late := by
    intro outcome earlier last given
    rcases answered.late outcome earlier last given with ⟨same, _, still⟩
    exact ⟨same, still⟩

theorem spared_of_cutOff (answered : Answered relay delivery mapper base .cutOff budget since) :
    Spared relay base since where
  quiet := answered.quiet
  late := by
    intro outcome earlier last given result same
    rcases answered.late outcome earlier last given with ⟨cutOff, _, _⟩
    rw [cutOff] at same
    contradiction

theorem doomed_of_refused
    (answered : Answered relay delivery mapper base (.finished (.error failure)) budget since)
    (refused : ¬relay.policy.filter.retries failure.kind = true) : Doomed relay base since := by
  intro outcome earlier last given result same spares
  rcases answered.late outcome earlier last given with ⟨failed, _, _⟩
  cases failed.symm.trans same
  exact refused (spares failure rfl).1

theorem doomed_of_spent
    (answered : Answered relay delivery mapper base (.finished (.error failure)) 0 since) :
    Doomed relay base since := by
  intro outcome earlier last given result same spares
  rcases answered.late outcome earlier last given with ⟨failed, left, _⟩
  cases failed.symm.trans same
  have more := (spares failure rfl).2
  omega

/-- A delivery is spared where a look after a failure that is retried finds the signal
given. -/
theorem spared_of_given
    (answered : Answered relay delivery mapper base (.finished (.error failure)) (budget + 1) since)
    (retried : relay.policy.filter.retries failure.kind = true) :
    Spared relay base (.looked true :: since) where
  quiet := answered.quiet.cons rfl
  late := by
    intro outcome earlier last given result same other failed
    rcases answered.late outcome earlier last given with ⟨this, left, _⟩
    cases this.symm.trans same
    cases failed
    exact ⟨retried, by omega⟩

/-- A look that finds the signal not given tells that no attempt was late. -/
theorem trying_of_not_given
    (answered : Answered relay delivery mapper base (.finished (.error failure)) (budget + 1) since)
    (notGiven : History.given (since ++ base) = false) :
    Trying relay delivery mapper base budget (.looked false :: since) where
  quiet := answered.quiet.cons rfl
  counted message mapped := by
    have left := answered.counted message mapped
    simp only [History.attempts]
    omega
  unlate := by
    intro outcome earlier last given
    rcases answered.late outcome earlier last given with ⟨_, _, still⟩
    rw [notGiven] at still
    contradiction

end Answered

theorem Trying.spared (trying : Trying relay delivery mapper base budget since) :
    Spared relay base since where
  quiet := trying.quiet
  late := by
    intro outcome earlier last given
    exact (trying.unlate outcome earlier last given).elim

/-- A delivery is spared where a look after it was published finds the signal given. -/
theorem Published.spared (published : Published base since) :
    Spared relay base (.looked true :: since) where
  quiet := published.quiet.cons rfl
  late := by
    intro outcome earlier last given result same failure failed
    cases (published.late outcome earlier last given).1.symm.trans same
    contradiction

/-- A look that finds the signal not given tells that the message was not published
late. -/
theorem Published.doomed (published : Published base since)
    (notGiven : History.given (since ++ base) = false) :
    Doomed relay base (.looked false :: since) := by
  intro outcome earlier last given
  have still := (published.late outcome earlier last given).2
  rw [notGiven] at still
  contradiction

end EventRelay.Relay

import EventRelay.Proofs.ContestedWork
import EventRelay.Proofs.DoubleSums
import EventRelay.Proofs.OverseenWork
import EventRelay.Proofs.RetryBudget
import Mathlib

/-!
# Samples of retried work

A call of the retry engine that comes to a result leaves exactly one sample, of how it ended and
of how often its work was attempted; a call that an overflow stops leaves none. How often the
work was attempted is noted beside the world, not by the engine. So what is published under a
label after calls one after another is told by the calls that came to a result of that label, as
far as words can count them and a double can hold the sum.
-/

namespace EventRelay

open Run

/-! ## What becomes of the samples -/

namespace Run

variable {ω α : Type}

/-- The samples of a session are as told. -/
def OfSamples (told : List Retry.Sample → Prop) (session : Session ω) : Prop :=
  told session.samples

/-- If the samples are as told, what runs leaves them so, even where it stops at an overflow. -/
def Retains (told : List Retry.Sample → Prop) (program : Run ω α) : Prop :=
  ∀ session, OfSamples told session → OfSamples told (program session).2

/-- What runs leaves no sample. -/
def Unsampled (program : Run ω α) : Prop :=
  ∀ session, (program session).2.samples = session.samples

theorem unsampled_iff_retains {program : Run ω α} :
    Unsampled program ↔ ∀ told, Retains told program := by
  constructor
  · intro unsampled told session holds
    unfold OfSamples
    rwa [unsampled session]
  · exact fun retains session => retains (· = session.samples) session rfl

theorem Retains.leads {told : List Retry.Sample → Prop} {program : Run ω α}
    (retains : Retains told program) :
    Leads (OfSamples told) program (fun _ => OfSamples told) (OfSamples told) := by
  intro session holds
  have kept := retains session holds
  revert kept
  rcases program session with ⟨_ | value, later⟩
  · exact id
  · exact id

end Run

namespace Retry

/-! ## One call -/

/-- The sample of a call that came to this after so many attempts. Where an overflow stopped it
there is none. -/
def sampleOf? {ε α : Type} (attempts : Nat) :
    Except Overflow (Except (Surrender ε) α) → Option Sample
  | .ok result => some ⟨endingOf result, attempts⟩
  | .error _ => none

theorem attempts_of_sampleOf? {ε α : Type} {attempts : Nat}
    {result : Except Overflow (Except (Surrender ε) α)} {sample : Sample}
    (left : sampleOf? attempts result = some sample) : sample.attempts = attempts := by
  cases result with
  | error overflow => contradiction
  | ok result =>
      obtain rfl := Option.some.inj left
      rfl

namespace Engine

variable {ω ε κ α : Type} {engine : Engine ω ε κ α}

/-- So many calls of the work were noted, and the samples are those that were found. -/
def Unrecorded (found : List Sample) (count : Nat) : Session (Overseen ω) → Prop :=
  Overseen.Holds fun calls session => calls.length = count ∧ session.samples = found

/-- There was an attempt, and no sample of it was left yet. -/
def Attempted (found : List Sample) (attempt : Nat) (session : Session (Overseen ω)) : Prop :=
  0 < attempt ∧ Unrecorded found attempt session

/-- One sample was left, of a result and of all calls that were noted, of which there are some. -/
def Recorded (found : List Sample) (result : Except (Surrender ε) α) :
    Session (Overseen ω) → Prop :=
  Overseen.Holds fun calls session =>
    0 < calls.length ∧ session.samples = ⟨endingOf result, calls.length⟩ :: found

theorem leads_operation (unsampled : ∀ context, Unsampled (engine.operation context))
    (found : List Sample) (count : Nat) (context : Context) :
    Leads (Unrecorded found count) (engine.overseen.operation context)
      (fun _ => Unrecorded found (count + 1)) (Unrecorded found (count + 1)) := by
  apply Overseen.leads_operation
  intro calls
  have kept := (unsampled_iff_retains.mp (unsampled context)
    fun samples => calls.length = count ∧ samples = found).leads
  have more (session : Session ω) (holds : calls.length = count ∧ session.samples = found) :
      (context :: calls).length = count + 1 ∧ session.samples = found :=
    ⟨congrArg (· + 1) holds.1, holds.2⟩
  exact (kept.imp (fun _ holds => holds) fun _ => more).mono more

variable [Classified ε κ] [DecidableEq κ]

/-- An engine samples the number of calls of its work. Each attempt is one call more, and no
step but the last leaves a sample. -/
def sampling (unsampled : ∀ context, Unsampled (engine.operation context))
    (found : List Sample) :
    engine.overseen.ClosingOutline (fun _ => Attempted found) (Recorded found)
      (fun session => ∃ count, Unrecorded found count session) where
  trying _ attempt _ session := ∃ count, attempt = count + 1 ∧ Unrecorded found count session
  answered _ attempt _ := Attempted found attempt
  waiting _ attempt _ := Attempted found attempt
  notes _ _ _ := leads_act fun _ holds => holds
  leaves result attempt := by
    apply leads_leave
    rintro session ⟨some, rfl, samples⟩
    exact ⟨some, congrArg (_ :: ·) samples⟩
  overflows := by
    rintro budget attempt lastError spent session ⟨count, rfl, holds⟩
    exact ⟨count, holds⟩
  attempts := by
    intro budget attempt lastError
    apply leads_exists
    intro count
    apply leads_and
    rintro rfl
    refine (leads_operation unsampled found count _).imp (fun _ holds => holds) ?_ |>.mono ?_
    · exact fun _ _ holds => ⟨Nat.succ_pos count, holds⟩
    · exact fun _ holds => ⟨_, holds⟩
  succeeds _ holds := holds
  drops _ holds := holds
  refuses _ _ holds := holds
  exhausts _ _ holds := holds
  looks _ := by
    apply leads_act
    intro session holds
    cases (engine.overseen.signal.isTriggered session.world).1 <;> exact holds
  warns _ := leads_act fun _ holds => holds
  hastens _ _ holds := ⟨_, rfl, holds.2⟩
  pauses _ := by
    apply leads_act
    intro session holds
    cases (engine.overseen.signal.pause _ session.world).1
    · exact ⟨_, rfl, holds.2⟩
    · exact holds

/-- A call that comes to a result attempts its work and leaves one sample, of how it ended and of
how often the work was attempted. One that an overflow stops leaves none. -/
theorem recorded_run (unsampled : ∀ context, Unsampled (engine.operation context))
    (session : Session ω) :
    match engine.run session with
    | (.ok result, later) =>
        0 < (engine.calls session).length ∧
          later.samples = ⟨endingOf result, (engine.calls session).length⟩ :: session.samples
    | (.error _, later) => later.samples = session.samples := by
  have led := (sampling unsampled session.samples).leads_run (Overseen.start session)
    ⟨0, rfl, rfl, rfl⟩
  revert led
  unfold calls
  rw [engine.run_eq_overseen]
  rcases engine.overseen.run (Overseen.start session) with ⟨overflow | result, later⟩
  · rintro ⟨count, _, samples⟩
    exact samples
  · exact id

/-- The sample of a call is put before those that it finds. -/
theorem samples_run (unsampled : ∀ context, Unsampled (engine.operation context))
    (session : Session ω) :
    (engine.run session).2.samples =
      (sampleOf? (engine.calls session).length (engine.run session).1).toList ++
        session.samples := by
  have recorded := recorded_run unsampled session
  revert recorded
  rcases engine.run session with ⟨overflow | result, later⟩
  · exact id
  · exact And.right

/-- A call that comes to a result attempts its work. -/
theorem calls_pos {result : Except (Surrender ε) α}
    (unsampled : ∀ context, Unsampled (engine.operation context)) {session : Session ω}
    (returned : (engine.run session).1 = .ok result) : 0 < (engine.calls session).length := by
  have recorded := recorded_run unsampled session
  revert recorded returned
  rcases engine.run session with ⟨overflow | result, later⟩
  · nofun
  · exact fun _ recorded => recorded.1

end Engine

/-- A call of the engine in the session that it finds. What it attempts leaves no sample of its
own. -/
structure Call where
  {ω ε κ α : Type}
  [classified : Classified ε κ]
  [decidableEq : DecidableEq κ]
  engine : Engine ω ε κ α
  before : Session ω
  unsampled : ∀ context, Unsampled (engine.operation context)

attribute [instance] Call.classified Call.decidableEq

namespace Call

variable (call : Call)

/-- What a call comes to. -/
def result : Except Overflow (Except (Surrender call.ε) call.α) :=
  (call.engine.run call.before).1

/-- The session that a call leaves. -/
def after : Session call.ω :=
  (call.engine.run call.before).2

/-- How often a call attempts its work. -/
def invocations : Nat :=
  (call.engine.calls call.before).length

/-- The label for what a call comes to. Where an overflow stops it there is none. -/
def label? : Option String :=
  match call.result with
  | .ok (.ok _) => some "success"
  | .ok (.error (.notRetryable _ _)) => some "not_retryable"
  | .ok (.error (.exhausted _ _)) => some "exhausted"
  | .ok (.error (.cancelled _ _)) => some "cancelled"
  | .error _ => none

/-- The sample of a call. -/
def sample? : Option Sample :=
  sampleOf? call.invocations call.result

theorem samples_after : call.after.samples = call.sample?.toList ++ call.before.samples :=
  Engine.samples_run call.unsampled call.before

/-- A call that comes to a result attempts its work. -/
theorem invocations_pos {label : String} (labelled : call.label? = some label) :
    0 < call.invocations := by
  cases returned : call.result with
  | error overflow =>
      unfold label? at labelled
      rw [returned] at labelled
      contradiction
  | ok result => exact Engine.calls_pos call.unsampled returned

theorem sample?_eq {sample : Sample} (left : call.after.samples = sample :: call.before.samples) :
    call.sample? = some sample := by
  have only : call.sample?.toList = [sample] :=
    List.append_cancel_right (call.samples_after.symm.trans left)
  cases sampled : call.sample? with
  | none => simp [sampled] at only
  | some other => simpa [sampled] using only

/-- The sample of a call stands under the label for what the call comes to. -/
theorem label?_eq : call.label? = call.sample?.map fun sample => sample.ending.label := by
  unfold label? sample?
  rcases call.result with overflow | ⟨reason | value⟩
  · rfl
  · cases reason <;> rfl
  · rfl

end Call

/-- A call of scripted work. -/
def Script.asCall {ε κ α : Type} [Classified ε κ] [DecidableEq κ] (script : Script ε κ α)
    (found : List Sample) : Call where
  engine := script.engine
  before := { world := [], samples := found }
  unsampled _ _ := rfl

/-! ## What is published -/

theorem Ending.label_injective : Function.Injective Ending.label := by
  intro ending other same
  cases ending <;> cases other <;> first | rfl | exact absurd same (by decide)

namespace Histogram

/-- The sum of attempts is kept exactly as long as fifty-three bits hold it. -/
theorem stands_total {attempts : List Nat} (small : attempts.sum ≤ 2 ^ 53) :
    Double.Stands (ofAttempts attempts).total (attempts.sum : ℚ) :=
  Double.stands_foldr_add attempts small

/-- Samples are counted exactly as long as a word holds their number. -/
theorem count_ofAttempts {attempts : List Nat} (small : attempts.length < 2 ^ 64) :
    (ofAttempts attempts).count = attempts.length :=
  UInt64.toNat_ofNat_of_lt small

/-- What is published under a label. To leave no sample is to publish nothing. -/
def under (samples : List Sample) (label : String) : Histogram :=
  (((all samples).find? fun entry => entry.1.label = label).map Prod.snd).getD (ofAttempts [])

theorem mem_all {samples : List Sample} {entry : Ending × Histogram} :
    entry ∈ all samples ↔
      entry.2 = ofSamples samples entry.1 ∧ ∃ sample ∈ samples, sample.ending = entry.1 := by
  have every (ending : Ending) : ending ∈ Ending.all := by cases ending <;> decide
  unfold all
  simp only [List.mem_map, List.mem_filter, List.any_eq_true, decide_eq_true_iff]
  constructor
  · rintro ⟨ending, ⟨-, left⟩, rfl⟩
    exact ⟨rfl, left⟩
  · rintro ⟨summed, left⟩
    exact ⟨entry.1, ⟨every _, left⟩, Prod.ext rfl summed.symm⟩

/-- Labels tell endings apart, so the samples under a label are summed up. -/
theorem under_eq (samples : List Sample) (label : String) :
    under samples label =
      ofAttempts ((samples.filter fun sample => sample.ending.label = label).map
        Sample.attempts) := by
  unfold under
  cases found : (all samples).find? fun entry => entry.1.label = label with
  | none =>
      have unlabelled : ∀ sample ∈ samples, ¬sample.ending.label = label := by
        intro sample left labelled
        have listed : (sample.ending, ofSamples samples sample.ending) ∈ all samples :=
          mem_all.mpr ⟨rfl, sample, left, rfl⟩
        exact List.find?_eq_none.mp found _ listed (decide_eq_true labelled)
      rw [List.filter_eq_nil_iff.mpr (by simpa using unlabelled)]
      rfl
  | some entry =>
      obtain ⟨summed, _⟩ := mem_all.mp (List.mem_of_find?_eq_some found)
      have labelled := List.find?_some found
      obtain rfl : entry.1.label = label := of_decide_eq_true labelled
      change entry.2 = _
      rw [summed, ofSamples]
      simp only [Ending.label_injective.eq_iff]

end Histogram

/-! ## Calls one after another -/

/-- Each call finds the samples as the call before it left them, whatever else has changed in the
meantime. -/
def Successive : List Sample → List Call → List Sample → Prop
  | found, [], left => found = left
  | found, call :: calls, left =>
      call.before.samples = found ∧ Successive call.after.samples calls left

instance decidableSuccessive :
    (found : List Sample) → (calls : List Call) → (left : List Sample) →
      Decidable (Successive found calls left)
  | found, [], left => inferInstanceAs (Decidable (found = left))
  | found, call :: calls, left =>
      have := decidableSuccessive call.after.samples calls left
      inferInstanceAs (Decidable (call.before.samples = found ∧ _))

/-- One more call finds the samples as the last one left them. -/
theorem Successive.append {found left : List Sample} {calls : List Call}
    (successive : Successive found calls left) (call : Call)
    (finds : call.before.samples = left) :
    Successive found (calls ++ [call]) call.after.samples := by
  induction calls generalizing found with
  | nil => exact ⟨finds.trans (Eq.symm successive), rfl⟩
  | cons first calls ih => exact ⟨successive.1, ih successive.2⟩

theorem Successive.eq_append {found left : List Sample} {calls : List Call}
    (successive : Successive found calls left) :
    left = (calls.filterMap Call.sample?).reverse ++ found := by
  induction calls generalizing found with
  | nil => exact successive.symm
  | cons call calls ih =>
      obtain ⟨rfl, rest⟩ := successive
      rw [ih rest, call.samples_after]
      cases sampled : call.sample? with
      | none => rw [List.filterMap_cons_none sampled]; rfl
      | some sample => simp [List.filterMap_cons_some sampled]

/-- The samples under a label are those of the calls that came to a result of that label. -/
theorem attempts_sampled (calls : List Call) (label : String) :
    ((calls.filterMap Call.sample?).filter fun sample => sample.ending.label = label).map
        Sample.attempts =
      (calls.filter fun call => call.label? = some label).map Call.invocations := by
  induction calls with
  | nil => rfl
  | cons call calls ih =>
      have labelled := call.label?_eq
      cases sampled : call.sample? with
      | none =>
          rw [sampled] at labelled
          rw [List.filterMap_cons_none sampled, ih, List.filter_cons_of_neg (by simp [labelled])]
      | some sample =>
          rw [sampled] at labelled
          rw [List.filterMap_cons_some sampled, List.filter_cons, List.filter_cons, labelled]
          by_cases same : sample.ending.label = label
          · simp [same, ih, attempts_of_sampleOf? sampled]
          · simp [same, ih]

/-- What is published under a label after calls one after another is summed up of how often the
calls that came to a result of this label attempted their work, the latest of them first. -/
theorem Successive.under_eq {calls : List Call} {samples : List Sample}
    (successive : Successive [] calls samples) (label : String) :
    Histogram.under samples label =
      .ofAttempts
        ((calls.filter fun call => call.label? = some label).map Call.invocations).reverse := by
  rw [Histogram.under_eq, successive.eq_append, List.append_nil, List.filter_reverse,
    List.map_reverse, attempts_sampled]

/-- Calls that attempt their work are no more than their attempts. -/
theorem length_le_invocations {calls : List Call}
    (attempted : ∀ call ∈ calls, 0 < call.invocations) :
    calls.length ≤ (calls.map Call.invocations).sum := by
  rw [← List.length_map Call.invocations]
  exact List.length_le_sum_of_one_le _ (List.forall_mem_map.mpr attempted)

/-- After calls one after another, of any work, under any policies and signals, words count under a
label the calls that came to a result of this label, all of them and those of so many attempts. As
long as fifty-three bits hold how often these calls attempted their work, the words hold their
numbers and the double stands for the sum. -/
theorem histogram_of_calls {calls : List Call} {samples : List Sample}
    (successive : Successive [] calls samples) (label : String) :
    let returned := calls.filter fun call => call.label? = some label
    let invocations := (returned.map Call.invocations).sum
    let histogram := Histogram.under samples label
    histogram.tally = .ofNat returned.length ∧
      (histogram.tallies = bucketBounds.map fun bound =>
        .ofNat (returned.countP fun call => call.invocations ≤ bound)) ∧
      (invocations ≤ 2 ^ 53 →
        histogram.count = returned.length ∧ Double.Stands histogram.total (invocations : ℚ)) := by
  intro returned invocations histogram
  have summed : histogram = .ofAttempts (returned.map Call.invocations).reverse :=
    successive.under_eq label
  have length : (returned.map Call.invocations).reverse.length = returned.length := by
    rw [List.length_reverse, List.length_map]
  have same : (returned.map Call.invocations).reverse.sum = invocations := List.sum_reverse _
  rw [summed]
  refine ⟨congrArg UInt64.ofNat length, ?_, ?_⟩
  · simp only [Histogram.ofAttempts, List.countP_reverse, List.countP_map, Function.comp_def]
  · intro small
    constructor
    · have few : returned.length ≤ invocations := length_le_invocations fun call came =>
        call.invocations_pos (of_decide_eq_true (List.mem_filter.mp came).2)
      rw [← length]
      exact Histogram.count_ofAttempts (by omega)
    · rw [← same]
      exact Histogram.stands_total (same.trans_le small)

/-- Calls for all ends of a run: success, a failure that is refused, retries used up, the signal
seen after a failure, during an attempt and during a wait, and an overflow. -/
theorem histogram_of_calls_mixed :
    let slow : Failure := .publish "orders" .timeout "slow"
    let script (limit : UInt32) (ignore : List FailureKind) (works : Nat) :
        Script Failure FailureKind Unit :=
      { policy := ⟨.intervals [Duration.ofMillis 10], limit, { ignore }⟩
        subject := "outbox[0]@7"
        outcomes := fun attempt => if attempt = works then .ok () else .error slow }
    let chances (moment stalls naps : Nat) : Chances Nat :=
      { fires := fun moments => (moments == moment, moments + 1)
        stalls := fun _ => pure stalls
        naps := fun _ => pure naps
        tie := pure .elapsed }
    let overflowing : Engine (List Deed) Failure FailureKind Unit :=
      { (script 3 [] 1).engine with operation := fun _ => Run.check (.error .addition) }
    let contested (chances : Chances Nat) (samples : List Sample) : Call :=
      ⟨(script 3 [] 4).contested chances, { world := { chance := 0 }, samples }, fun _ _ => rfl⟩
    let samples : List Sample :=
      [⟨.success, 1⟩, ⟨.cancelled, 1⟩, ⟨.cancelled, 2⟩, ⟨.cancelled, 1⟩, ⟨.exhausted, 2⟩,
        ⟨.notRetryable, 1⟩, ⟨.success, 3⟩]
    let calls : List Call :=
      [(script 3 [] 3).asCall (samples.drop 7),
        (script 3 [.timeout] 3).asCall (samples.drop 6),
        (script 1 [] 3).asCall (samples.drop 5),
        contested (chances 2 0 0) (samples.drop 4),
        contested (chances 5 1 0) (samples.drop 3),
        contested (chances 3 0 1) (samples.drop 2),
        ⟨overflowing, { world := [], samples := samples.drop 1 }, fun _ _ => rfl⟩,
        (script 0 [] 1).asCall (samples.drop 1)]
    let holds (label : String) (count sum : Nat) :=
      (Histogram.under samples label).count = count ∧
        Double.Stands (Histogram.under samples label).total (sum : ℚ)
    Successive [] calls samples ∧
      calls.map Call.label? = [some "success", some "not_retryable", some "exhausted",
        some "cancelled", some "cancelled", some "cancelled", none, some "success"] ∧
      holds "success" 2 4 ∧ holds "not_retryable" 1 1 ∧ holds "exhausted" 1 2 ∧
        holds "cancelled" 3 4 := by
  intro slow script chances overflowing contested samples calls holds
  have successive : Successive [] calls samples := by decide +kernel
  have told (label : String) (count sum : Nat) (small : sum ≤ 2 ^ 53)
      (counted : (calls.filter fun call => call.label? = some label).length = count)
      (attempted : ((calls.filter fun call => call.label? = some label).map
        Call.invocations).sum = sum) : holds label count sum := by
    subst counted attempted
    exact (histogram_of_calls successive label).2.2 small
  refine ⟨successive, by decide +kernel, ?_, ?_, ?_, ?_⟩
  · exact told "success" 2 4 (by decide) (by decide +kernel) (by decide +kernel)
  · exact told "not_retryable" 1 1 (by decide) (by decide +kernel) (by decide +kernel)
  · exact told "exhausted" 1 2 (by decide) (by decide +kernel) (by decide +kernel)
  · exact told "cancelled" 3 4 (by decide) (by decide +kernel) (by decide +kernel)

/-! ## One call again and again -/

section Repeated

variable {again : List Sample → Call} {sample : Sample}
  (finds : ∀ found, (again found).before.samples = found)
  (leaves : ∀ found, (again found).after.samples = sample :: found)

/-- One call so many times, each of which leaves the same sample for the next to find. -/
def repeated (again : List Sample → Call) (sample : Sample) (times : Nat) : List Call :=
  -- Of these numbers the first is at hand before the rest are listed, however many there are.
  (List.range' 0 times).map fun made => again (List.replicate made sample)

include finds leaves

theorem successive_repeated (times : Nat) :
    Successive [] (repeated again sample times) (List.replicate times sample) := by
  induction times with
  | zero => rfl
  | succ times ih =>
      have more := ih.append (again (List.replicate times sample)) (finds _)
      rw [leaves, ← List.replicate_succ] at more
      unfold repeated
      rwa [List.range'_1_concat, List.map_append, Nat.zero_add]

theorem sample?_of_mem_repeated {times : Nat} :
    ∀ call ∈ repeated again sample times, call.sample? = some sample := by
  refine List.forall_mem_map.mpr fun made _ => Call.sample?_eq _ ?_
  rw [leaves, finds]

theorem sum_repeated (times : Nat) :
    ((repeated again sample times).map Call.invocations).sum = times * sample.attempts := by
  have same : (repeated again sample times).map Call.invocations =
      List.replicate times sample.attempts := by
    refine List.eq_replicate_iff.mpr ⟨by simp [repeated], List.forall_mem_map.mpr ?_⟩
    intro call made
    exact (attempts_of_sampleOf? (sample?_of_mem_repeated finds leaves call made)).symm
  rw [same, List.sum_replicate, smul_eq_mul]

/-- If a call is made so often that the sum of its attempts is odd and takes more than fifty-three
bits, no double stands for this sum. -/
theorem repeated_rounded {times : Nat} (odd : times * sample.attempts % 2 = 1)
    (large : 2 ^ 53 < times * sample.attempts) :
    Successive [] (repeated again sample times) (List.replicate times sample) ∧
      (∀ call ∈ repeated again sample times, call.label? = some sample.ending.label) ∧
      ((repeated again sample times).map Call.invocations).sum = times * sample.attempts ∧
      ¬ Double.Stands (Histogram.under (List.replicate times sample) sample.ending.label).total
        ((times * sample.attempts : Nat) : ℚ) := by
  have labelled : ∀ call ∈ repeated again sample times,
      call.label? = some sample.ending.label := by
    intro call made
    rw [call.label?_eq, sample?_of_mem_repeated finds leaves call made]
    rfl
  have sum : (List.replicate times sample.attempts).sum = times * sample.attempts :=
    List.sum_replicate_nat
  have published : Histogram.under (List.replicate times sample) sample.ending.label =
      .ofAttempts (List.replicate times sample.attempts) := by
    rw [Histogram.under_eq, List.filter_replicate, if_pos (decide_eq_true rfl),
      List.map_replicate]
  refine ⟨successive_repeated finds leaves times, labelled, sum_repeated finds leaves times, ?_⟩
  rw [published, ← sum]
  rw [← sum] at odd large
  exact Double.not_stands_of_odd odd large

end Repeated

/-- Work that always fails leaves a sample of all attempts that its limit allows. -/
theorem Script.samples_asCall {ε κ α : Type} [Classified ε κ] [DecidableEq κ]
    {script : Script ε κ α} {attempts : Nat} (fails : script.FailsAlways)
    (most : script.policy.maxRetries + 1 = attempts) (countable : attempts < UInt32.size)
    (found : List Sample) :
    (script.asCall found).after.samples = ⟨.exhausted, attempts⟩ :: found := by
  subst most
  obtain ⟨failure, failed, retried⟩ := fails (script.policy.maxRetries + 1)
  have ran := script.run_of_countable fails { world := [], samples := found } countable failed
    retried
  exact congrArg (fun done => done.2.samples) ran

/-- Work that is exhausted after all attempts that can be counted, over and over. How often it was
attempted is odd at last and takes more than fifty-three bits, so no double stands for it. -/
theorem histogram_of_calls_rounded :
    let late : Failure := .publish "orders" .timeout "slow"
    let script : Script Failure FailureKind Unit :=
      { policy := ⟨.immediate, 4294967294, {}⟩
        subject := "outbox[0]@7"
        outcomes := fun _ => .error late }
    let sample : Sample := ⟨.exhausted, 4294967295⟩
    let calls := repeated script.asCall sample 2097153
    let samples := List.replicate 2097153 sample
    Successive [] calls samples ∧ (∀ call ∈ calls, call.label? = some "exhausted") ∧
      (calls.map Call.invocations).sum = 2097153 * 4294967295 ∧
      ¬ Double.Stands (Histogram.under samples "exhausted").total
        ((2097153 * 4294967295 : Nat) : ℚ) := by
  intro late script sample calls samples
  have fails : script.FailsAlways := fun _ => ⟨late, rfl, rfl⟩
  have leaves := Script.samples_asCall fails (show _ = 4294967295 by decide) (by decide)
  exact repeated_rounded (fun _ => rfl) leaves (by decide) (by decide)

end Retry

end EventRelay

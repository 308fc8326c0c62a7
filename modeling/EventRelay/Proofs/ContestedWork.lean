import EventRelay.Proofs.RetryCourse

/-!
# Retried work under a signal that may be given at any moment

The engine meets the signal in three places: every attempt is raced against it, a look at
it follows a failure, and a wait is raced against it. Whatever races is found unfinished
some number of times before it is over. Between any two of these steps the signal may be
given, and where a wait is over when the signal is there, either may be taken; chance
decides all of this.
-/

namespace EventRelay.Retry

open Run

/-! ## Histories of contested work -/

/-- What may happen while the engine works under the signal. -/
inductive Occurrence (ε α : Type)
  /-- The signal is given. -/
  | given
  /-- An attempt starts. -/
  | called (context : Context)
  /-- The attempt with this number comes to an outcome. -/
  | resolved (attempt : Nat) (outcome : Except ε α)
  /-- The attempt under way is dropped. -/
  | dropped

namespace Occurrence

variable {ε α : Type}

def isGiven : Occurrence ε α → Bool
  | .given => true
  | _ => false

def isCall : Occurrence ε α → Bool
  | .called _ => true
  | _ => false

end Occurrence

/-- What happened, latest first. -/
abbrev Contest (ε α : Type) := List (Occurrence ε α)

namespace Contest

variable {ε α : Type}

/-- Whether the signal has been given. -/
def isGiven (contest : Contest ε α) : Bool :=
  contest.any Occurrence.isGiven

/-- How many attempts were started. -/
def calls (contest : Contest ε α) : Nat :=
  contest.countP Occurrence.isCall

/-- How many attempts were started after the signal was given. -/
def lateCalls : Contest ε α → Nat
  | [] => 0
  | .called _ :: earlier => lateCalls earlier + (isGiven earlier).toNat
  | _ :: earlier => lateCalls earlier

/-- How the last attempt ended, if it has. -/
def lastEnding? : Contest ε α → Option (Raced (Except ε α))
  | [] | .called _ :: _ => none
  | .resolved _ outcome :: _ => some (.finished outcome)
  | .dropped :: _ => some .cutOff
  | .given :: earlier => lastEnding? earlier

variable (contest : Contest ε α)

@[simp]
theorem isGiven_given : isGiven (.given :: contest) = true := rfl

@[simp]
theorem calls_called (context : Context) : calls (.called context :: contest) = calls contest + 1 :=
  List.countP_cons_of_pos rfl

/-- Before the signal is given no attempt is late. -/
theorem lateCalls_eq_zero {contest : Contest ε α} (idle : contest.isGiven = false) :
    contest.lateCalls = 0 := by
  induction contest with
  | nil => rfl
  | cons occurrence earlier ih =>
      cases occurrence with
      | given => contradiction
      | called context =>
          have before : isGiven earlier = false := idle
          rw [lateCalls, ih before, before]
          rfl
      | resolved | dropped => exact ih idle

/-- An attempt that starts may be the first late one. -/
theorem lateCalls_called_le {contest : Contest ε α} (timely : contest.lateCalls = 0)
    (context : Context) : lateCalls (.called context :: contest) ≤ 1 := by
  rw [lateCalls, timely, Nat.zero_add]
  exact Bool.toNat_le _

end Contest

/-! ## What chance decides -/

/-- What is left to chance: the moments at which the signal is given, how long everything
takes, and what is taken when a wait is over and the signal is there as well. -/
structure Chances (χ : Type) where
  /-- Whether the signal is given at this moment. -/
  fires : StateM χ Bool
  /-- How often an attempt is found unfinished before it comes to its outcome. -/
  stalls : Context → StateM χ Nat
  /-- How often a wait is found unfinished before it is over. -/
  naps : Duration → StateM χ Nat
  /-- How a wait ends that is over when the signal is there. -/
  tie : StateM χ Pause

/-- The state of chance, and what happened. -/
structure Contested (χ ε α : Type) where
  chance : χ
  contest : Contest ε α := []

namespace Contested

variable {χ ε α β : Type}

/-- Leave something to chance. -/
def draw (choice : StateM χ β) : StateM (Contested χ ε α) β := fun world =>
  ((choice world.chance).1, { world with chance := (choice world.chance).2 })

/-- Something happens. -/
def add (occurrence : Occurrence ε α) : StateM (Contested χ ε α) Unit := fun world =>
  ((), { world with contest := occurrence :: world.contest })

variable (chances : Chances χ)

/-- Let a moment pass, in which the signal may be given. -/
def lapse : StateM (Contested χ ε α) Unit := do
  if ← draw chances.fires then add .given

/-- Look at the signal. -/
def look : StateM (Contested χ ε α) Bool := do
  lapse chances
  return (← get).contest.isGiven

/-- Race an attempt against the signal. At every point the attempt is asked first. -/
def race (attempt : Nat) (outcome : Except ε α) :
    Nat → StateM (Contested χ ε α) (Raced (Except ε α))
  | 0 => do
      lapse chances
      add (.resolved attempt outcome)
      return .finished outcome
  | stalls + 1 => do
      if ← look chances then
        add .dropped
        return .cutOff
      else race attempt outcome stalls

/-- Race a wait against the signal. Neither is asked first. -/
def rest : Nat → StateM (Contested χ ε α) Pause
  | 0 => do
      if ← look chances then draw chances.tie
      else return .elapsed
  | naps + 1 => do
      if ← look chances then return .interrupted
      else rest naps

/-- The signal as chance gives it. -/
def signal : Signal (Contested χ ε α) where
  isTriggered := look chances
  pause duration := do rest chances (← draw (chances.naps duration))

/-- Attempt work whose attempts have these outcomes. -/
def attempt (outcomes : Nat → Except ε α) (context : Context) :
    StateM (Contested χ ε α) (Raced (Except ε α)) := do
  lapse chances
  add (.called context)
  let calls := (← get).contest.calls
  race chances calls (outcomes calls) (← draw (chances.stalls context))

end Contested

/-- The engine that does the work of a script where chance gives the signal. -/
def Script.contested {χ ε κ α : Type} (script : Script ε κ α) (chances : Chances χ) :
    Engine (Contested χ ε α) ε κ α where
  policy := script.policy
  subject := script.subject
  signal := Contested.signal chances
  note _ := Contested.lapse chances
  operation context := Run.act (Contested.attempt chances script.outcomes context)

/-! ## Assertions about contested work -/

namespace Contested

variable {χ ε α : Type}

/-- An assertion about what happened so far. -/
def Told (holds : Contest ε α → Prop) (session : Session (Contested χ ε α)) : Prop :=
  holds session.world.contest

/-- What holds however often the signal is given. -/
def Steady (holds : Contest ε α → Prop) : Prop :=
  ∀ contest, holds contest → holds (.given :: contest)

theorem Steady.and {left right : Contest ε α → Prop} (steady : Steady left)
    (other : Steady right) : Steady fun contest => left contest ∧ right contest :=
  fun contest holds => ⟨steady contest holds.1, other contest holds.2⟩

variable {chances : Chances χ} {holds : Contest ε α → Prop} {later : Contest ε α → Prop}
  {broken : Session (Contested χ ε α) → Prop}

theorem leads_draw {β : Type} {choice : StateM χ β} :
    Leads (Told holds) (act (draw choice)) (fun _ => Told holds) broken :=
  leads_act fun _ told => told

theorem leads_add {occurrence : Occurrence ε α}
    (adds : ∀ contest, holds contest → later (occurrence :: contest)) :
    Leads (Told holds) (act (add occurrence : StateM (Contested χ ε α) Unit))
      (fun _ => Told later) broken :=
  leads_act fun session told => adds session.world.contest told

theorem leads_lapse (steady : Steady holds) :
    Leads (Told holds) (act (lapse chances)) (fun _ => Told holds) broken := by
  unfold lapse
  rw [act_bind]
  apply leads_draw.bind
  rintro (_ | _)
  · exact leads_act fun _ told => told
  · exact leads_add steady

theorem leads_look (steady : Steady holds) :
    Leads (Told holds) (act (look chances))
      (fun given => Told fun contest => holds contest ∧ contest.isGiven = given) broken := by
  unfold look
  rw [act_bind]
  apply (leads_lapse steady).bind
  intro _
  exact leads_act fun _ told => ⟨told, rfl⟩

/-- A race ends with the outcome of the attempt unless the attempt is dropped, which happens
only after the signal. -/
theorem leads_race {attempt : Nat} {outcome : Except ε α}
    {after : Raced (Except ε α) → Contest ε α → Prop} (steady : Steady holds)
    (resolves : ∀ contest, holds contest →
      after (.finished outcome) (.resolved attempt outcome :: contest))
    (drops : ∀ contest, holds contest → contest.isGiven = true →
      after .cutOff (.dropped :: contest)) (stalls : Nat) :
    Leads (Told holds) (act (race chances attempt outcome stalls))
      (fun ending => Told (after ending)) broken := by
  induction stalls with
  | zero =>
      unfold race
      rw [act_bind]
      apply (leads_lapse steady).bind
      intro _
      rw [act_bind]
      apply (leads_add resolves).bind
      intro _
      exact leads_pure fun _ told => told
  | succ stalls ih =>
      unfold race
      rw [act_bind]
      apply (leads_look steady).bind
      rintro (_ | _)
      · exact ih.imp (fun _ told => told.1) fun _ _ told => told
      · change Leads _ (act (_ >>= _)) _ _
        rw [act_bind]
        apply (leads_add fun contest told => drops contest told.1 told.2).bind
        intro _
        exact leads_pure fun _ told => told

/-- A wait is interrupted only after the signal was given. -/
theorem leads_rest (steady : Steady holds) (naps : Nat) :
    Leads (Told holds) (act (rest chances naps))
      (Engine.Rested (Told holds) (Told fun contest => holds contest ∧ contest.isGiven = true))
      broken := by
  induction naps with
  | zero =>
      unfold rest
      rw [act_bind]
      apply (leads_look steady).bind
      rintro (_ | _)
      · exact leads_pure fun _ told => told.1
      · apply leads_draw.imp fun _ told => told
        rintro (_ | _) session told
        · exact told.1
        · exact told
  | succ naps ih =>
      unfold rest
      rw [act_bind]
      apply (leads_look steady).bind
      rintro (_ | _)
      · exact ih.imp (fun _ told => told.1) fun _ _ told => told
      · exact leads_pure fun _ told => told

end Contested

end EventRelay.Retry

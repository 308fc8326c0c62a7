import EventRelay.Proofs.Likeness

/-!
# Transcripts

What is asked of a world can be taken down beside it, in order. Nothing that answers sees the
transcript, so whatever runs comes to what it comes to without one.
-/

namespace EventRelay

/-- A world with a transcript of what was asked in it, latest last. -/
structure Transcribed (ι ω : Type) where
  world : ω
  transcript : List ι := []

namespace Transcribed

variable {ι ω α : Type}

/-- Do something to the world that is not taken down. -/
def lift (action : StateM ω α) : StateM (Transcribed ι ω) α := fun transcribed =>
  ((action transcribed.world).1, { transcribed with world := (action transcribed.world).2 })

/-- Take down what is asked, and then do it. -/
def ask (item : ι) (action : StateM ω α) : StateM (Transcribed ι ω) α := fun transcribed =>
  ((action transcribed.world).1,
    { world := (action transcribed.world).2
      transcript := transcribed.transcript ++ [item] })

/-- A session without its transcript. -/
def forget (session : Session (Transcribed ι ω)) : Session ω :=
  { session with world := session.world.world }

/-- A session of which nothing was taken down yet. -/
def start (session : Session ω) : Session (Transcribed ι ω) :=
  { session with world := { world := session.world } }

/-- Run something that takes nothing down. -/
def within (program : Run ω α) : Run (Transcribed ι ω) α := fun session =>
  let (result, later) := program (forget session)
  (result, { later with world := { session.world with world := later.world } })

/-! ## Transcripts change nothing -/

/-- It is the world with some transcript. -/
def Of (transcribed : Transcribed ι ω) (world : ω) : Prop :=
  transcribed.world = world

theorem answers_lift (action : StateM ω α) :
    Answers Of (lift action : StateM (Transcribed ι ω) α) action := by
  rintro transcribed _ rfl
  exact ⟨rfl, rfl⟩

theorem answers_ask (item : ι) (action : StateM ω α) : Answers Of (ask item action) action := by
  rintro transcribed _ rfl
  exact ⟨rfl, rfl⟩

theorem forget_eq {session : Session (Transcribed ι ω)} {rest : Session ω}
    (like : Session.Like Of session rest) : forget session = rest :=
  Session.Like.eq ⟨like.world, like.counters, like.samples⟩

theorem like_forget (session : Session (Transcribed ι ω)) :
    Session.Like Of session (forget session) :=
  ⟨rfl, rfl, rfl⟩

theorem matches_within (program : Run ω α) :
    Run.Matches Of (within program : Run (Transcribed ι ω) α) program := by
  intro session rest like
  rw [← forget_eq like]
  exact ⟨rfl, like_forget _⟩

/-- What matches a program comes to what the program comes to. -/
theorem eq_of_matches {program : Run (Transcribed ι ω) α} {other : Run ω α}
    (alike : Run.Matches Of program other) (session : Session ω) :
    other session = ((program (start session)).1, forget (program (start session)).2) := by
  obtain ⟨same, later⟩ := alike (start session) session (like_forget _)
  exact Prod.ext same.symm (forget_eq later).symm

/-! ## Assertions about transcripts -/

/-- The transcript is as told. -/
def Holds (told : List ι → Prop) (session : Session (Transcribed ι ω)) : Prop :=
  told session.world.transcript

variable {told : List ι → Prop} {broken : Session (Transcribed ι ω) → Prop}

theorem leads_lift (action : StateM ω α) :
    Run.Leads (Holds told) (Run.act (lift action)) (fun _ => Holds told) broken :=
  Run.leads_act fun _ holds => holds

theorem leads_leave (sample : Retry.Sample) :
    Run.Leads (Holds (ω := ω) told) (Run.leave sample) (fun _ => Holds told) broken :=
  Run.leads_leave fun _ holds => holds

/-- What is asked is taken down whatever the answer is. -/
theorem leads_ask {item : ι} {asked : List ι → Prop} (action : StateM ω α)
    (step : ∀ transcript, told transcript → asked (transcript ++ [item])) :
    Run.Leads (Holds told) (Run.act (ask item action)) (fun _ => Holds asked) broken :=
  Run.leads_act fun session holds => step session.world.transcript holds

theorem leads_within (program : Run ω α) :
    Run.Leads (Holds told) (within program) (fun _ => Holds told) (Holds told) := by
  intro session holds
  unfold within
  rcases program (forget session) with ⟨overflow | value, later⟩
  · exact holds
  · exact holds

end Transcribed

end EventRelay

import EventRelay.Proofs.Assertions
import EventRelay.Proofs.History

/-!
# What happened since a moment

What runs in a session adds to the history of its world. An assertion may tell of the
part that was added alone: each action takes one such assertion to the next, and
shutdown may be asked for in between.
-/

namespace EventRelay.Relay

open Run

variable {ω α : Type} {history : ω → History} {allowed : History → Happening → Prop}
  {base : History} {told before : History → Prop} {after : α → History → Prop}
  {broken : Session ω → Prop}

/-- What happened since a moment is as told. -/
def Since (history : ω → History) (base : History) (told : History → Prop)
    (session : Session ω) : Prop :=
  ∃ since, history session.world = since ++ base ∧ told since

/-- What is told stays true when shutdown is asked for. -/
def Steady (told : History → Prop) : Prop :=
  ∀ since, told since → told (.shutdown :: since)

theorem Since.imp {weaker : History → Prop} {session : Session ω}
    (holds : Since history base told session) (imp : ∀ since, told since → weaker since) :
    Since history base weaker session := by
  rcases holds with ⟨since, whole, told⟩
  exact ⟨since, whole, imp since told⟩

theorem since_of_lapses {earlier later : History} (steady : Steady told)
    (lapses : History.Lapses earlier later) :
    (∃ since, earlier = since ++ base ∧ told since) →
      ∃ since, later = since ++ base ∧ told since := by
  induction lapses with
  | refl => exact id
  | shutdown _ ih =>
      intro holds
      rcases ih holds with ⟨since, rfl, told⟩
      exact ⟨.shutdown :: since, rfl, steady since told⟩

theorem leads_since {action : StateM ω α} {happening : α → Happening}
    (tells : Tells history allowed action happening) (steady : Steady before)
    (step : ∀ value since, before since → allowed (since ++ base) (happening value) →
      after value (happening value :: since)) :
    Leads (Since history base before) (act action)
      (fun value => Since history base (after value)) broken := by
  apply leads_act
  intro session holds
  rcases tells session.world with ⟨middle, lapses, may, same⟩
  rcases since_of_lapses steady lapses holds with ⟨since, rfl, told⟩
  exact ⟨_, same, step _ since told may⟩

/-- What is told may stay true whatever the answer. -/
theorem leads_keep_since {action : StateM ω α} {happening : α → Happening}
    (tells : Tells history allowed action happening) (steady : Steady told)
    (keep : ∀ value since, told since → told (happening value :: since)) :
    Leads (Since history base told) (act action) (fun _ => Since history base told) broken :=
  leads_since tells steady fun value since holds _ => keep value since holds

theorem leads_silent_since {action : StateM ω α} (silent : Silent history action)
    (steady : Steady told) :
    Leads (Since history base told) (act action) (fun _ => Since history base told) broken := by
  apply leads_act
  intro session holds
  exact since_of_lapses steady (silent session.world) holds

theorem leads_count_since {counter : Counter} :
    Leads (Since history base told) (count counter) (fun _ => Since history base told) broken :=
  leads_count fun _ holds => holds

theorem leads_leave_since {sample : Retry.Sample} :
    Leads (Since history base told) (leave sample) (fun _ => Since history base told) broken :=
  leads_leave fun _ holds => holds

/-- A look at the signal tells whether it has been given. -/
theorem leads_look_since {environment : Environment ω} {whenGiven whenNot : History → Prop}
    (keeps : environment.Keeps history allowed)
    (truthful : ∀ moment given, allowed moment (.looked given) → given = moment.given)
    (steady : Steady before)
    (given : ∀ since, before since → History.given (since ++ base) = true →
      whenGiven (.looked true :: since))
    (notGiven : ∀ since, before since → History.given (since ++ base) = false →
      whenNot (.looked false :: since)) :
    Leads (Since history base before) (act environment.signal.isTriggered)
      (fun found => Since history base (bif found then whenGiven else whenNot)) broken := by
  apply leads_since keeps.isTriggered steady
  rintro (_ | _) since holds may
  · exact notGiven since holds (truthful _ _ may).symm
  · exact given since holds (truthful _ _ may).symm

end EventRelay.Relay

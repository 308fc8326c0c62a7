import EventRelay.Relay.Loop

/-!
# Assertions about what runs in a session

What runs in a session either comes to a value or stops at an overflow. An
assertion about it names what holds of the session beforehand, what holds of the
value and the session afterwards, and what holds of the session left behind by an
overflow.
-/

namespace EventRelay.Run

variable {ω α β : Type}

/-- From a session as in `before`, what runs comes to a value as in `after`, or
leaves a session as in `broken`. -/
def Leads (before : Session ω → Prop) (program : Run ω α) (after : α → Session ω → Prop)
    (broken : Session ω → Prop) : Prop :=
  ∀ session, before session →
    match program session with
    | (.ok value, later) => after value later
    | (.error _, later) => broken later

variable {before : Session ω → Prop} {broken : Session ω → Prop}

/-- An assertion may ask for more beforehand and tell less afterwards. -/
theorem Leads.imp {stronger : Session ω → Prop} {after weaker : α → Session ω → Prop}
    {program : Run ω α} (leads : Leads before program after broken)
    (ask : ∀ session, stronger session → before session)
    (tell : ∀ value session, after value session → weaker value session) :
    Leads stronger program weaker broken := by
  intro session holds
  have led := leads session (ask session holds)
  revert led
  rcases program session with ⟨_ | value, later⟩
  · exact id
  · exact tell value later

/-- An assertion may tell less of what an overflow leaves behind. -/
theorem Leads.mono {weaker : Session ω → Prop} {after : α → Session ω → Prop}
    {program : Run ω α} (leads : Leads before program after broken)
    (tell : ∀ session, broken session → weaker session) : Leads before program after weaker := by
  intro session holds
  have led := leads session holds
  revert led
  rcases program session with ⟨_ | value, later⟩
  · exact tell later
  · exact id

/-- What holds whether there was an overflow or not holds of the session left behind. -/
theorem Leads.reached {reached : Session ω → Prop} {program : Run ω α} {session : Session ω}
    (leads : Leads before program (fun _ => reached) reached) (holds : before session) :
    reached (program session).2 := by
  have led := leads session holds
  revert led
  rcases program session with ⟨_ | value, later⟩
  · exact id
  · exact id

/-- What holds of a session whatever is done next may be asked for case by case. -/
theorem leads_exists {ι : Type} {family : ι → Session ω → Prop} {after : α → Session ω → Prop}
    {program : Run ω α} (leads : ∀ index, Leads (family index) program after broken) :
    Leads (fun session => ∃ index, family index session) program after broken := by
  rintro session ⟨index, holds⟩
  exact leads index session holds

theorem leads_or {other : Session ω → Prop} {after : α → Session ω → Prop} {program : Run ω α}
    (first : Leads before program after broken) (second : Leads other program after broken) :
    Leads (fun session => before session ∨ other session) program after broken := by
  rintro session (holds | holds)
  · exact first session holds
  · exact second session holds

/-- What holds whatever the session is may be relied on. -/
theorem leads_and {fact : Prop} {after : α → Session ω → Prop} {program : Run ω α}
    (leads : fact → Leads before program after broken) :
    Leads (fun session => fact ∧ before session) program after broken := by
  rintro session ⟨known, holds⟩
  exact leads known session holds

theorem leads_pure {value : α} {after : α → Session ω → Prop}
    (holds : ∀ session, before session → after value session) :
    Leads before (pure value) after broken :=
  holds

theorem bind_apply (program : Run ω α) (next : α → Run ω β) (session : Session ω) :
    (program >>= next) session =
      match program session with
      | (.ok value, later) => next value later
      | (.error overflow, later) => (.error overflow, later) := by
  change (match program session with
    | (result, later) => ExceptT.bindCont next result later) = _
  rcases program session with ⟨_ | value, later⟩ <;> rfl

/-- Nothing follows an overflow. -/
theorem bind_error {program : Run ω α} {overflow : Overflow} {session later : Session ω}
    (stops : program session = (.error overflow, later)) (next : α → Run ω β) :
    (program >>= next) session = (.error overflow, later) := by
  rw [bind_apply, stops]

theorem Leads.bind {middle : α → Session ω → Prop} {after : β → Session ω → Prop}
    {program : Run ω α} {next : α → Run ω β} (leads : Leads before program middle broken)
    (rest : ∀ value, Leads (middle value) (next value) after broken) :
    Leads before (program >>= next) after broken := by
  intro session holds
  have led := leads session holds
  rw [bind_apply]
  revert led
  rcases program session with ⟨_ | value, later⟩
  · exact id
  · exact rest value later

theorem leads_act {action : StateM ω α} {after : α → Session ω → Prop}
    (holds : ∀ session, before session →
      after (action session.world).1 { session with world := (action session.world).2 }) :
    Leads before (act action) after broken :=
  holds

theorem leads_count {counter : Counter} {after : Unit → Session ω → Prop}
    (holds : ∀ session, before session →
      after () { session with counters := session.counters.add counter 1 }) :
    Leads before (count counter) after broken :=
  holds

theorem leads_leave {sample : Retry.Sample} {after : Unit → Session ω → Prop}
    (holds : ∀ session, before session →
      after () { session with samples := sample :: session.samples }) :
    Leads before (leave sample) after broken :=
  holds

/-- What follows a check may rely on the result that was checked. -/
theorem leads_check {result : Except Overflow α} {next : α → Run ω β}
    {after : β → Session ω → Prop}
    (rest : ∀ value, result = .ok value → Leads before (next value) after broken)
    (breaks : ∀ session, before session → broken session) :
    Leads before (check result >>= next) after broken := by
  intro session holds
  rw [bind_apply]
  cases result with
  | error overflow => exact breaks session holds
  | ok value => exact rest value rfl session holds

theorem leads_throw {overflow : Overflow} {next : α → Run ω β} {after : β → Session ω → Prop}
    (breaks : ∀ session, before session → broken session) :
    Leads before (throw overflow >>= next) after broken := by
  intro session holds
  rw [bind_apply]
  exact breaks session holds

/-! ## What is done to the world alone -/

theorem act_bind (action : StateM ω α) (next : α → StateM ω β) :
    act (action >>= next) = act action >>= fun value => act (next value) := rfl

/-! ## Attempts -/

/-- An attempt is counted unless it is the first, and then either the mapper refuses or the
message is published. -/
theorem leads_publishAttempt_counted {environment : Relay.Environment ω} {mapper : Mapper}
    {delivery : Relay.Delivery} {context : Retry.Context} {counted : Session ω → Prop}
    {after : Raced (Except Failure Unit) → Session ω → Prop}
    (first : ¬1 < context.attempt → ∀ session, before session → counted session)
    (counts : 1 < context.attempt →
      Leads before (count .publishRetries) (fun _ => counted) broken)
    (breaks : ∀ session, counted session → broken session)
    (refuses : ∀ failure, (mapper delivery.envelope).run = .ok (.error failure) →
      ∀ session, counted session → after (.finished (.error failure)) session)
    (publishes : ∀ message, (mapper delivery.envelope).run = .ok (.ok message) →
      Leads counted (act (environment.publisher.race message delivery.headers)) after broken) :
    Leads before (Relay.publishAttempt environment mapper delivery context) after broken := by
  unfold Relay.publishAttempt
  split
  case' isTrue retries =>
    apply (counts retries).bind
    intro _
  case' isFalse retries =>
    refine Leads.imp ?_ (first retries) fun _ _ holds => holds
  all_goals
    apply leads_check
    · rintro (failure | message) mapped
      · exact leads_pure (refuses failure mapped)
      · exact publishes message mapped
    · exact breaks

/-- What is told may be the same whether an attempt was counted or not. -/
theorem leads_publishAttempt {environment : Relay.Environment ω} {mapper : Mapper}
    {delivery : Relay.Delivery} {context : Retry.Context}
    {after : Raced (Except Failure Unit) → Session ω → Prop}
    (counts : Leads before (count .publishRetries) (fun _ => before) broken)
    (breaks : ∀ session, before session → broken session)
    (refuses : ∀ failure, (mapper delivery.envelope).run = .ok (.error failure) →
      ∀ session, before session → after (.finished (.error failure)) session)
    (publishes : ∀ message, (mapper delivery.envelope).run = .ok (.ok message) →
      Leads before (act (environment.publisher.race message delivery.headers)) after broken) :
    Leads before (Relay.publishAttempt environment mapper delivery context) after broken :=
  leads_publishAttempt_counted (fun _ _ holds => holds) (fun _ => counts) breaks refuses publishes

/-! ## The loop -/

section Loop

variable {relay : Relay} {environment : Relay.Environment ω}
  {turned : Option (Except Failure Unit) → Session ω → Prop}

/-- A relay that stops has asked whether the client is lost, and the answer is its result. -/
theorem leads_stop {stopped : Except Failure Unit → Session ω → Prop}
    (checks : Leads before (act environment.log.fatalError)
      (fun lost => stopped (lost.elim (.ok ()) .error)) broken)
    (notes : ∀ result notice,
      Leads (stopped result) (act (environment.note notice)) (fun _ => stopped result) broken) :
    Leads before (Relay.stop environment) stopped broken := by
  unfold Relay.stop
  apply checks.bind
  rintro (_ | failure)
  · exact (notes _ _).bind fun _ => leads_pure fun _ holds => holds
  · exact (notes _ _).bind fun _ => leads_pure fun _ holds => holds

/-- After a poll a relay goes on, perhaps after a pause, unless the poll came to a failure
that is fatal. -/
theorem leads_goOn {result : Except Failure (Option Relay.Disposition)}
    (notes : ∀ notice, Leads before (act (environment.note notice)) (fun _ => before) broken)
    (goes : (∀ failure, result = .error failure → failure.isFatal = false) →
      ∀ session, before session → turned none session)
    (pauses : result = .ok (some .pendingRedelivery) →
      Leads before (act (environment.signal.pause relay.redeliveryBackoff)) (fun _ => turned none)
        broken)
    (stops : ∀ failure, result = .error failure → failure.isFatal = true →
      Leads before (act environment.trigger) (fun _ => turned (some (.error failure))) broken) :
    Leads before (relay.goOn environment result) turned broken := by
  unfold Relay.goOn
  rcases result with failure | _ | disposition
  · dsimp only
    by_cases fatal : failure.isFatal = true
    · rw [if_pos fatal]
      apply (notes _).bind
      intro _
      exact (stops failure rfl fatal).bind fun _ => leads_pure fun _ holds => holds
    · rw [if_neg fatal]
      apply (notes _).bind
      intro _
      apply leads_pure
      apply goes
      rintro other ⟨⟩
      exact Bool.not_eq_true _ ▸ fatal
  · exact leads_pure (goes nofun)
  · cases disposition with
    | pendingRedelivery =>
        apply (notes _).bind
        intro _
        exact (pauses rfl).bind fun _ => leads_pure fun _ holds => holds
    | _ => exact leads_pure (goes nofun)

/-- A turn looks at the signal, and then either stops or polls. -/
theorem leads_turn {looked : Bool → Session ω → Prop}
    {returned : Except Failure (Option Relay.Disposition) → Session ω → Prop}
    (looks : Leads before (act environment.signal.isTriggered) looked broken)
    (stops : Leads (looked true) (Relay.stop environment) (fun result => turned (some result))
      broken)
    (polls : Leads (looked false) (relay.pollOnce environment) returned broken)
    (goesOn : ∀ result, Leads (returned result) (relay.goOn environment result) turned broken) :
    Leads before (relay.turn environment) turned broken := by
  unfold Relay.turn
  apply looks.bind
  rintro (_ | _)
  · exact polls.bind goesOn
  · exact stops.bind fun _ => leads_pure fun _ holds => holds

/-- What one turn leads to, any number of turns lead to. -/
theorem leads_turns (turn : Leads before (relay.turn environment) turned broken)
    (starts : ∀ session, before session → turned none session)
    (goesOn : ∀ session, turned none session → before session) (count : Nat) :
    Leads before (relay.turns environment count) turned broken := by
  induction count with
  | zero => exact leads_pure starts
  | succ count ih =>
      unfold Relay.turns
      apply turn.bind
      rintro (_ | result)
      · exact ih.imp goesOn fun _ _ holds => holds
      · exact leads_pure fun _ holds => holds

end Loop

end EventRelay.Run

import EventRelay.Proofs.Likeness

/-!
# Relays in like environments

Environments that answer the same are the same to a relay: it settles every record in the same
way, and its loop comes to the same result.
-/

namespace EventRelay.Relay

variable {ω χ : Type}

/-- Two environments answer the same. -/
structure Environment.Like (related : ω → χ → Prop) (environment : Environment ω)
    (other : Environment χ) : Prop where
  poll : ∀ timeout, Answers related (environment.log.poll timeout) (other.log.poll timeout)
  commit : ∀ coordinates,
    Answers related (environment.log.commit coordinates) (other.log.commit coordinates)
  rewind : ∀ coordinates,
    Answers related (environment.log.rewind coordinates) (other.log.rewind coordinates)
  fatalError : Answers related environment.log.fatalError other.log.fatalError
  publish : ∀ message headers, Answers related (environment.publisher.publish message headers)
    (other.publisher.publish message headers)
  race : ∀ message headers, Answers related (environment.publisher.race message headers)
    (other.publisher.race message headers)
  signal : Signal.Like related environment.signal other.signal
  trigger : Answers related environment.trigger other.trigger
  now : Answers related environment.now other.now
  freshId : Answers related environment.freshId other.freshId
  note : ∀ notice, Answers related (environment.note notice) (other.note notice)

variable {related : ω → χ → Prop} {environment : Environment ω} {other : Environment χ}
  (relay : Relay) (like : environment.Like related other)
include like

namespace Environment.Like

open Run

/-! ## Settling -/

theorem matches_commit (coordinates : Coordinates) :
    Matches related (Relay.commit environment coordinates) (Relay.commit other coordinates) := by
  unfold Relay.commit
  apply Matches.act_bind (like.commit coordinates)
  rintro (failure | ⟨⟩)
  · apply (Matches.count _).bind
    intro _
    exact .act_bind (like.note _) fun _ => .pure _
  · exact .pure _

theorem matches_redeliver (coordinates : Coordinates) :
    Matches related (redeliver environment coordinates) (redeliver other coordinates) := by
  unfold redeliver
  apply Matches.act_bind (like.rewind coordinates)
  rintro (failure | ⟨⟩)
  · exact .pure _
  · exact (Matches.count _).bind fun _ => .pure _

/-- Dead letters are published alike. -/
theorem answers_forward (forwarder : Forwarder) (record : SourceRecord) (headers : Headers)
    (failure : Failure) :
    Answers related (forwarder.forward environment record headers failure)
      (forwarder.forward other record headers failure) := by
  unfold Forwarder.forward
  apply like.freshId.bind
  intro id
  apply like.now.bind
  intro now
  apply (like.publish _ _).bind
  rintro (refusal | ⟨⟩)
  · exact (like.note _).bind fun _ => .pure _
  · exact (like.note _).bind fun _ => .pure _

theorem matches_setAside (forwarder : Forwarder) (record : SourceRecord) (headers : Headers)
    (failure : Failure) :
    Matches related (setAside environment forwarder record headers failure)
      (setAside other forwarder record headers failure) := by
  unfold setAside
  apply Matches.ite
  · apply Matches.act_bind (like.answers_forward forwarder record headers failure)
    rintro (refusal | letter)
    · exact (Matches.count _).bind fun _ => like.matches_redeliver _
    · apply (like.matches_commit _).bind
      rintro (refusal | ⟨⟩)
      · exact .pure _
      · exact (Matches.count _).bind fun _ => .pure _
  · exact .act_bind (like.note _) fun _ => like.matches_redeliver _

theorem matches_skip (coordinates : Coordinates) :
    Matches related (skip environment coordinates) (skip other coordinates) := by
  unfold skip
  apply (like.matches_commit coordinates).bind
  rintro (failure | ⟨⟩)
  · exact .pure _
  · exact (Matches.count _).bind fun _ => .pure _

/-! ## Records that come in -/

theorem matches_takeIn (decoder : Outbox.Decoder) (forwarder : Forwarder)
    (record : SourceRecord) :
    Matches related (takeIn environment decoder forwarder record)
      (takeIn other decoder forwarder record) := by
  unfold takeIn
  apply (Matches.count _).bind
  intro _
  apply Matches.ite
  · apply Matches.act_bind (like.note _)
    intro _
    exact (like.matches_skip _).bind fun _ => .pure _
  · apply Matches.act_bind like.now
    intro now
    rcases decoder now record with failure | envelope | reason
    · apply (Matches.count _).bind
      intro _
      apply Matches.act_bind (like.note _)
      intro _
      exact (like.matches_setAside _ _ _ _).bind fun _ => .pure _
    · exact .pure _
    · apply Matches.act_bind (like.note _)
      intro _
      exact (like.matches_skip _).bind fun _ => .pure _

theorem matches_receive (decoder : Outbox.Decoder) (forwarder : Forwarder)
    (timeout : Duration) :
    Matches related (receive environment decoder forwarder timeout)
      (receive other decoder forwarder timeout) := by
  unfold receive
  apply Matches.act_bind (like.poll timeout)
  rintro (failure | record | _ | partition)
  · exact .pure _
  · exact like.matches_takeIn decoder forwarder record
  · exact .pure _
  · exact .pure _

/-! ## Publishing -/

theorem matches_publishAttempt (mapper : Mapper) (delivery : Delivery)
    (context : Retry.Context) :
    Matches related (publishAttempt environment mapper delivery context)
      (publishAttempt other mapper delivery context) := by
  unfold publishAttempt
  by_cases retries : 1 < context.attempt
  case' pos =>
    rw [if_pos retries, if_pos retries]
    apply (Matches.count _).bind
    intro _
  case' neg => rw [if_neg retries, if_neg retries]
  all_goals
    apply (Matches.check _).bind
    rintro (failure | message)
    · exact .pure _
    · exact .act (like.race _ _)

theorem like_engine (mapper : Mapper) (delivery : Delivery) :
    (relay.engine environment mapper delivery).Like related
      (relay.engine other mapper delivery) where
  policy := rfl
  subject := rfl
  signal := like.signal
  note := like.note
  operation := like.matches_publishAttempt mapper delivery

theorem matches_settlePublished (delivery : Delivery) :
    Matches related (settlePublished environment delivery) (settlePublished other delivery) := by
  unfold settlePublished
  apply Matches.act_bind like.signal.isTriggered
  intro given
  apply Matches.ite
  · apply Matches.act_bind (like.note _)
    intro _
    exact .act_bind (like.note _) fun _ => .pure _
  · apply (like.matches_commit _).bind
    rintro (failure | ⟨⟩)
    · exact .pure _
    · apply (Matches.count _).bind
      intro _
      exact .act_bind (like.note _) fun _ => .pure _

theorem matches_settleSurrendered (delivery : Delivery) (surrender : Retry.Surrender Failure) :
    Matches related (relay.settleSurrendered environment delivery surrender)
      (relay.settleSurrendered other delivery surrender) := by
  unfold settleSurrendered
  cases surrender with
  | cancelled attempts last =>
      apply Matches.act_bind (like.note _)
      intro _
      exact .act_bind (like.note _) fun _ => .pure _
  | exhausted attempts failure =>
      exact .act_bind (like.note _) fun _ => like.matches_setAside _ _ _ _
  | notRetryable attempts failure =>
      exact .act_bind (like.note _) fun _ => like.matches_setAside _ _ _ _

theorem matches_process (delivery : Delivery) :
    Matches related (relay.process environment delivery) (relay.process other delivery) := by
  unfold process
  dsimp only
  rcases relay.registry.resolve delivery.envelope.eventType with failure | mapper
  · apply (Matches.count _).bind
    intro _
    exact .act_bind (like.note _) fun _ => like.matches_setAside _ _ _ _
  · apply (like.like_engine relay mapper delivery).run.bind
    rintro (surrender | ⟨⟩)
    · exact like.matches_settleSurrendered relay delivery surrender
    · exact like.matches_settlePublished delivery

/-! ## The loop -/

theorem matches_pollOnce :
    Matches related (relay.pollOnce environment) (relay.pollOnce other) := by
  unfold pollOnce
  apply (like.matches_receive _ _ _).bind
  rintro (failure | _ | disposition | delivery)
  · exact .pure _
  · exact .pure _
  · exact .pure _
  · apply (like.matches_process relay delivery).bind
    rintro (failure | disposition)
    · exact .pure _
    · exact .pure _

theorem matches_stop : Matches related (stop environment) (stop other) := by
  unfold stop
  apply Matches.act_bind like.fatalError
  rintro (_ | failure)
  · exact .act_bind (like.note _) fun _ => .pure _
  · exact .act_bind (like.note _) fun _ => .pure _

theorem matches_goOn (result : Except Failure (Option Disposition)) :
    Matches related (relay.goOn environment result) (relay.goOn other result) := by
  unfold goOn
  rcases result with failure | _ | disposition
  · apply Matches.ite
    · apply Matches.act_bind (like.note _)
      intro _
      exact .act_bind like.trigger fun _ => .pure _
    · exact .act_bind (like.note _) fun _ => .pure _
  · exact .pure _
  · cases disposition with
    | pendingRedelivery =>
        apply Matches.act_bind (like.note _)
        intro _
        exact .act_bind (like.signal.pause _) fun _ => .pure _
    | _ => exact .pure _

theorem matches_turn : Matches related (relay.turn environment) (relay.turn other) := by
  unfold turn
  apply Matches.act_bind like.signal.isTriggered
  intro given
  apply Matches.ite
  · exact like.matches_stop.bind fun _ => .pure _
  · exact (like.matches_pollOnce relay).bind fun result => like.matches_goOn relay result

/-- The induction is on the turns that may be made. -/
theorem matches_turns (count : Nat) :
    Matches related (relay.turns environment count) (relay.turns other count) := by
  induction count with
  | zero => exact .pure _
  | succ count ih =>
      unfold turns
      apply (like.matches_turn relay).bind
      rintro (_ | result)
      · exact ih
      · exact .pure _

/-- In like environments a relay runs alike. -/
theorem matches_run (most : Nat) :
    Matches related (relay.run environment most) (relay.run other most) := by
  unfold run
  exact .act_bind (like.note _) fun _ => like.matches_turns relay most

end Environment.Like

end EventRelay.Relay

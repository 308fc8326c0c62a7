import EventRelay.Relay.Setup

/-!
# What settings set up

Settings that are accepted have lists of kinds that are understood. That is all that it takes for
a retry policy, and with it for a relay.
-/

namespace EventRelay

variable {settings : Settings} {policy : Retry.Policy FailureKind}

namespace Settings

theorem check_eq_none_iff {fails : Prop} [Decidable fails] {fault : SettingsFault}
    {rest : Option SettingsFault} :
    (if fails then some fault else rest) = none ↔ ¬ fails ∧ rest = none := by
  by_cases failed : fails <;> simp [failed]

theorem validate_eq_ok_iff_fault? : settings.validate = .ok () ↔ settings.fault? = none := by
  unfold validate
  cases settings.fault? <;> simp

/-- The policy that is set, from the kinds that the lists name. -/
theorem retryPolicy_eq_ok_iff :
    settings.retryPolicy = .ok policy ↔
      ∃ handle ignore, readKinds settings.handleKinds = .ok handle ∧
        readKinds settings.ignoreKinds = .ok ignore ∧
          policy = {
            strategy := settings.strategy
            limit := settings.retryLimit
            filter := {
              handle
              ignore := ignore ++ structuralKinds.filter fun kind => !ignore.contains kind } } := by
  unfold retryPolicy
  rcases readKinds settings.handleKinds with fault | handle
  · simp [bind, Except.bind]
  · rcases readKinds settings.ignoreKinds with fault | ignore
    · simp [bind, Except.bind]
    · simp [bind, Except.bind, pure, Except.pure, eq_comm]

/-- The last check reads both lists. -/
theorem exists_retryPolicy (accepted : settings.validate = .ok ()) :
    ∃ policy, settings.retryPolicy = .ok policy := by
  have sound := validate_eq_ok_iff_fault?.mp accepted
  simp only [fault?, check_eq_none_iff] at sound
  obtain ⟨-, -, -, -, -, -, kinds⟩ := sound
  split at kinds
  · contradiction
  · contradiction
  next handled ignored => exact ⟨_, retryPolicy_eq_ok_iff.mpr ⟨_, _, handled, ignored, rfl⟩⟩

theorem strategy_of_retryPolicy (made : settings.retryPolicy = .ok policy) :
    policy.strategy = settings.strategy := by
  obtain ⟨handle, ignore, -, -, rfl⟩ := retryPolicy_eq_ok_iff.mp made
  rfl

theorem maxRetries_of_retryPolicy (made : settings.retryPolicy = .ok policy) :
    policy.maxRetries =
      if settings.retryStrategy = .never then 0 else settings.retryLimit.toNat := by
  obtain ⟨handle, ignore, -, -, rfl⟩ := retryPolicy_eq_ok_iff.mp made
  simp only [Retry.Policy.maxRetries, strategy]
  cases settings.retryStrategy <;> rfl

end Settings

namespace Relay

variable {relay : Relay} {registry : Registry} {decoder : Outbox.Decoder}

/-- The relay that is set up, from the policy that is set. -/
theorem ofSettings_eq_ok_iff :
    ofSettings settings registry decoder = .ok relay ↔
      settings.validate = .ok () ∧ ∃ policy, settings.retryPolicy = .ok policy ∧
        relay = {
          decoder
          registry
          policy
          forwarder := .ofSettings settings
          pollTimeout := settings.pollTimeout
          redeliveryBackoff := settings.redeliveryBackoff } := by
  unfold ofSettings
  rcases settings.validate with fault | ⟨⟩
  · simp [bind, Except.bind]
  · rcases settings.retryPolicy with fault | policy
    · simp [bind, Except.bind]
    · simp [bind, Except.bind, pure, Except.pure, eq_comm]

/-- Settings that are accepted set up a relay with the policy that is set. -/
theorem exists_ofSettings_of_retryPolicy (accepted : settings.validate = .ok ())
    (made : settings.retryPolicy = .ok policy) (registry : Registry) (decoder : Outbox.Decoder) :
    ∃ relay, ofSettings settings registry decoder = .ok relay ∧ relay.policy = policy :=
  ⟨_, ofSettings_eq_ok_iff.mpr ⟨accepted, policy, made, rfl⟩, rfl⟩

/-- Settings without a fault set up a relay. -/
theorem exists_ofSettings (registry : Registry) (decoder : Outbox.Decoder)
    (sound : settings.fault? = none) :
    ∃ relay, ofSettings settings registry decoder = .ok relay := by
  have accepted := Settings.validate_eq_ok_iff_fault?.mpr sound
  obtain ⟨policy, made⟩ := Settings.exists_retryPolicy accepted
  obtain ⟨relay, setUp, -⟩ := exists_ofSettings_of_retryPolicy accepted made registry decoder
  exact ⟨relay, setUp⟩

end Relay

end EventRelay

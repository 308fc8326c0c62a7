import EventRelay.Relay.Loop
import EventRelay.Settings.Basic

/-!
# Setting up a relay

A relay is set up from its settings. Settings that are not usable set up none.
-/

namespace EventRelay

/-- The forwarder that settings ask for. -/
def Relay.Forwarder.ofSettings (settings : Settings) : Relay.Forwarder where
  suffix := settings.deadLetterSuffix
  group := settings.groupId
  enabled := settings.deadLetterEnabled

/-- The relay that settings ask for. -/
def Relay.ofSettings (settings : Settings) (registry : Registry) (decoder : Outbox.Decoder) :
    Except SettingsFault Relay := do
  settings.validate
  let policy ← settings.retryPolicy
  return {
    decoder
    registry
    policy
    forwarder := .ofSettings settings
    pollTimeout := settings.pollTimeout
    redeliveryBackoff := settings.redeliveryBackoff }

end EventRelay

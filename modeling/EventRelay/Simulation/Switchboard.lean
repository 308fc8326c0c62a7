import EventRelay.Dictionary
import EventRelay.Simulation.Clock

/-!
# A board of signals

Several signals share one time. A signal has handles, which can give it, and
listeners, which can wait for it; all are known by names of their own. A signal
without handles is never given.
-/

namespace EventRelay.Simulation

/-- Signals with their handles and listeners. -/
structure Switchboard where
  now : Nat := 0
  /-- The signals, each on a clock of its own that shows the shared time. -/
  signals : List Clock := []
  /-- The signal that a handle can give. -/
  handles : Dictionary Nat := ∅
  /-- The signal that a listener waits for; some listeners wait for none. -/
  listeners : Dictionary (Option Nat) := ∅

namespace Switchboard

/-- A board without signals. -/
def empty : Switchboard := { now := 0 }

/-- Put up a new signal, with a handle. -/
def addSignal (board : Switchboard) (name : String) : Switchboard :=
  { board with
    signals := board.signals ++ [{ now := board.now }]
    handles := board.handles.insert name board.signals.length }

/-- Give a signal another handle. -/
def addHandle (board : Switchboard) (name : String) (signal : Nat) : Switchboard :=
  { board with handles := board.handles.insert name signal }

/-- Take a handle away. -/
def dropHandle (board : Switchboard) (name : String) : Switchboard :=
  { board with handles := board.handles.erase name }

/-- Give a signal another listener, or add one that listens to nothing. -/
def addListener (board : Switchboard) (name : String) (signal : Option Nat) : Switchboard :=
  { board with listeners := board.listeners.insert name signal }

/-- Give a signal. -/
def trigger (board : Switchboard) (signal : Nat) : Switchboard :=
  { board with signals := board.signals.modify signal Clock.trigger }

/-- Have a signal given after so many milliseconds. -/
def schedule (board : Switchboard) (signal millis : Nat) : Switchboard :=
  { board with signals := board.signals.modify signal fun clock => clock.schedule millis }

/-- Whether a signal has been given. -/
def isTriggered (board : Switchboard) (signal : Nat) : Bool :=
  board.signals[signal]?.any Clock.given

/-- Let time pass up to a moment. -/
def passTo (board : Switchboard) (moment : Nat) : Switchboard :=
  { board with
    now := moment
    signals := board.signals.map fun clock => clock.passTo moment }

/-- Wait for a signal at most so many milliseconds, and tell whether it was given. -/
def wait (board : Switchboard) (signal : Option Nat) (millis : Nat) : Bool × Switchboard :=
  let limit := board.now + millis
  match signal.bind fun signal => board.signals[signal]? with
  | some clock =>
      if clock.given then (true, board)
      else if millis = 0 then (false, board)
      else
        let (pause, clock) := clock.waitUntil limit
        (pause = .interrupted, board.passTo clock.now)
  | none => (false, if millis = 0 then board else board.passTo limit)

end Switchboard

end EventRelay.Simulation

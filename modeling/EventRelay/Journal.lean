import EventRelay.Decimal.Integer

/-!
# The journal

What happens is noted for operators: a level, a sentence, and the facts it is
about. Notes never influence what happens.
-/

namespace EventRelay

/-- How urgent a notice is. -/
inductive Level
  | debug
  | info
  | warning
  | error
  deriving DecidableEq, Repr

/-- The label that a level is shown under. -/
def Level.label : Level → String
  | .debug => "DEBUG"
  | .info => "INFO"
  | .warning => "WARN"
  | .error => "ERROR"

/-- A fact that goes with a notice. -/
inductive Fact
  | text (value : String)
  | number (value : Nat)
  | integer (value : Int)
  | flag (value : Bool)
  deriving DecidableEq, Repr

/-- One entry of the journal. -/
structure Notice where
  level : Level
  message : String
  facts : List (String × Fact)
  deriving DecidableEq, Repr

/-- A world that is journaled. -/
structure Journaled (ω : Type) where
  world : ω
  /-- What was noted, latest first. -/
  latest : List Notice := []

namespace Journaled

variable {ω α : Type}

/-- Do something to the world alone. -/
def act (action : StateM ω α) : StateM (Journaled ω) α := fun journaled =>
  let (value, world) := action journaled.world
  (value, { journaled with world })

/-- Add a notice. -/
def note (notice : Notice) : StateM (Journaled ω) Unit := fun journaled =>
  ((), { journaled with latest := notice :: journaled.latest })

/-- What was noted, in order. -/
def notices (journaled : Journaled ω) : List Notice :=
  journaled.latest.reverse

@[simp]
theorem act_world (action : StateM ω α) (journaled : Journaled ω) :
    (act action journaled).2.world = (action journaled.world).2 := rfl

@[simp]
theorem act_value (action : StateM ω α) (journaled : Journaled ω) :
    (act action journaled).1 = (action journaled.world).1 := rfl

@[simp]
theorem act_notices (action : StateM ω α) (journaled : Journaled ω) :
    (act action journaled).2.notices = journaled.notices := rfl

@[simp]
theorem note_world (notice : Notice) (journaled : Journaled ω) :
    (note notice journaled).2.world = journaled.world := rfl

@[simp]
theorem note_notices (notice : Notice) (journaled : Journaled ω) :
    (note notice journaled).2.notices = journaled.notices ++ [notice] := by
  simp [note, notices]

end Journaled

end EventRelay

import EventRelay.Proofs.DoubleValues
import EventRelay.Proofs.SettingUp

/-!
# Sound settings

Settings are sound when every field means something and the fields go together. Every check but
one asks for what it names. That of the growth factor turns away what is less than one, and what
is no number is not less than one, so it is taken with the numbers that are large enough.
-/

namespace EventRelay

/-- A text is the name of a kind of failure, in any case and with blanks around it. -/
def FailureKind.Named (text : String) : Prop :=
  ∃ kind : FailureKind, foldCase kind.name = foldCase (Text.trim text)

namespace Settings

/-- Every field but the growth factor means something, and the fields go together. -/
structure Coherent (settings : Settings) : Prop where
  topic : ∃ topic ∈ settings.sourceTopics, Text.isBlank topic = false
  group : Text.isBlank settings.groupId = false
  pollTimeout : 0 < settings.pollTimeoutMillis
  bounds : settings.exponentialMinMillis ≤ settings.exponentialMaxMillis
  schedule : settings.retryStrategy = .interval → settings.intervalScheduleMillis ≠ []
  kinds : ∀ entry ∈ settings.handleKinds ++ settings.ignoreKinds,
    Text.isBlank entry = false → FailureKind.Named entry

/-- Settings that a relay can work by. -/
structure Sound (settings : Settings) : Prop extends Coherent settings where
  factor : 1 ≤ settings.exponentialFactor

end Settings

/-! ## What each check asks for -/

theorem exists_mapM_ok_iff {fault input output : Type} (read : input → Except fault output)
    (inputs : List input) :
    (∃ outputs, inputs.mapM read = .ok outputs) ↔
      ∀ input ∈ inputs, ∃ output, read input = .ok output := by
  induction inputs with
  | nil => simp [pure, Except.pure]
  | cons first rest ih =>
      rw [List.mapM_cons, List.forall_mem_cons, ← ih]
      rcases read first with fault | output
      · simp [bind, Except.bind]
      · rcases rest.mapM read with fault | outputs <;> simp [bind, Except.bind, pure, Except.pure]

theorem exists_readKinds_iff (names : List String) :
    (∃ kinds, readKinds names = .ok kinds) ↔
      ∀ name ∈ names, Text.isBlank name = false → FailureKind.Named name := by
  rw [readKinds, exists_mapM_ok_iff]
  simp only [List.mem_filter, Bool.not_eq_true', and_imp]
  refine forall₃_congr fun name _ _ => ?_
  simp only [FailureKind.Named, ← FailureKind.ofName?_eq_some_iff]
  cases FailureKind.ofName? name <;> simp

namespace Settings

variable {settings : Settings}

theorem topics_ne_nil_iff :
    settings.topics ≠ [] ↔ ∃ topic ∈ settings.sourceTopics, Text.isBlank topic = false := by
  simp only [← Bool.not_eq_true, Text.isBlank_iff_trim_eq_empty, topics]
  simp

theorem exists_readKinds_both_iff :
    (∃ kinds, readKinds settings.handleKinds = .ok kinds) ∧
        (∃ kinds, readKinds settings.ignoreKinds = .ok kinds) ↔
      ∀ entry ∈ settings.handleKinds ++ settings.ignoreKinds,
        Text.isBlank entry = false → FailureKind.Named entry := by
  simp only [exists_readKinds_iff, List.forall_mem_append]

/-- The settings that hold where nothing but the growth factor is set are coherent. -/
theorem coherent_of_factor (factor : Float) : Coherent { exponentialFactor := factor } where
  topic := ⟨"outbox.events", List.mem_cons_self, by decide⟩
  group := show Text.isBlank "outbox-relay" = false by decide
  pollTimeout := show (0 : UInt64) < 1000 by decide
  bounds := show (100 : UInt64) ≤ 10000 by decide
  schedule _ := List.cons_ne_nil _ _
  kinds := exists_readKinds_both_iff.mp ⟨⟨_, rfl⟩, ⟨_, rfl⟩⟩

/-! ## What is accepted -/

/-- The checks accept coherent settings whose growth factor is not less than one. -/
theorem fault?_eq_none_iff :
    settings.fault? = none ↔ settings.Coherent ∧ ¬ settings.exponentialFactor < 1 := by
  unfold fault?
  simp only [check_eq_none_iff, List.isEmpty_iff, Bool.not_eq_true, UInt64.not_lt,
    ← UInt64.pos_iff_ne_zero, not_and]
  constructor
  · rintro ⟨topic, group, pollTimeout, factor, bounds, schedule, kinds⟩
    refine ⟨⟨topics_ne_nil_iff.mp topic, group, pollTimeout, bounds, schedule, ?_⟩, factor⟩
    apply exists_readKinds_both_iff.mp
    split at kinds
    · contradiction
    · contradiction
    next handled ignored => exact ⟨⟨_, handled⟩, ⟨_, ignored⟩⟩
  · rintro ⟨⟨topic, group, pollTimeout, bounds, schedule, kinds⟩, factor⟩
    refine ⟨topics_ne_nil_iff.mpr topic, group, pollTimeout, factor, bounds, schedule, ?_⟩
    obtain ⟨⟨_, handled⟩, ⟨_, ignored⟩⟩ := exists_readKinds_both_iff.mpr kinds
    rw [handled, ignored]

theorem validate_eq_ok_iff :
    settings.validate = .ok () ↔ settings.Coherent ∧ ¬ settings.exponentialFactor < 1 := by
  rw [validate_eq_ok_iff_fault?, fault?_eq_none_iff]

/-- One is a number. -/
theorem isNaN_one : (1 : Float).isNaN = false := by
  decide +kernel

theorem sound_iff :
    settings.Sound ↔
      (settings.Coherent ∧ ¬ settings.exponentialFactor < 1) ∧
        settings.exponentialFactor.isNaN = false := by
  constructor
  · intro sound
    obtain ⟨large, -, number⟩ := Double.le_iff_not_lt.mp sound.factor
    exact ⟨⟨sound.toCoherent, large⟩, number⟩
  · rintro ⟨⟨coherent, large⟩, number⟩
    exact { coherent with factor := Double.le_iff_not_lt.mpr ⟨large, isNaN_one, number⟩ }

/-- The settings that are accepted are the sound ones, except that a growth factor that is no
number is accepted where all the rest is sound. -/
theorem accepts_sound_iff :
    (settings.validate = .ok () ↔ settings.Sound) ↔
      ¬ (settings.Coherent ∧ settings.exponentialFactor.isNaN = true) := by
  rw [validate_eq_ok_iff, sound_iff]
  have allowed : settings.exponentialFactor.isNaN = true → ¬ settings.exponentialFactor < 1 :=
    fun none => Double.not_lt_of_isNaN (.inl none)
  rw [← Bool.not_eq_true]
  tauto

theorem accepts_sound_iff_notANumber :
    ¬ (({ exponentialFactor := 0 / 0 } : Settings).validate = .ok () ↔
      ({ exponentialFactor := 0 / 0 } : Settings).Sound) :=
  mt accepts_sound_iff.mp (not_not.mpr ⟨coherent_of_factor (0 / 0), by decide +kernel⟩)

end Settings

end EventRelay

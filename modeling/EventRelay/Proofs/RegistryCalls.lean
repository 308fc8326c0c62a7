import EventRelay.Registry

/-!
# A registry after any calls

Mappers are registered by one call after another, and some calls are refused. A registration
changes the registry in place, so that a refusal could leave something behind; it does not.
What a registry then holds is told by the calls alone: under each event type the mapper of the
first call for it that succeeded, and nothing else.
-/

namespace EventRelay.Registry

/-- A call that registers a mapper, with the registry it found and the one it left. -/
structure Call where
  eventType : String
  mapper : Mapper
  before : Registry
  outcome : Except SettingsFault Unit
  after : Registry

/-- A call succeeded. -/
def Call.succeeds (call : Call) : Bool :=
  call.outcome.isOk

/-- A call succeeded for an event type. -/
def Call.registers (call : Call) (eventType : String) : Bool :=
  call.succeeds && call.eventType == eventType

/-- From one registry to another, each call finds what the call before it left. -/
def Linked : Registry → List Call → Registry → Prop
  | first, [], last => first = last
  | first, call :: calls, last => call.before = first ∧ Linked call.after calls last

/-- Call for one mapper after another, whatever comes of the calls. -/
def enterAll : List (String × Mapper) → StateM Registry (List Call)
  | [] => return []
  | (eventType, mapper) :: rest => do
      let before ← get
      let outcome ← (enter eventType mapper).run
      let after ← get
      return ⟨eventType, mapper, before, outcome, after⟩ :: (← enterAll rest)

/-! ## One call -/

variable {registry : Registry} {eventType : String} {mapper : Mapper}

/-- A registration is refused for a name that is blank or taken, and makes an entry else. -/
theorem register_cases (registry : Registry) (eventType : String) (mapper : Mapper) :
    ((Text.isBlank eventType = true ∨ (registry.mappers.get? eventType).isSome = true) ∧
        ∃ fault, registry.register eventType mapper = .error fault) ∨
      Text.isBlank eventType = false ∧ registry.mappers.get? eventType = none ∧
        registry.register eventType mapper = .ok ⟨registry.mappers.insert eventType mapper⟩ := by
  rw [register_eq_ite]
  by_cases blank : Text.isBlank eventType = true
  · exact .inl ⟨.inl blank, _, if_pos blank⟩
  · rw [if_neg blank]
    by_cases taken : registry.mappers.contains eventType = true
    · exact .inl ⟨.inr taken, _, if_pos taken⟩
    · refine .inr ⟨Bool.eq_false_iff.mpr blank, ?_, if_neg taken⟩
      exact Option.not_isSome_iff_eq_none.mp taken

/-! ## What the calls tell -/

/-- What a registry holds is told by calls. -/
structure Reflects (registry : Registry) (calls : List Call) : Prop where
  found : ∀ eventType, registry.mappers.get? eventType =
    (calls.find? fun call => call.registers eventType).map Call.mapper
  counted : registry.size = calls.countP Call.succeeds

/-- A call is refused exactly if its name is blank or was registered before, and a refusal leaves
the registry as it was. -/
structure Call.Sound (call : Call) (earlier : List Call) : Prop where
  refused_iff : call.succeeds = false ↔
    Text.isBlank call.eventType = true ∨ ∃ other ∈ earlier, other.registers call.eventType = true
  unchanged : call.succeeds = false → call.after = call.before

theorem reflects_empty : Reflects empty [] :=
  ⟨fun _ => rfl, rfl⟩

variable {calls : List Call}

theorem Reflects.isSome_iff (reflects : Reflects registry calls) (eventType : String) :
    (registry.mappers.get? eventType).isSome = true ↔
      ∃ call ∈ calls, call.registers eventType = true := by
  rw [reflects.found, Option.isSome_map, List.find?_isSome]

/-- A refused call tells nothing new. -/
theorem Reflects.append_refused (reflects : Reflects registry calls) {call : Call}
    (refused : call.succeeds = false) : Reflects registry (calls ++ [call]) where
  found name := by
    rw [reflects.found, List.find?_append, List.find?_singleton]
    simp [Call.registers, refused]
  counted := by
    rw [reflects.counted, List.countP_append, List.countP_singleton, refused]
    rfl

/-- A call that succeeds tells of the entry it made. -/
theorem Reflects.append_entered (reflects : Reflects registry calls) {call : Call}
    (entered : call.succeeds = true) (fresh : registry.mappers.get? call.eventType = none) :
    Reflects ⟨registry.mappers.insert call.eventType call.mapper⟩ (calls ++ [call]) where
  found name := by
    rw [Dictionary.get?_insert, List.find?_append, List.find?_singleton]
    by_cases named : name = call.eventType
    · subst named
      have unregistered : calls.find? (fun other => other.registers call.eventType) = none :=
        Option.map_eq_none_iff.mp ((reflects.found call.eventType).symm.trans fresh)
      have itself : call.registers call.eventType = true := by simp [Call.registers, entered]
      rw [unregistered, itself, if_pos rfl]
      rfl
    · have another : call.registers name = false := by simp [Call.registers, Ne.symm named]
      rw [reflects.found name, another, if_neg named]
      simp
  counted := by
    rw [List.countP_append, List.countP_singleton, entered, ← reflects.counted]
    exact Dictionary.size_insert_of_fresh fresh _

/-- One more call is sound, and what it leaves is told by the calls up to it. -/
theorem Reflects.enter (reflects : Reflects registry calls) (eventType : String)
    (mapper : Mapper) :
    let done := (enter eventType mapper).run registry
    let call : Call := ⟨eventType, mapper, registry, done.1, done.2⟩
    Reflects done.2 (calls ++ [call]) ∧ call.Sound calls := by
  intro done call
  have ran : done = _ := run_enter registry eventType mapper
  rcases register_cases registry eventType mapper with
    ⟨barred, fault, refused⟩ | ⟨unblank, fresh, entered⟩
  · rw [refused] at ran
    have fails : call.succeeds = false := congrArg (fun done => done.1.isOk) ran
    have same : done.2 = registry := congrArg Prod.snd ran
    rw [reflects.isSome_iff] at barred
    rw [same]
    exact ⟨reflects.append_refused fails, iff_of_true fails barred, fun _ => same⟩
  · rw [entered] at ran
    have works : call.succeeds = true := congrArg (fun done => done.1.isOk) ran
    have later : done.2 = ⟨registry.mappers.insert eventType mapper⟩ := congrArg Prod.snd ran
    have new : ¬ ∃ call ∈ calls, call.registers eventType = true := by
      rw [← reflects.isSome_iff, fresh]
      exact Bool.false_ne_true
    rw [later]
    refine ⟨reflects.append_entered works fresh, iff_of_false ?_ ?_, ?_⟩
    · exact fun fails => Bool.noConfusion (works.symm.trans fails)
    · rintro (blank | registered)
      · exact Bool.noConfusion (unblank.symm.trans blank)
      · exact new registered
    · exact fun fails => Bool.noConfusion (works.symm.trans fails)

/-! ## Calls one after another -/

theorem enterAll_cons (eventType : String) (mapper : Mapper) (rest : List (String × Mapper))
    (registry : Registry) :
    enterAll ((eventType, mapper) :: rest) registry =
      let done := (enter eventType mapper).run registry
      let others := enterAll rest done.2
      (⟨eventType, mapper, registry, done.1, done.2⟩ :: others.1, others.2) :=
  rfl

/-- Calls that follow others are sound, and what they leave is told by all of them. -/
theorem Reflects.enterAll (entries : List (String × Mapper))
    (reflects : Reflects registry calls) :
    let done := enterAll entries registry
    Reflects done.2 (calls ++ done.1) ∧
      ∀ earlier call later, done.1 = earlier ++ call :: later → call.Sound (calls ++ earlier) := by
  induction entries generalizing registry calls with
  | nil =>
      refine ⟨?_, ?_⟩
      · change Reflects registry (calls ++ [])
        rwa [List.append_nil]
      · intro earlier call later none
        exact absurd none.symm (List.append_ne_nil_of_right_ne_nil _ (List.cons_ne_nil _ _))
  | cons entry rest ih =>
      obtain ⟨eventType, mapper⟩ := entry
      obtain ⟨reflects, sound⟩ := reflects.enter eventType mapper
      obtain ⟨reflected, sounds⟩ := ih reflects
      rw [List.append_assoc] at reflected
      refine ⟨reflected, ?_⟩
      intro earlier call later split
      rcases List.cons_eq_append_iff.mp split with ⟨rfl, first⟩ | ⟨before, rfl, others⟩
      · obtain rfl := (List.cons.inj first).1
        rw [List.append_nil]
        exact sound
      · have found := sounds before call later others
        rwa [List.append_assoc] at found

theorem linked_enterAll (entries : List (String × Mapper)) (registry : Registry) :
    Linked registry (enterAll entries registry).1 (enterAll entries registry).2 := by
  induction entries generalizing registry with
  | nil => rfl
  | cons entry rest ih => exact ⟨rfl, ih _⟩

/-- The calls that are made are those that were asked for. -/
theorem entries_enterAll (entries : List (String × Mapper)) (registry : Registry) :
    (enterAll entries registry).1.map (fun call => (call.eventType, call.mapper)) = entries := by
  induction entries generalizing registry with
  | nil => rfl
  | cons entry rest ih => exact congrArg (entry :: ·) (ih _)

/-- Mappers are all registered exactly if every call for them succeeds. -/
theorem registerAll_eq_ok_iff {entries : List (String × Mapper)} {later : Registry} :
    registry.registerAll entries = .ok later ↔
      (∀ call ∈ (enterAll entries registry).1, call.succeeds = true) ∧
        (enterAll entries registry).2 = later := by
  induction entries generalizing registry with
  | nil =>
      change (Except.ok registry : Except SettingsFault Registry) = .ok later ↔
        (∀ call ∈ ([] : List Call), call.succeeds = true) ∧ registry = later
      simp
  | cons entry rest ih =>
      obtain ⟨eventType, mapper⟩ := entry
      have ran := run_enter registry eventType mapper
      change (registry.register eventType mapper >>= fun later => later.registerAll rest) =
        .ok later ↔ _
      rw [enterAll_cons, List.forall_mem_cons]
      rcases register_cases registry eventType mapper with
        ⟨-, fault, refused⟩ | ⟨-, -, entered⟩
      · rw [refused] at ran ⊢
        rw [ran]
        exact iff_of_false nofun fun all => Bool.noConfusion all.1.1
      · rw [entered] at ran ⊢
        rw [ran]
        exact ih.trans (and_congr_left fun _ => (and_iff_right rfl).symm)

/-- An event type is resolved to the mapper of the first call that registered it. -/
theorem Reflects.resolve_eq (reflects : Reflects registry calls) (eventType : String) :
    registry.resolve eventType =
      match calls.find? fun call => call.registers eventType with
      | some call => .ok call.mapper
      | none => .error (.unmapped eventType) := by
  rw [resolve, reflects.found]
  cases calls.find? fun call => call.registers eventType <;> rfl

/-- Of any calls on an empty registry, those fail that name a blank event type or one registered
before, and they change nothing. The registry resolves the event types that were registered, and
only those, to the mapper of the first call for them that succeeded; it lists them increasing,
and counts them. Mappers that are registered together make a registry if no call for them fails,
and then this one. -/
theorem calls_on_empty (entries : List (String × Mapper)) :
    let done := enterAll entries empty
    let calls := done.1
    let registry := done.2
    calls.map (fun call => (call.eventType, call.mapper)) = entries ∧
      Linked empty calls registry ∧
      (∀ earlier call later, calls = earlier ++ call :: later → call.Sound earlier) ∧
      (∀ eventType, registry.resolve eventType =
        match calls.find? fun call => call.registers eventType with
        | some call => .ok call.mapper
        | none => .error (.unmapped eventType)) ∧
      registry.eventTypes.Pairwise (· < ·) ∧
      (∀ eventType, eventType ∈ registry.eventTypes ↔
        ∃ call ∈ calls, call.registers eventType = true) ∧
      registry.size = registry.eventTypes.length ∧
      registry.size = calls.countP Call.succeeds ∧
      ∀ later, empty.registerAll entries = .ok later ↔
        (∀ call ∈ calls, call.succeeds = true) ∧ registry = later := by
  intro done calls registry
  obtain ⟨reflects, sound⟩ := reflects_empty.enterAll entries
  refine ⟨entries_enterAll entries empty, linked_enterAll entries empty, sound,
    reflects.resolve_eq, registry.mappers.pairwise_keys, fun eventType => ?_,
    (List.length_map _).symm, reflects.counted, fun _ => registerAll_eq_ok_iff⟩
  exact Dictionary.mem_keys_iff.trans (reflects.isSome_iff eventType)

end EventRelay.Registry

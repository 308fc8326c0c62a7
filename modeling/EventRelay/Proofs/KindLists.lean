import EventRelay.Proofs.SoundSettings

/-!
# What lists of kinds ask for

Settings list kinds of failure by name: those to retry and those never to retry. Of an entry
nothing counts but its spelling, which is the entry in lower case and without the blanks around
it, and of a list nothing counts but which spellings it has. Settings that are accepted make a
policy, and that policy retries what the lists ask for.
-/

namespace EventRelay

namespace FailureKind

/-- What counts of an entry: case and the blanks around it do not. -/
def spelling (entry : String) : List Char :=
  foldCase (Text.trim entry)

/-- An entry names a kind. -/
def IsNamedBy (kind : FailureKind) (entry : String) : Prop :=
  spelling entry = foldCase kind.name

instance (kind : FailureKind) (entry : String) : Decidable (kind.IsNamedBy entry) :=
  inferInstanceAs (Decidable (_ = _))

/-- Two lists have the same entries, whatever their order, repetition, case and blanks. -/
def SameEntries (left right : List String) : Prop :=
  ∀ spelled, spelled ∈ left.map spelling ↔ spelled ∈ right.map spelling

variable {entry : String} {kind : FailureKind} {left right : List String}

theorem ofName?_eq_some_iff_isNamedBy : ofName? entry = some kind ↔ kind.IsNamedBy entry :=
  ofName?_eq_some_iff.trans eq_comm

theorem named_iff : Named entry ↔ ∃ kind : FailureKind, kind.IsNamedBy entry :=
  exists_congr fun _ => eq_comm

theorem isBlank_iff_spelling : Text.isBlank entry = true ↔ spelling entry = [] := by
  rw [Text.isBlank_iff_trim_eq_empty, spelling, foldCase, List.map_eq_nil_iff,
    String.toList_eq_nil_iff]

/-- A blank entry names no kind. -/
theorem isBlank_of_isNamedBy (named : kind.IsNamedBy entry) : Text.isBlank entry = false := by
  have spelled : spelling entry = foldCase kind.name := named
  rw [← Bool.not_eq_true, isBlank_iff_spelling, spelled]
  cases kind <;> decide

/-- What is told of entries by their spelling holds of some entry of both lists or of neither. -/
theorem SameEntries.exists_iff (same : SameEntries left right) (told : List Char → Prop) :
    (∃ entry ∈ left, told (spelling entry)) ↔ ∃ entry ∈ right, told (spelling entry) := by
  have spelled (entries : List String) : (∃ entry ∈ entries, told (spelling entry)) ↔
      ∃ text, text ∈ entries.map spelling ∧ told text := by
    simp only [List.mem_map, exists_exists_and_eq_and]
  rw [spelled, spelled]
  exact exists_congr fun text => and_congr_left fun _ => same text

theorem SameEntries.forall_iff (same : SameEntries left right) (told : List Char → Prop) :
    (∀ entry ∈ left, told (spelling entry)) ↔ ∀ entry ∈ right, told (spelling entry) := by
  have some := not_congr (same.exists_iff fun spelled => ¬ told spelled)
  push Not at some
  exact some

end FailureKind

/-! ## Lists that are understood -/

open FailureKind

theorem mem_iff_of_mapM_ok {fault input output : Type} {read : input → Except fault output}
    {inputs : List input} {outputs : List output} (done : inputs.mapM read = .ok outputs)
    (value : output) : value ∈ outputs ↔ ∃ input ∈ inputs, read input = .ok value := by
  induction inputs generalizing outputs with
  | nil =>
      obtain rfl : [] = outputs := Except.ok.inj done
      simp
  | cons first rest ih =>
      rw [List.mapM_cons] at done
      rcases head : read first with fault | output
      · rw [head] at done
        contradiction
      · rcases tail : rest.mapM read with fault | others
        · rw [head, tail] at done
          contradiction
        · rw [head, tail] at done
          obtain rfl : output :: others = outputs := Except.ok.inj done
          simp [ih tail, head, eq_comm]

section Lists

variable {names : List String} {kinds : List FailureKind}

/-- A list that is understood lists the kinds that its entries name. -/
theorem mem_readKinds_iff (read : readKinds names = .ok kinds) (kind : FailureKind) :
    kind ∈ kinds ↔ ∃ entry ∈ names, kind.IsNamedBy entry := by
  rw [mem_iff_of_mapM_ok read]
  simp only [List.mem_filter, Bool.not_eq_true']
  refine exists_congr fun entry => ?_
  rw [← ofName?_eq_some_iff_isNamedBy]
  constructor
  · rintro ⟨⟨mem, -⟩, found⟩
    refine ⟨mem, ?_⟩
    split at found
    next other named => rw [named, Except.ok.inj found]
    next => cases found
  · rintro ⟨mem, named⟩
    refine ⟨⟨mem, isBlank_of_isNamedBy (ofName?_eq_some_iff_isNamedBy.mp named)⟩, ?_⟩
    rw [named]

/-- It lists no kind exactly if all its entries are blank. -/
theorem readKinds_eq_nil_iff (read : readKinds names = .ok kinds) :
    kinds = [] ↔ ∀ entry ∈ names, Text.isBlank entry = true := by
  have understood := (exists_readKinds_iff names).mp ⟨kinds, read⟩
  rw [List.eq_nil_iff_forall_not_mem]
  simp only [mem_readKinds_iff read]
  constructor
  · intro none entry mem
    refine Bool.not_eq_false _ ▸ fun unblank => ?_
    obtain ⟨kind, named⟩ := named_iff.mp (understood entry mem unblank)
    exact none kind ⟨entry, mem, named⟩
  · rintro blank kind ⟨entry, mem, named⟩
    exact Bool.noConfusion ((blank entry mem).symm.trans (isBlank_of_isNamedBy named))

/-- A list with the entries of one that is understood is understood. -/
theorem FailureKind.SameEntries.exists_readKinds {others : List String}
    (same : SameEntries others names) (read : readKinds names = .ok kinds) :
    ∃ kinds, readKinds others = .ok kinds := by
  have understood := (exists_readKinds_iff names).mp ⟨kinds, read⟩
  refine (exists_readKinds_iff others).mpr ?_
  simp only [← Bool.not_eq_true, isBlank_iff_spelling, named_iff, IsNamedBy] at understood ⊢
  exact (same.forall_iff fun spelled =>
    ¬spelled = [] → ∃ kind : FailureKind, spelled = foldCase kind.name).mpr understood

end Lists

/-! ## What the policy retries -/

namespace Settings

variable {settings other : Settings} {policy : Retry.Policy FailureKind} {kind : FailureKind}

/-- Settings ask for failures of a kind to be retried. -/
structure AsksFor (settings : Settings) (kind : FailureKind) : Prop where
  decodable : kind ≠ .decode
  mapped : kind ≠ .mappingNotFound
  heeded : ∀ entry ∈ settings.ignoreKinds, ¬ kind.IsNamedBy entry
  handled : (∀ entry ∈ settings.handleKinds, Text.isBlank entry = true) ∨
    ∃ entry ∈ settings.handleKinds, kind.IsNamedBy entry

/-- The lists of two settings ask for the same. -/
theorem asksFor_iff (handled : SameEntries other.handleKinds settings.handleKinds)
    (ignored : SameEntries other.ignoreKinds settings.ignoreKinds) :
    other.AsksFor kind ↔ settings.AsksFor kind := by
  have blank := handled.forall_iff fun spelled => spelled = []
  have named := handled.exists_iff fun spelled => spelled = foldCase kind.name
  have heeded := ignored.forall_iff fun spelled => spelled ≠ foldCase kind.name
  simp only [← isBlank_iff_spelling] at blank
  constructor
  · rintro ⟨decodable, mapped, ignores, handles⟩
    exact ⟨decodable, mapped, heeded.mp ignores, handles.imp blank.mp named.mp⟩
  · rintro ⟨decodable, mapped, ignores, handles⟩
    exact ⟨decodable, mapped, heeded.mpr ignores, handles.imp blank.mpr named.mpr⟩

theorem retries_iff_asksFor (made : settings.retryPolicy = .ok policy) :
    policy.filter.retries kind = true ↔ settings.AsksFor kind := by
  obtain ⟨handle, ignore, handled, ignored, rfl⟩ := retryPolicy_eq_ok_iff.mp made
  rw [Retry.Filter.retries_iff, readKinds_eq_nil_iff handled, mem_readKinds_iff handled]
  have denied : kind ∈ ignore ++ (structuralKinds.filter fun kind => !ignore.contains kind) ↔
      kind ∈ ignore ∨ kind ∈ structuralKinds := by
    simp only [List.mem_append, List.mem_filter, List.contains_eq_mem, Bool.not_eq_true',
      decide_eq_false_iff_not]
    tauto
  rw [denied, mem_readKinds_iff ignored, structuralKinds, List.mem_pair]
  constructor
  · rintro ⟨allowed, handles⟩
    push Not at allowed
    exact ⟨allowed.2.1, allowed.2.2, allowed.1, handles⟩
  · rintro ⟨decodable, mapped, heeded, handles⟩
    refine ⟨?_, handles⟩
    push Not
    exact ⟨heeded, decodable, mapped⟩

/-- Settings that are accepted set up a relay, which may retry as often as they say, and which
retries the kinds that they ask for: those that the lists name, whatever the order, the number,
the case and the blanks of the entries. -/
theorem policy_of_lists (accepted : settings.validate = .ok ()) :
    ∃ policy, settings.retryPolicy = .ok policy ∧
      (∀ registry decoder, ∃ relay,
        Relay.ofSettings settings registry decoder = .ok relay ∧ relay.policy = policy) ∧
      policy.maxRetries =
        (if settings.retryStrategy = .never then 0 else settings.retryLimit.toNat) ∧
      (∀ kind, policy.filter.retries kind = true ↔ settings.AsksFor kind) ∧
      ∀ other : Settings, SameEntries other.handleKinds settings.handleKinds →
        SameEntries other.ignoreKinds settings.ignoreKinds →
          ∃ same, other.retryPolicy = .ok same ∧
            ∀ kind, same.filter.retries kind = policy.filter.retries kind := by
  obtain ⟨policy, made⟩ := exists_retryPolicy accepted
  refine ⟨policy, made, Relay.exists_ofSettings_of_retryPolicy accepted made,
    maxRetries_of_retryPolicy made, fun kind => retries_iff_asksFor made, ?_⟩
  · intro other handled ignored
    obtain ⟨handle, ignore, handles, ignores, -⟩ := retryPolicy_eq_ok_iff.mp made
    obtain ⟨_, understood⟩ := handled.exists_readKinds handles
    obtain ⟨_, also⟩ := ignored.exists_readKinds ignores
    have remade := retryPolicy_eq_ok_iff.mpr ⟨_, _, understood, also, rfl⟩
    refine ⟨_, remade, fun kind => Bool.eq_iff_iff.mpr ?_⟩
    rw [retries_iff_asksFor remade, retries_iff_asksFor made]
    exact asksFor_iff handled ignored

theorem policy_of_lists_respelled :
    let settings : Settings :=
      { handleKinds := [" timeoutERROR", "", "DecodeError"], ignoreKinds := [] }
    let other : Settings :=
      { handleKinds := ["decodeerror", "\t", "TimeoutError", "TimeoutError "], ignoreKinds := [] }
    settings.validate = .ok () ∧ SameEntries other.handleKinds settings.handleKinds ∧
      ∃ policy same, settings.retryPolicy = .ok policy ∧ other.retryPolicy = .ok same ∧
        policy.maxRetries = 5 ∧ policy.filter.retries .timeout = true ∧
          policy.filter.retries .decode = false ∧ policy.filter.retries .transient = false ∧
            ∀ kind, same.filter.retries kind = policy.filter.retries kind := by
  intro settings other
  have accepted : settings.validate = .ok () :=
    validate_eq_ok_iff.mpr ⟨{ coherent_of_factor 2 with
      kinds := exists_readKinds_both_iff.mp ⟨⟨_, rfl⟩, ⟨_, rfl⟩⟩ }, by decide +kernel⟩
  have within : ∀ text ∈ other.handleKinds.map spelling,
      text ∈ settings.handleKinds.map spelling := by decide
  have without : ∀ text ∈ settings.handleKinds.map spelling,
      text ∈ other.handleKinds.map spelling := by decide
  have listed : SameEntries other.handleKinds settings.handleKinds := fun spelled =>
    ⟨within spelled, without spelled⟩
  obtain ⟨policy, made, -, most, retries, respelled⟩ := policy_of_lists accepted
  obtain ⟨same, remade, agrees⟩ := respelled other listed fun _ => Iff.rfl
  have timeout : settings.AsksFor .timeout :=
    { decodable := nofun
      mapped := nofun
      heeded := nofun
      handled := .inr ⟨" timeoutERROR", List.mem_cons_self, by decide⟩ }
  have transient : ¬ settings.AsksFor .transient := by
    rintro ⟨-, -, -, blank | named⟩
    · exact absurd (blank "DecodeError" (by decide)) (by decide)
    · exact absurd named (by decide)
  refine ⟨accepted, listed, policy, same, made, remade, most, (retries _).mpr timeout, ?_, ?_,
    agrees⟩
  · exact Bool.eq_false_iff.mpr (mt (retries _).mp fun asks => asks.decodable rfl)
  · exact Bool.eq_false_iff.mpr (mt (retries _).mp transient)

end Settings

end EventRelay

import EventRelay.Outbox.Decoding
import Mathlib.Data.List.Forall2
import Mathlib.Data.List.Induction

/-!
# What documents denote

A list or object denotes a value exactly if each of its parts denotes one, and a document
that denotes a value denotes it also where it may be nested deeper. What an object denotes
under a name is what the last of its members by that name denotes.
-/

namespace EventRelay.Json

theorem mapM_eq_some_iff {α β : Type} {read : α → Option β} {items : List α}
    {values : List β} :
    items.mapM read = some values ↔
      List.Forall₂ (fun item value => read item = some value) items values := by
  induction items generalizing values with
  | nil => simp [eq_comm]
  | cons item rest ih =>
      rw [List.mapM_cons]
      cases values <;> simp [Option.bind_eq_some_iff, ih, List.forall₂_cons]

/-- A member as written denotes an entry. -/
def Denotes (depth : Nat) (member : Bytes × Tree) (entry : String × Value) : Prop :=
  readQuoted? member.1 = some entry.1 ∧ Value.ofTree? depth member.2 = some entry.2

theorem ofTree?_list {depth : Nat} {items : List Tree} {value : Value} :
    Value.ofTree? (depth + 1) (.list items) = some value ↔
      ∃ values,
        List.Forall₂ (fun item value => Value.ofTree? depth item = some value) items values ∧
          .list values = value := by
  simp [Value.ofTree?, mapM_eq_some_iff]

theorem ofTree?_object {depth : Nat} {members : List (Bytes × Tree)} {value : Value} :
    Value.ofTree? (depth + 1) (.object members) = some value ↔
      ∃ entries, List.Forall₂ (Denotes depth) members entries ∧
        Value.object (orderMembers entries) = value := by
  have reads : (fun (member : Bytes × Tree) (entry : String × Value) => (do
      let name ← readQuoted? member.1
      let value ← Value.ofTree? depth member.2
      return (name, value)) = some entry) = Denotes depth := by
    funext member entry
    obtain ⟨name, value⟩ := entry
    simp [Denotes, Option.bind_eq_some_iff]
  rw [Value.ofTree?, ← reads]
  simp [Option.bind_eq_some_iff, mapM_eq_some_iff]

theorem ofTree?_succ {depth : Nat} {tree : Tree} {value : Value}
    (denotes : Value.ofTree? depth tree = some value) :
    Value.ofTree? (depth + 1) tree = some value := by
  induction depth generalizing tree value with
  | zero =>
      cases tree with
      | list | object => simp [Value.ofTree?] at denotes
      | _ => simpa [Value.ofTree?] using denotes
  | succ depth ih =>
      cases tree with
      | list items =>
          rw [ofTree?_list] at denotes ⊢
          obtain ⟨values, held, rfl⟩ := denotes
          exact ⟨values, held.imp fun _ _ denotes => ih denotes, rfl⟩
      | object members =>
          rw [ofTree?_object] at denotes ⊢
          obtain ⟨entries, held, rfl⟩ := denotes
          exact ⟨entries, held.imp fun _ _ denotes => ⟨denotes.1, ih denotes.2⟩, rfl⟩
      | _ => simpa [Value.ofTree?] using denotes

/-- A document that may be nested deeper denotes what it denotes. -/
theorem ofTree?_mono {depth deeper : Nat} (le : depth ≤ deeper) {tree : Tree} {value : Value}
    (denotes : Value.ofTree? depth tree = some value) :
    Value.ofTree? deeper tree = some value := by
  induction le with
  | refl => exact denotes
  | step _ ih => exact ofTree?_succ ih

/-! ## Looking up members -/

theorem lookup_eq_lookupEntry {α : Type} (name : String) (entries : List (String × α)) :
    entries.lookup name = lookupEntry name entries := by
  induction entries with
  | nil => rfl
  | cons entry rest ih =>
      rw [List.lookup_cons, lookupEntry, ih]
      by_cases same : name = entry.1
      · simp [same]
      · simp [same, beq_eq_false_iff_ne.mpr same]

/-- Of several members under one name the last counts. -/
theorem lookup_orderMembers {α : Type} (name : String) (entries : List (String × α)) :
    (orderMembers entries).lookup name =
      (entries.filter fun entry => entry.1 == name).getLast?.map Prod.snd := by
  rw [lookup_eq_lookupEntry]
  induction entries using List.reverseRecOn with
  | nil => rfl
  | append_singleton before entry ih =>
      have last : orderMembers (before ++ [entry]) =
          insertEntry entry.1 entry.2 (orderMembers before) := by
        simp [orderMembers]
      rw [last, lookupEntry_insertEntry, ih, List.filter_append]
      by_cases same : name = entry.1
      · simp [same]
      · simp [same, Ne.symm same]

variable {depth : Nat} {members : List (Bytes × Tree)} {value : Value} {name : String}

/-- Whether a member goes by a name. -/
def goesBy (name : String) (member : Bytes × Tree) : Bool :=
  readQuoted? member.1 == some name

theorem Denotes.filter {entries : List (String × Value)}
    (held : List.Forall₂ (Denotes depth) members entries) (name : String) :
    List.Forall₂ (Denotes depth) (members.filter (goesBy name))
      (entries.filter fun entry => entry.1 == name) := by
  apply List.rel_filter _ held
  rintro member entry ⟨read, _⟩
  simp [goesBy, read]

/-- The only member by a name is what an object denotes under it. -/
theorem member?_of_only {raw : Bytes} {tree : Tree}
    (denotes : Value.ofTree? (depth + 1) (.object members) = some value)
    (only : members.filter (goesBy name) = [(raw, tree)]) :
    ∃ inner, Value.ofTree? depth tree = some inner ∧
      Outbox.member? name value = some inner := by
  obtain ⟨entries, held, rfl⟩ := ofTree?_object.mp denotes
  have named := Denotes.filter held name
  rw [only] at named
  obtain ⟨entry, rest, ⟨_, inner⟩, none, found⟩ := List.forall₂_cons_left_iff.mp named
  rw [List.forall₂_nil_left_iff.mp none] at found
  refine ⟨entry.2, inner, ?_⟩
  rw [Outbox.member?, lookup_orderMembers, found]
  rfl

end EventRelay.Json

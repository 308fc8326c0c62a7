import EventRelay.Proofs.AddedMembers
import EventRelay.Proofs.WrittenValues

/-!
# Values that documents denote

A document gives a value whose lists and objects nest no deeper than the limit and whose members
stand in increasing order of names. Such a value is written as a document that is within the
limit again, so wherever its numbers are integers it is what its own text denotes.
-/

namespace EventRelay.Json

open Value

/-- A value nests no deeper than so many levels, and the members of its objects are in order. -/
def Value.Within : Nat → Value → Prop
  | _, .null | _, .bool _ | _, .number _ | _, .text _ => True
  | 0, .list _ | 0, .object _ => False
  | depth + 1, .list items => ∀ item ∈ items, Within depth item
  | depth + 1, .object members =>
      members.Pairwise (fun a b => a.1 < b.1) ∧ ∀ member ∈ members, Within depth member.2

namespace Value.Within

variable {depth : Nat} {value : Value} {items : List Value} {members : List (String × Value)}

theorem succ (within : Within depth value) : Within (depth + 1) value := by
  induction depth generalizing value with
  | zero =>
      cases value with
      | list | object => exact within.elim
      | _ => trivial
  | succ depth ih =>
      cases value with
      | list items => exact fun item mem => ih (within item mem)
      | object members => exact ⟨within.1, fun member mem => ih (within.2 member mem)⟩
      | _ => trivial

theorem ordered (within : Within depth (.object members)) :
    members.Pairwise fun a b => a.1 < b.1 := by
  cases depth with
  | zero => exact within.elim
  | succ depth => exact within.1

/-- An item of a list nests no deeper than the list. -/
theorem item (within : Within depth (.list items)) {item : Value} (mem : item ∈ items) :
    Within depth item := by
  cases depth with
  | zero => exact within.elim
  | succ depth => exact (within item mem).succ

/-- A member of an object nests no deeper than the object. -/
theorem member (within : Within depth (.object members)) {member : String × Value}
    (mem : member ∈ members) : Within depth member.2 := by
  cases depth with
  | zero => exact within.elim
  | succ depth => exact (within.2 member mem).succ

end Value.Within

/-! ## What a document gives -/

theorem exists_mem_of_forall₂ {α β : Type} {relates : α → β → Prop} {left : List α}
    {right : List β} (held : List.Forall₂ relates left right) {value : β} (mem : value ∈ right) :
    ∃ item ∈ left, relates item value := by
  induction held with
  | nil => contradiction
  | @cons item other _ _ related _ ih =>
      rcases List.mem_cons.mp mem with rfl | mem
      · exact ⟨item, List.mem_cons_self, related⟩
      · obtain ⟨found, mem, related⟩ := ih mem
        exact ⟨found, List.mem_cons_of_mem _ mem, related⟩

theorem mem_of_mem_orderMembers {α : Type} {entries : List (String × α)} {entry : String × α}
    (mem : entry ∈ orderMembers entries) : entry ∈ entries := by
  induction entries using List.reverseRecOn with
  | nil => exact mem
  | append_singleton before last ih =>
      rw [orderMembers, List.foldl_append] at mem
      rcases mem_insertEntry mem with rfl | earlier
      · exact List.mem_append_right _ (List.mem_singleton_self _)
      · exact List.mem_append_left _ (ih earlier)

/-- What a document denotes is in order and within the levels that it may have. -/
theorem within_of_ofTree? {depth : Nat} {tree : Tree} {value : Value}
    (denotes : Value.ofTree? depth tree = some value) : Within depth value := by
  induction depth generalizing tree value with
  | zero =>
      cases tree with
      | list | object => simp [Value.ofTree?] at denotes
      | null | bool => cases denotes; trivial
      | number | text =>
          obtain ⟨_, _, rfl⟩ := Option.map_eq_some_iff.mp denotes
          trivial
  | succ depth ih =>
      cases tree with
      | list items =>
          obtain ⟨values, held, rfl⟩ := ofTree?_list.mp denotes
          intro value mem
          obtain ⟨item, _, denoted⟩ := exists_mem_of_forall₂ held mem
          exact ih denoted
      | object members =>
          obtain ⟨entries, held, rfl⟩ := ofTree?_object.mp denotes
          refine ⟨pairwise_orderMembers entries, ?_⟩
          intro entry mem
          obtain ⟨member, _, denoted⟩ := exists_mem_of_forall₂ held (mem_of_mem_orderMembers mem)
          exact ih denoted.2
      | null | bool => cases denotes; trivial
      | number | text =>
          obtain ⟨_, _, rfl⟩ := Option.map_eq_some_iff.mp denotes
          trivial

/-! ## Written values -/

/-- Members in order stay as they are. -/
theorem orderMembers_of_pairwise {α : Type} {entries : List (String × α)}
    (ordered : entries.Pairwise fun a b => a.1 < b.1) : orderMembers entries = entries := by
  have distinct : (entries.map Prod.fst).Nodup := by
    rw [List.Nodup, List.pairwise_map]
    refine ordered.imp ?_
    rintro left right less same
    rw [same] at less
    exact String.lt_irrefl _ less
  apply (perm_orderMembers distinct).eq_of_pairwise _ (pairwise_orderMembers entries) ordered
  intro left right _ _ less greater
  exact absurd (String.lt_trans less greater) (String.lt_irrefl _)

theorem itemTrees_eq_map (items : List Value) : itemTrees items = items.map Value.tree := by
  induction items with
  | nil => rfl
  | cons item rest ih => rw [itemTrees, ih, List.map_cons]

theorem memberTrees_eq_map (members : List (String × Value)) :
    memberTrees members = members.map fun member => (quoted member.1, member.2.tree) := by
  induction members with
  | nil => rfl
  | cons member rest ih => rw [memberTrees, ih, List.map_cons]

/-- A value in order and within so many levels is denoted by the document that it is written
as. -/
theorem Value.Integral.ofTree?_tree {value : Value} (integral : value.Integral) {depth : Nat}
    (within : Within depth value) : Value.ofTree? depth value.tree = some value := by
  induction integral generalizing depth with
  | null | bool => cases depth <;> rfl
  | @number value least most =>
      have denoted : (Number.integer value).numeral.number? = some (.integer value) := by
        rw [numeral_integer]
        exact Numeral.number?_ofInt least most
      cases depth <;> rw [Value.tree, Value.ofTree?, denoted] <;> rfl
  | text text =>
      cases depth <;> rw [Value.tree, Value.ofTree?, readQuoted?_quoted] <;> rfl
  | @list items _ ih =>
      cases depth with
      | zero => exact within.elim
      | succ depth =>
          rw [Value.tree, itemTrees_eq_map, ofTree?_list]
          refine ⟨items, ?_, rfl⟩
          rw [List.forall₂_map_left_iff, List.forall₂_same]
          exact fun item mem => ih item mem (within item mem)
  | @object members _ ih =>
      cases depth with
      | zero => exact within.elim
      | succ depth =>
          rw [Value.tree, memberTrees_eq_map, ofTree?_object]
          refine ⟨members, ?_, congrArg Value.object (orderMembers_of_pairwise within.1)⟩
          rw [List.forall₂_map_left_iff, List.forall₂_same]
          exact fun member mem =>
            ⟨readQuoted?_quoted member.1, ih member mem (within.2 member mem)⟩

/-- Written and read again, a value without fractions is what it was. -/
theorem Value.Integral.value_parse?_toBytes {value : Value} (integral : value.Integral)
    (within : Within depthLimit value) : Value.parse? value.toBytes = some value := by
  rw [Value.parse?, integral.parse?_toBytes]
  exact integral.ofTree?_tree within

end EventRelay.Json

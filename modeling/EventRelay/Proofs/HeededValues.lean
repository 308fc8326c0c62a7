import EventRelay.Json.Scalar
import EventRelay.Orders.Event
import EventRelay.Proofs.DenotedValues

/-!
# What typed readers heed

A typed reader looks at a document as it is written. It takes nothing from it, however, but what
the document denotes: two documents of one value are read alike, whatever the order of members
and whatever the spelling of texts. Only a member named twice is another matter, which free-form
reading takes once and typed reading refuses.
-/

namespace EventRelay.Json

/-! ## Documents that name members once -/

/-- No object in a document names a member twice. -/
inductive Tree.Distinct : Tree → Prop
  | null : Distinct .null
  | bool (value : Bool) : Distinct (.bool value)
  | number (numeral : Numeral) : Distinct (.number numeral)
  | text (raw : Bytes) : Distinct (.text raw)
  | list {items : List Tree} (each : ∀ item ∈ items, Distinct item) : Distinct (.list items)
  | object {members : List (Bytes × Tree)}
      (apart : members.Pairwise fun a b => readQuoted? a.1 ≠ readQuoted? b.1)
      (each : ∀ member ∈ members, Distinct member.2) : Distinct (.object members)

/-- A document denotes a value and names no member twice. -/
structure Tree.Means (tree : Tree) (value : Value) : Prop where
  distinct : tree.Distinct
  denotes : ∃ depth, Value.ofTree? depth tree = some value

/-- A value in order is what the document means that it is written as. -/
theorem Value.Integral.means_tree {value : Value} (integral : value.Integral) {depth : Nat}
    (within : value.Within depth) : value.tree.Means value where
  distinct := by
    induction integral generalizing depth with
    | null => exact .null
    | bool value => exact .bool value
    | number => exact .number _
    | text text => exact .text _
    | @list items _ ih =>
        rw [Value.tree, itemTrees_eq_map]
        apply Tree.Distinct.list
        intro tree mem
        obtain ⟨item, held, rfl⟩ := List.mem_map.mp mem
        exact ih item held (within.item held)
    | @object members _ ih =>
        rw [Value.tree, memberTrees_eq_map]
        apply Tree.Distinct.object
        · rw [List.pairwise_map]
          refine within.ordered.imp ?_
          intro left right less same
          rw [readQuoted?_quoted, readQuoted?_quoted] at same
          rw [Option.some.inj same] at less
          exact String.lt_irrefl _ less
        · intro tree mem
          obtain ⟨member, held, rfl⟩ := List.mem_map.mp mem
          exact ih member held (within.member held)
  denotes := ⟨depth, integral.ofTree?_tree within⟩

/-- A member as written means an entry. -/
def MeansEntry (member : Bytes × Tree) (entry : String × Value) : Prop :=
  readQuoted? member.1 = some entry.1 ∧ member.2.Means entry.2

/-- What a document means, by its shape. -/
inductive Meaning : Tree → Value → Prop
  | null : Meaning .null .null
  | bool (value : Bool) : Meaning (.bool value) (.bool value)
  | number {numeral : Numeral} {number : Number} (denotes : numeral.number? = some number) :
      Meaning (.number numeral) (.number number)
  | text {raw : Bytes} {text : String} (read : readQuoted? raw = some text) :
      Meaning (.text raw) (.text text)
  | list {items : List Tree} {values : List Value} (each : List.Forall₂ Tree.Means items values) :
      Meaning (.list items) (.list values)
  | object {members : List (Bytes × Tree)} {entries ordered : List (String × Value)}
      (each : List.Forall₂ MeansEntry members entries)
      (distinct : (entries.map Prod.fst).Nodup) (perm : ordered.Perm entries) :
      Meaning (.object members) (.object ordered)

namespace Tree.Means

variable {tree one other : Tree} {value : Value}

theorem meaning (means : tree.Means value) : Meaning tree value := by
  obtain ⟨distinct, depth, denotes⟩ := means
  cases distinct with
  | null => cases depth <;> cases denotes <;> exact .null
  | bool content => cases depth <;> cases denotes <;> exact .bool content
  | number =>
      cases depth <;> obtain ⟨_, found, rfl⟩ := Option.map_eq_some_iff.mp denotes <;>
        exact .number found
  | text =>
      cases depth <;> obtain ⟨_, read, rfl⟩ := Option.map_eq_some_iff.mp denotes <;>
        exact .text read
  | @list items each =>
      cases depth with
      | zero => cases denotes
      | succ depth =>
          obtain ⟨values, denoted, rfl⟩ := ofTree?_list.mp denotes
          have both := (List.forall₂_and_left _ _).mpr ⟨each, denoted⟩
          exact .list (both.imp fun _ _ means => ⟨means.1, depth, means.2⟩)
  | @object members apart each =>
      cases depth with
      | zero => cases denotes
      | succ depth =>
          obtain ⟨entries, denoted, rfl⟩ := ofTree?_object.mp denotes
          have names : members.map (fun member => readQuoted? member.1) =
              entries.map (fun entry => some entry.1) := by
            rw [← List.forall₂_eq_eq_eq, List.forall₂_map_left_iff, List.forall₂_map_right_iff]
            exact denoted.imp fun _ _ denotes => denotes.1
          rw [← List.pairwise_map, names, List.pairwise_map] at apart
          have both := (List.forall₂_and_left _ _).mpr ⟨each, denoted⟩
          have distinct : (entries.map Prod.fst).Nodup := by
            rw [List.Nodup, List.pairwise_map]
            exact apart.imp fun differ same => differ (congrArg some same)
          exact .object (both.imp fun _ _ means => ⟨means.2.1, means.1, depth, means.2.2⟩) distinct
            (perm_orderMembers distinct)

theorem text? (means : tree.Means value) : tree.text? = value.text? := by
  cases means.meaning with
  | text read => exact read
  | _ => rfl

/-- Whether a number is within bounds is decided by the integer that it is. -/
theorem integer? (means : tree.Means value) (least most : Int) :
    tree.integer? least most = value.integer?.bind fun number =>
      if least ≤ number ∧ number ≤ most then some number else none := by
  cases means.meaning with
  | @number numeral number denotes =>
      rw [Tree.integer?, denotes]
      cases number <;> rfl
  | _ => rfl

end Tree.Means

/-! ## Readers -/

/-- A reader takes from documents nothing but what they mean. -/
def Heeds {α : Type} (read : Tree → Option α) : Prop :=
  ∀ {one other : Tree} {value : Value}, one.Means value → other.Means value →
    read one = read other

theorem heeds_text : Heeds Tree.text? :=
  fun first second => first.text?.trans second.text?.symm

theorem heeds_uuid : Heeds Tree.uuid? := by
  intro one other value first second
  rw [Tree.uuid?, heeds_text first second, Tree.uuid?]

theorem heeds_instant : Heeds Tree.instant? := by
  intro one other value first second
  rw [Tree.instant?, heeds_text first second, Tree.instant?]

theorem heeds_uint32 : Heeds Tree.uint32? := by
  intro one other value first second
  rw [Tree.uint32?, first.integer?, Tree.uint32?, second.integer?]

theorem heeds_int64 : Heeds Tree.int64? := by
  intro one other value first second
  rw [Tree.int64?, first.integer?, Tree.int64?, second.integer?]

variable {α : Type} {read : Tree → Option α}

theorem Heeds.mapM (heeds : Heeds read) {items others : List Tree} {values : List Value}
    (first : List.Forall₂ Tree.Means items values)
    (second : List.Forall₂ Tree.Means others values) : items.mapM read = others.mapM read := by
  induction first generalizing others with
  | nil => cases second; rfl
  | cons means _ ih =>
      cases second with
      | cons also later => rw [List.mapM_cons, List.mapM_cons, heeds means also, ih later]

theorem Heeds.list (heeds : Heeds read) : Heeds (Tree.list? read) := by
  intro one other value first second
  cases first.meaning with
  | list each =>
      cases second.meaning with
      | list also => exact heeds.mapM each also
  | null | bool | number | text | object =>
      cases second.meaning
      rfl

/-! ## Records -/

/-- What a record of documents and one of values have for the same field. -/
inductive Slot.Means : Slot Tree → Slot Value → Prop
  | given {tree : Tree} {value : Value} (means : tree.Means value) :
      Means (.given tree) (.given value)
  | absent : Means .absent .absent
  | beyond : Means .beyond .beyond

/-- A record of documents has for each field what a record of values has for it. -/
def Record.Means (record : Record Tree) (values : Record Value) : Prop :=
  ∀ position name, ∃ slot held, record.slot? position [name] = some slot ∧
    values.slot? position [name] = some held ∧ slot.Means held

/-- A member whose name is read means an entry. -/
def MeansNamed (named : String × Tree) (entry : String × Value) : Prop :=
  named.1 = entry.1 ∧ named.2.Means entry.2

/-- A member under the name that it is read to have. -/
def named? (member : Bytes × Tree) : Option (String × Tree) := do
  let name ← readQuoted? member.1
  return (name, member.2)

/-- The names of an object that means something can all be read. -/
theorem exists_named {members : List (Bytes × Tree)} {entries : List (String × Value)}
    (each : List.Forall₂ MeansEntry members entries) :
    ∃ named, members.mapM named? = some named ∧ List.Forall₂ MeansNamed named entries := by
  induction each with
  | nil => exact ⟨[], rfl, .nil⟩
  | @cons member entry _ _ means _ ih =>
      obtain ⟨named, read, later⟩ := ih
      have first : named? member = some (entry.1, member.2) := by
        rw [named?, means.1]
        rfl
      refine ⟨(entry.1, member.2) :: named, ?_, .cons ⟨rfl, means.2⟩ later⟩
      rw [List.mapM_cons, first, read]
      rfl

theorem record?_of_named {members : List (Bytes × Tree)} {named : List (String × Tree)}
    (read : members.mapM named? = some named) (count : Nat) :
    Tree.record? count (.object members) = some (.members named) := by
  have opened : Tree.record? count (.object members) =
      (members.mapM named?).bind fun named => some (.members named) := rfl
  rw [opened, read]
  rfl

/-- Members with different names have at most one by each. -/
theorem length_filter_le_one {entries : List (String × Value)}
    (distinct : (entries.map Prod.fst).Nodup) (name : String) :
    (entries.filter fun entry => [name].contains entry.1).length ≤ 1 := by
  have kept : ((entries.filter fun entry => [name].contains entry.1).map Prod.fst).Nodup :=
    distinct.sublist (List.filter_sublist.map _)
  have named : ∀ entry ∈ entries.filter fun entry => [name].contains entry.1, entry.1 = name := by
    intro entry mem
    simpa using (List.mem_filter.mp mem).2
  revert kept named
  rcases entries.filter _ with _ | ⟨first, _ | ⟨second, rest⟩⟩
  · exact fun _ _ => Nat.zero_le 1
  · exact fun _ _ => Nat.le_refl 1
  · intro kept named
    have same : first.1 = second.1 := (named first (by simp)).trans (named second (by simp)).symm
    simp [same] at kept

theorem means_members {named : List (String × Tree)} {entries ordered : List (String × Value)}
    (each : List.Forall₂ MeansNamed named entries) (distinct : (entries.map Prod.fst).Nodup)
    (perm : ordered.Perm entries) :
    Record.Means (.members named) (.members ordered) := by
  intro position name
  rw [Record.slot?_perm perm]
  have filtered : List.Forall₂ MeansNamed
      (named.filter fun entry => [name].contains entry.1)
      (entries.filter fun entry => [name].contains entry.1) := by
    apply List.rel_filter _ each
    rintro member entry ⟨same, _⟩
    dsimp only
    rw [same]
  have few := length_filter_le_one distinct name
  unfold Record.slot?
  dsimp only
  generalize named.filter _ = found at filtered ⊢
  generalize entries.filter _ = held at filtered few ⊢
  cases filtered with
  | nil => exact ⟨.absent, .absent, rfl, rfl, .absent⟩
  | cons means later =>
      cases later with
      | nil => exact ⟨_, _, rfl, rfl, .given means.2⟩
      | cons => simp at few

theorem means_items {items : List Tree} {values : List Value}
    (each : List.Forall₂ Tree.Means items values) :
    Record.Means (.items items) (.items values) := by
  intro position name
  have same : items.length = values.length := each.length_eq
  unfold Record.slot?
  dsimp only
  by_cases inside : position < items.length
  · have means := each.get inside (same ▸ inside)
    rw [List.getElem?_eq_getElem inside, List.getElem?_eq_getElem (same ▸ inside)]
    exact ⟨_, _, rfl, rfl, .given means⟩
  · rw [List.getElem?_eq_none (Nat.le_of_not_lt inside),
      List.getElem?_eq_none (same ▸ Nat.le_of_not_lt inside)]
    exact ⟨_, _, rfl, rfl, .beyond⟩

/-- The record that a document is opened as has what its value has. -/
theorem Tree.Means.record? {tree : Tree} {value : Value} (means : tree.Means value)
    (count : Nat) :
    tree.record? count = none ∧ value.record? count = none ∨
      ∃ record values, tree.record? count = some record ∧ value.record? count = some values ∧
        record.Means values := by
  cases means.meaning with
  | object each distinct perm =>
      obtain ⟨named, read, means⟩ := exists_named each
      exact .inr ⟨_, _, record?_of_named read count, rfl, means_members means distinct perm⟩
  | @list items values each =>
      rw [Tree.record?, Value.record?, each.length_eq]
      split
      · exact .inr ⟨_, _, rfl, rfl, means_items each⟩
      · exact .inl ⟨rfl, rfl⟩
  | _ => exact .inl ⟨rfl, rfl⟩

/-- Two records have the same for every field that is heeded. -/
def Record.Agree (record twin : Record Tree) : Prop :=
  ∀ {α : Type} (position : Nat) (name : String) {read : Tree → Option α}, Heeds read →
    record.required position name read = twin.required position name read

theorem Record.Means.agree {record twin : Record Tree} {values : Record Value}
    (means : record.Means values) (also : twin.Means values) : record.Agree twin := by
  intro α position name read heeds
  obtain ⟨slot, held, found, taken, means⟩ := means position name
  obtain ⟨other, again, refound, retaken, also⟩ := also position name
  obtain rfl := Option.some.inj (taken.symm.trans retaken)
  rw [Record.required, found, Record.required, refound]
  cases means with
  | given means =>
      cases also with
      | given also => exact heeds means also
  | absent | beyond =>
      cases also
      rfl

/-- A reader that opens a record and heeds its fields heeds the document. -/
theorem Heeds.record (count : Nat) {body : Record Tree → Option α}
    (fields : ∀ record twin : Record Tree, record.Agree twin → body record = body twin) :
    Heeds fun tree => tree.record? count >>= body := by
  intro one other value first second
  dsimp only
  rcases first.record? count with ⟨unopened, closed⟩ | ⟨record, values, opened, held, means⟩
  · rcases second.record? count with ⟨reunopened, _⟩ | ⟨_, _, _, some, _⟩
    · rw [unopened, reunopened]
    · rw [closed] at some
      contradiction
  · rcases second.record? count with ⟨_, closed⟩ | ⟨twin, again, reopened, same, also⟩
    · rw [closed] at held
      contradiction
    · obtain rfl := Option.some.inj (held.symm.trans same)
      rw [opened, reopened]
      exact fields record twin (means.agree also)

end EventRelay.Json

namespace EventRelay.Orders

open Json

/-! ## Events of the order service -/

theorem heeds_line : Heeds Line.ofTree? := by
  apply Heeds.record
  intro record twin same
  rw [same 0 "sku" heeds_text, same 1 "quantity" heeds_uint32,
    same 2 "unit_price_cents" heeds_int64]

theorem heeds_created : Heeds Created.ofTree? := by
  apply Heeds.record
  intro record twin same
  rw [same 0 "order_id" heeds_uuid, same 1 "customer_id" heeds_uuid,
    same 2 "currency" heeds_text, same 3 "lines" heeds_line.list,
    same 4 "created_at" heeds_instant]

theorem heeds_cancelled : Heeds Cancelled.ofTree? := by
  apply Heeds.record
  intro record twin same
  rw [same 0 "order_id" heeds_uuid, same 1 "reason" heeds_text,
    same 2 "cancelled_at" heeds_instant]

theorem heeds_shipped : Heeds Shipped.ofTree? := by
  apply Heeds.record
  intro record twin same
  rw [same 0 "order_id" heeds_uuid, same 1 "carrier" heeds_text,
    same 2 "tracking_number" heeds_text, same 3 "shipped_at" heeds_instant]

end EventRelay.Orders

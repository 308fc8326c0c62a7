import EventRelay.Json.Tree

/-!
# Trees read from their tokens

Every tree has a list of tokens, and reading these gives the tree back: a list or object comes
to be open, takes its parts one after another and is closed again, and what was open around it
is as before.
-/

namespace EventRelay.Json

mutual

/-- The tokens of a tree. -/
def Tree.tokens : Tree → List Token
  | .null => [.null]
  | .bool value => [.bool value]
  | .number numeral => [.number numeral]
  | .text raw => [.text raw]
  | .list items => .openList :: (itemTokens items ++ [.closeList])
  | .object members => .openObject :: (memberTokens members ++ [.closeObject])

/-- The tokens of the items of a list, a comma between two. -/
def itemTokens : List Tree → List Token
  | [] => []
  | [item] => item.tokens
  | item :: next :: rest => item.tokens ++ .comma :: itemTokens (next :: rest)

/-- The tokens of the members of an object, a comma between two. -/
def memberTokens : List (Bytes × Tree) → List Token
  | [] => []
  | [(name, tree)] => .text name :: .colon :: tree.tokens
  | (name, tree) :: next :: rest =>
      .text name :: .colon :: (tree.tokens ++ .comma :: memberTokens (next :: rest))

end

/-- Where a value may start. -/
inductive Expected.TakesValue : Expected → Prop
  | value : TakesValue .value
  | firstItem : TakesValue .firstItem

/-- Where a name may start. -/
inductive Expected.TakesName : Expected → Prop
  | name : TakesName .name
  | firstName : TakesName .firstName

variable {expected : Expected} {frames : List Frame} {more : List Token}

theorem readTokens_cons (reading : Reading) (token : Token) :
    readTokens reading (token :: more) =
      (reading.step token).bind fun next => readTokens next more := by
  rw [readTokens]
  cases reading.step token <;> rfl

theorem Expected.TakesValue.step (takes : expected.TakesValue) {token : Token}
    (opens : token ≠ .closeList) :
    Reading.step (.open expected frames) token = Reading.begin frames token := by
  cases takes with
  | value => rfl
  | firstItem => exact if_neg opens

theorem Expected.TakesName.step (takes : expected.TakesName) (raw : Bytes)
    (members : List (Bytes × Tree)) :
    Reading.step (.open expected (.object members :: frames)) (.text raw) =
      some (.open .colon (.member members raw :: frames)) := by
  cases takes <;> rfl

/-- Wherever a value may start, the tokens of a tree deliver the tree. -/
def Tree.Delivers (tree : Tree) : Prop :=
  ∀ {expected : Expected}, expected.TakesValue → ∀ (frames : List Frame) (more : List Token),
    readTokens (.open expected frames) (tree.tokens ++ more) =
      (Reading.deliver tree frames).bind fun next => readTokens next more

/-- An open list takes the items that it lacks and is delivered. -/
theorem readTokens_items {items : List Tree} (each : ∀ item ∈ items, item.Delivers)
    {expected : Expected} (takes : expected.TakesValue) (nonempty : items ≠ [])
    (done : List Tree) (frames : List Frame) (more : List Token) :
    readTokens (.open expected (.list done :: frames)) (itemTokens items ++ .closeList :: more) =
      (Reading.deliver (.list (done.reverse ++ items)) frames).bind
        fun next => readTokens next more := by
  induction items generalizing expected done with
  | nil => contradiction
  | cons item rest ih =>
      rw [List.forall_mem_cons] at each
      cases rest with
      | nil =>
          rw [itemTokens, each.1 takes, Reading.deliver, Option.bind_some, readTokens_cons,
            ← List.reverse_cons]
          rfl
      | cons next rest =>
          rw [itemTokens, List.append_assoc, each.1 takes, Reading.deliver, Option.bind_some,
            List.cons_append, readTokens_cons]
          have later := ih each.2 .value (List.cons_ne_nil _ _) (item :: done)
          rw [List.reverse_cons, List.append_assoc] at later
          exact later

/-- An open object takes the members that it lacks and is delivered. -/
theorem readTokens_members {members : List (Bytes × Tree)}
    (each : ∀ member ∈ members, member.2.Delivers) {expected : Expected}
    (takes : expected.TakesName) (nonempty : members ≠ []) (done : List (Bytes × Tree))
    (frames : List Frame) (more : List Token) :
    readTokens (.open expected (.object done :: frames))
        (memberTokens members ++ .closeObject :: more) =
      (Reading.deliver (.object (done.reverse ++ members)) frames).bind
        fun next => readTokens next more := by
  induction members generalizing expected done with
  | nil => contradiction
  | cons member rest ih =>
      obtain ⟨name, tree⟩ := member
      rw [List.forall_mem_cons] at each
      have named (later : List Token) :
          readTokens (.open expected (.object done :: frames)) (.text name :: .colon :: later) =
            readTokens (.open .value (.member done name :: frames)) later := by
        rw [readTokens_cons, takes.step, Option.bind_some, readTokens_cons]
        rfl
      cases rest with
      | nil =>
          rw [memberTokens, List.cons_append, List.cons_append, named, each.1 .value,
            Reading.deliver, Option.bind_some, readTokens_cons, ← List.reverse_cons]
          rfl
      | cons next rest =>
          rw [memberTokens, List.cons_append, List.cons_append, named, List.append_assoc,
            each.1 .value, Reading.deliver, Option.bind_some, List.cons_append, readTokens_cons]
          have later := ih each.2 .name (List.cons_ne_nil _ _) ((name, tree) :: done)
          rw [List.reverse_cons, List.append_assoc] at later
          exact later

theorem delivers (tree : Tree) : tree.Delivers := by
  intro expected takes frames more
  match tree with
  | .null | .bool _ | .number _ | .text _ =>
      rw [Tree.tokens, List.singleton_append, readTokens_cons, takes.step (by simp)]
      rfl
  | .list items =>
      have each : ∀ item ∈ items, item.Delivers := fun item _ => delivers item
      rw [Tree.tokens, List.cons_append, List.append_assoc, readTokens_cons,
        takes.step (by simp), Reading.begin, Option.bind_some, List.singleton_append]
      cases items with
      | nil =>
          rw [itemTokens, List.nil_append, readTokens_cons]
          rfl
      | cons item rest =>
          exact readTokens_items each .firstItem (List.cons_ne_nil _ _) [] frames more
  | .object members =>
      have each : ∀ member ∈ members, member.2.Delivers := fun member _ => delivers member.2
      rw [Tree.tokens, List.cons_append, List.append_assoc, readTokens_cons,
        takes.step (by simp), Reading.begin, Option.bind_some, List.singleton_append]
      cases members with
      | nil =>
          rw [memberTokens, List.nil_append, readTokens_cons]
          rfl
      | cons member rest =>
          exact readTokens_members each .firstName (List.cons_ne_nil _ _) [] frames more
termination_by tree
decreasing_by
  · have smaller := List.sizeOf_lt_of_mem ‹item ∈ items›
    simp only [Tree.list.sizeOf_spec]
    omega
  · obtain ⟨name, tree⟩ := member
    have smaller := List.sizeOf_lt_of_mem ‹(name, tree) ∈ members›
    simp only [Tree.object.sizeOf_spec, Prod.mk.sizeOf_spec] at smaller ⊢
    omega

/-- The tokens of a tree are read as this tree. -/
theorem ofTokens?_tokens (tree : Tree) : Tree.ofTokens? tree.tokens = some tree := by
  have delivered := delivers tree .value [] []
  rw [List.append_nil, Reading.deliver, Option.bind_some, readTokens] at delivered
  rw [Tree.ofTokens?, Reading.start, delivered]
  rfl

end EventRelay.Json

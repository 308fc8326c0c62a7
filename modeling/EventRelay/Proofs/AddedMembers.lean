import EventRelay.Proofs.Renderings
import EventRelay.Proofs.RowColumns
import EventRelay.Proofs.RowImages
import Mathlib.Data.List.Perm.Basic

/-!
# Rows with a member more

A member that no column goes by is passed over when a row is read. Before that, however, the
names of an object's members decide whether it is a row at all: an object with a payload turns
into a wrapped document when a schema is added, and one with an `after` or an `op` into a change
when the other of the two is. Any other member leaves what is decoded as it was.
-/

namespace EventRelay

namespace Json

variable {α : Type} {name other : String} {value : α} {entries left right : List (String × α)}

theorem pairwise_orderMembers (entries : List (String × α)) :
    (orderMembers entries).Pairwise fun a b => a.1 < b.1 := by
  induction entries using List.reverseRecOn with
  | nil => exact .nil
  | append_singleton before entry ih =>
      rw [orderMembers, List.foldl_append]
      exact pairwise_insertEntry ih

/-- Members in increasing order of names that look up alike are the same. -/
theorem ext_lookup (leftOrdered : left.Pairwise fun a b => a.1 < b.1)
    (rightOrdered : right.Pairwise fun a b => a.1 < b.1)
    (alike : ∀ name, left.lookup name = right.lookup name) : left = right := by
  have same : (⟨left, leftOrdered⟩ : Dictionary α) = ⟨right, rightOrdered⟩ := by
    apply Dictionary.ext_get?
    intro name
    rw [Dictionary.get?, Dictionary.get?, ← lookup_eq_lookupEntry, ← lookup_eq_lookupEntry]
    exact alike name
  exact congrArg Dictionary.entries same

theorem lookup_insertEntry (name : String) (value : α) (entries : List (String × α)) :
    (insertEntry name value entries).lookup other =
      if other = name then some value else entries.lookup other := by
  rw [lookup_eq_lookupEntry, lookupEntry_insertEntry, lookup_eq_lookupEntry]

variable {depth : Nat} {members wider : List (Bytes × Tree)} {extra : Tree} {added : Value}
  {held : List (String × Value)}

/-- A member denotes one entry at most. -/
theorem rightUnique_denotes : Relator.RightUnique (Denotes depth) := by
  rintro member one other ⟨name, value⟩ ⟨sameName, sameValue⟩
  exact Prod.ext (Option.some.inj (name.symm.trans sameName))
    (Option.some.inj (value.symm.trans sameValue))

/-- An object has the members of another, those of one name in the order they had, and a member
more whose name is new. -/
structure Widens (name : String) (extra : Tree) (members wider : List (Bytes × Tree)) :
    Prop where
  new : members.filter (goesBy name) = []
  adds : ∃ raw, readQuoted? raw = some name ∧ wider.Perm ((raw, extra) :: members)
  keeps : ∀ other, other ≠ name → wider.filter (goesBy other) = members.filter (goesBy other)

namespace Widens

/-- The new member may stand anywhere. -/
theorem insert {raw : Bytes} {before after : List (Bytes × Tree)}
    (read : readQuoted? raw = some name) (new : (before ++ after).filter (goesBy name) = []) :
    Widens name extra (before ++ after) (before ++ (raw, extra) :: after) where
  new := new
  adds := ⟨raw, read, List.perm_middle⟩
  keeps other different := by
    have passed : ¬goesBy other (raw, extra) = true := by
      simpa [goesBy, read] using different.symm
    rw [List.filter_append, List.filter_cons_of_neg passed, List.filter_append]

theorem cons {raw : Bytes} (read : readQuoted? raw = some name)
    (new : members.filter (goesBy name) = []) :
    Widens name extra members ((raw, extra) :: members) := by
  have fresh : ([] ++ members).filter (goesBy name) = [] := new
  exact insert read fresh

/-- The new member is the only one by its name. -/
theorem only (widens : Widens name extra members wider) :
    ∃ raw, wider.filter (goesBy name) = [(raw, extra)] := by
  obtain ⟨raw, read, perm⟩ := widens.adds
  have kept := perm.filter (goesBy name)
  rw [List.filter_cons_of_pos (by simp [goesBy, read]), widens.new] at kept
  exact ⟨raw, List.perm_singleton.mp kept⟩

/-- A wider object denotes the value of the narrower with an entry more. -/
theorem denotes (widens : Widens name extra members wider) {entries : List (String × Value)}
    (denotes : Value.ofTree? (depth + 1) (.object members) = some (.object entries))
    (fits : Value.ofTree? depth extra = some added) :
    Value.ofTree? (depth + 1) (.object wider) =
      some (.object (insertEntry name added entries)) := by
  obtain ⟨held, listed, same⟩ := ofTree?_object.mp denotes
  obtain rfl : orderMembers held = entries := Value.object.inj same
  obtain ⟨raw, read, perm⟩ := widens.adds
  have more : List.Forall₂ (Denotes depth) ((raw, extra) :: members) ((name, added) :: held) :=
    .cons ⟨read, fits⟩ listed
  obtain ⟨items, denoted, _⟩ := List.perm_comp_forall₂ perm more
  rw [ofTree?_object]
  refine ⟨items, denoted, congrArg Value.object ?_⟩
  apply ext_lookup (pairwise_orderMembers items)
    (pairwise_insertEntry (pairwise_orderMembers held))
  intro other
  rw [lookup_insertEntry, lookup_orderMembers, lookup_orderMembers]
  have named := Denotes.filter denoted other
  split
  · subst other
    obtain ⟨_, only⟩ := widens.only
    rw [only] at named
    obtain ⟨entry, rest, ⟨_, value⟩, none, found⟩ := List.forall₂_cons_left_iff.mp named
    rw [found, List.forall₂_nil_left_iff.mp none, ← Option.some.inj (value.symm.trans fits)]
    rfl
  · rename_i different
    rw [widens.keeps other different] at named
    rw [rightUnique_denotes.forall₂ named (Denotes.filter listed other)]

/-- An object holds nothing under a name that is new to it. -/
theorem member?_eq_none (widens : Widens name extra members wider)
    {entries : List (String × Value)}
    (denotes : Value.ofTree? (depth + 1) (.object members) = some (.object entries)) :
    Outbox.member? name (.object entries) = none := by
  obtain ⟨held, listed, same⟩ := ofTree?_object.mp denotes
  obtain rfl : orderMembers held = entries := Value.object.inj same
  have named := Denotes.filter listed name
  rw [widens.new] at named
  rw [Outbox.member?, lookup_orderMembers, List.forall₂_nil_left_iff.mp named]
  rfl

theorem memberCount_new (widens : Widens name extra members wider) :
    Outbox.memberCount name (.object members) = 0 := by
  rw [Outbox.memberCount_object, widens.new]
  rfl

theorem memberCount_added (widens : Widens name extra members wider) :
    Outbox.memberCount name (.object wider) = 1 := by
  obtain ⟨_, only⟩ := widens.only
  rw [Outbox.memberCount_object, only]
  rfl

theorem memberCount_of_ne (widens : Widens name extra members wider) (different : other ≠ name) :
    Outbox.memberCount other (.object wider) = Outbox.memberCount other (.object members) := by
  rw [Outbox.memberCount_object, widens.keeps other different, Outbox.memberCount_object]

end Widens

end Json

namespace Outbox

open Json

variable {depth : Nat} {name other : String} {members wider : List (Bytes × Tree)} {extra : Tree}
  {added : Value} {entries : List (String × Value)} {image? : Option Value}

theorem member?_insertEntry :
    member? other (.object (insertEntry name added entries)) =
      if other = name then some added else member? other (.object entries) :=
  lookup_insertEntry name added entries

/-- An object with a schema and a payload is a wrapped document. -/
def IsWrapped (members : List (Bytes × Tree)) : Prop :=
  memberCount "schema" (.object members) = 1 ∧ memberCount "payload" (.object members) = 1

instance (members : List (Bytes × Tree)) : Decidable (IsWrapped members) :=
  inferInstanceAs (Decidable (_ ∧ _))

theorem IsWrapped.unwrap (wrapped : IsWrapped members) (value : Value) :
    unwrap (.object members) value = (member? "payload" value).getD value :=
  if_pos wrapped

theorem unwrap_of_not_isWrapped (bare : ¬IsWrapped members) (value : Value) :
    unwrap (.object members) value = value :=
  if_neg bare

/-- A new member makes of an object a wrapped document or a change, which holds this image. -/
inductive Reshapes (members : List (Bytes × Tree)) (value added : Value) :
    String → Option Value → Prop
  | schema {payload : Value} (single : memberCount "payload" (.object members) = 1)
      (held : member? "payload" value = some payload) :
      Reshapes members value added "schema" (rowImage? payload)
  | op {image : Value} (held : member? "after" value = some image) :
      Reshapes members value added "op" image.nullable
  | after {op : Value} (held : member? "op" value = some op) :
      Reshapes members value added "after" added.nullable

/-- Only three names are looked for among the members of an object. -/
theorem Reshapes.mem {value : Value} (reshapes : Reshapes members value added name image?) :
    name ∈ ["schema", "op", "after"] := by
  cases reshapes <;> decide

theorem rowImage?_of_changed {value op image : Value} (told : member? "op" value = some op)
    (held : member? "after" value = some image) : rowImage? value = image.nullable := by
  rw [rowImage?, told, held]

/-- A row has a column for its payload. -/
theorem payload_ne (unknown : name ∉ columnNames.flatten) : "payload" ≠ name := by
  rintro rfl
  exact unknown (by decide)

section Widened

variable (widens : Widens name extra members wider)
  (denotes : Value.ofTree? (depth + 1) (.object members) = some (.object entries))
  (unknown : name ∉ columnNames.flatten)

include widens unknown in
/-- A wrapped document stays one. -/
theorem IsWrapped.widened (wrapped : IsWrapped members) : IsWrapped wider := by
  have schema : "schema" ≠ name := by
    rintro rfl
    exact absurd (wrapped.1.symm.trans widens.memberCount_new) (by decide)
  exact ⟨(widens.memberCount_of_ne schema).trans wrapped.1,
    (widens.memberCount_of_ne (payload_ne unknown)).trans wrapped.2⟩

include widens in
theorem IsWrapped.of_widened (rewrapped : IsWrapped wider) (schema : "schema" ≠ name)
    (payload : "payload" ≠ name) : IsWrapped members :=
  ⟨(widens.memberCount_of_ne schema).symm.trans rewrapped.1,
    (widens.memberCount_of_ne payload).symm.trans rewrapped.2⟩

include widens denotes unknown in
/-- A bare object becomes a wrapped document only if the new member is the schema of its
payload. -/
theorem IsWrapped.reshapes (rewrapped : IsWrapped wider) (bare : ¬IsWrapped members) :
    ∃ image?, Reshapes members (.object entries) added name image? := by
  have payload := payload_ne unknown
  by_cases schema : "schema" = name
  · subst schema
    have single := (widens.memberCount_of_ne payload).symm.trans rewrapped.2
    obtain ⟨held, found⟩ := exists_member?_of_memberCount denotes single
    exact ⟨_, .schema single found⟩
  · exact absurd (rewrapped.of_widened widens schema payload) bare

/-- An object that is not made a change is an image as before, or holds the image that it
held. -/
theorem rowImage?_widened
    (unshaped : ¬∃ image?, Reshapes members (.object entries) added name image?) :
    rowImage? (.object (insertEntry name added entries)) = rowImage? (.object entries) ∨
      rowImage? (.object (insertEntry name added entries)) =
          some (.object (insertEntry name added entries)) ∧
        rowImage? (.object entries) = some (.object entries) := by
  by_cases op : "op" = name
  · subst op
    have unchanged : member? "after" (.object entries) = none :=
      Option.eq_none_iff_forall_ne_some.mpr fun image held => unshaped ⟨_, .op held⟩
    refine .inr ⟨rowImage?_of_unchanged (.inr ?_), rowImage?_of_unchanged (.inr unchanged)⟩
    rw [member?_insertEntry, if_neg (by decide), unchanged]
  · by_cases after : "after" = name
    · subst after
      have unchanged : member? "op" (.object entries) = none :=
        Option.eq_none_iff_forall_ne_some.mpr fun image held => unshaped ⟨_, .after held⟩
      refine .inr ⟨rowImage?_of_unchanged (.inl ?_), rowImage?_of_unchanged (.inl unchanged)⟩
      rw [member?_insertEntry, if_neg (by decide), unchanged]
    · rw [rowImage?, rowImage?, member?_insertEntry, if_neg op, member?_insertEntry,
        if_neg after]
      split
      · exact .inl rfl
      · exact .inr ⟨rfl, rfl⟩

include widens denotes unknown in
/-- A row with a member that no column goes by makes what it makes without it. -/
theorem sealRow_widened (now : Instant) (record : SourceRecord) (schemaId : Option Nat) :
    sealRow now record schemaId (.object (insertEntry name added entries)) =
      sealRow now record schemaId (.object entries) := by
  have new : ∀ entry ∈ entries, entry.1 ≠ name := by
    intro entry mem same
    have absent := List.lookup_eq_none_iff.mp (widens.member?_eq_none denotes) entry mem
    exact bne_iff_ne.mp absent same.symm
  rw [sealRow, Row.ofValue?_insertEntry new unknown, sealRow]

include widens denotes unknown in
/-- A member that reshapes nothing leaves what is decoded as it was. -/
theorem decodeImage_widened (now : Instant) (record : SourceRecord) (schemaId : Option Nat)
    (unshaped : ¬∃ image?, Reshapes members (.object entries) added name image?) :
    decodeImage now record schemaId
        (rowImage? (unwrap (.object wider) (.object (insertEntry name added entries)))) =
      decodeImage now record schemaId
        (rowImage? (unwrap (.object members) (.object entries))) := by
  by_cases wrapped : IsWrapped members
  · obtain ⟨held, found⟩ := exists_member?_of_memberCount denotes wrapped.2
    rw [(wrapped.widened widens unknown).unwrap, member?_insertEntry,
      if_neg (payload_ne unknown), wrapped.unwrap, found]
    rfl
  · have bare : ¬IsWrapped wider := fun rewrapped =>
      unshaped (rewrapped.reshapes widens denotes unknown wrapped)
    rw [unwrap_of_not_isWrapped bare, unwrap_of_not_isWrapped wrapped]
    rcases rowImage?_widened unshaped with same | ⟨wide, narrow⟩
    · rw [same]
    · rw [wide, narrow]
      exact sealRow_widened widens denotes unknown now record schemaId

include widens in
/-- A bare object that a new member reshapes holds the image that it is reshaped to. -/
theorem Reshapes.rowImage? (reshapes : Reshapes members (.object entries) added name image?)
    (bare : ¬IsWrapped members) :
    rowImage? (unwrap (.object wider) (.object (insertEntry name added entries))) = image? := by
  cases reshapes with
  | schema single held =>
      have wrapped : IsWrapped wider :=
        ⟨widens.memberCount_added, (widens.memberCount_of_ne (by decide)).trans single⟩
      rw [wrapped.unwrap, member?_insertEntry, if_neg (by decide), held]
      rfl
  | op held =>
      have rebare : ¬IsWrapped wider := fun rewrapped =>
        bare (rewrapped.of_widened widens (by decide) (by decide))
      rw [unwrap_of_not_isWrapped rebare]
      apply rowImage?_of_changed
      · rw [member?_insertEntry, if_pos rfl]
      · rw [member?_insertEntry, if_neg (by decide), held]
  | after held =>
      have rebare : ¬IsWrapped wider := fun rewrapped =>
        bare (rewrapped.of_widened widens (by decide) (by decide))
      rw [unwrap_of_not_isWrapped rebare]
      apply rowImage?_of_changed
      · rw [member?_insertEntry, if_neg (by decide), held]
      · rw [member?_insertEntry, if_pos rfl]

end Widened

/-! ## Decoding a wider object -/

/-- A row decodes alike with any member more that no column goes by, unless the member makes
of it a wrapped document or a change; it then decodes as the image that this holds. -/
theorem decoder_widened {text wide : Bytes} {value : Value}
    (parsed : Tree.parse? text = some (.object members))
    (reparsed : Tree.parse? wide = some (.object wider))
    (denotes : Value.ofTree? depthLimit (.object members) = some value)
    (widens : Widens name extra members wider)
    (fits : Value.ofTree? (depthLimit - 1) extra = some added)
    (unknown : name ∉ columnNames.flatten) (now : Instant) (record : SourceRecord) :
    ((¬∃ image?, Reshapes members value added name image?) →
        decoder now { record with value := some wide } =
          decoder now { record with value := some text }) ∧
      ∀ image?, Reshapes members value added name image? → ¬IsWrapped members →
        decoder now { record with value := some wide } =
          (decodeImage now record none image?).mapError .decode := by
  obtain ⟨entries, rfl⟩ : ∃ entries, value = .object entries := by
    obtain ⟨entries, _, same⟩ := ofTree?_object.mp denotes
    exact ⟨_, same.symm⟩
  have narrow : Holds { record with value := some text } none _ :=
    holds_of_parse? rfl parsed denotes
  have holds : Holds { record with value := some wide } none _ :=
    holds_of_parse? rfl reparsed (widens.denotes denotes fits)
  constructor
  · intro unshaped
    rw [holds.decoder, narrow.decoder]
    exact congrArg _ (decodeImage_widened widens denotes unknown now record none unshaped)
  · intro image? reshapes bare
    rw [holds.decoder, reshapes.rowImage? widens bare]
    rfl

/-- A row with a note in it. -/
theorem decoder_widened_noted :
    let text := Text.toBytes "\x7b\"id\":\"1\",\"type\":\"t\"\x7d"
    let wide := Text.toBytes "\x7b\"id\":\"1\",\"note\":[true],\"type\":\"t\"\x7d"
    let id := (Text.toBytes "id", Tree.text (Text.toBytes "1"))
    let type := (Text.toBytes "type", Tree.text (Text.toBytes "t"))
    let note := (Text.toBytes "note", Tree.list [.bool true])
    let value : Value := .object [("id", .text "1"), ("type", .text "t")]
    let added : Value := .list [.bool true]
    let record : SourceRecord := ⟨⟨"outbox", 0, 7⟩, none, some text, ∅, none⟩
    Tree.parse? text = some (.object [id, type]) ∧
      Tree.parse? wide = some (.object [id, note, type]) ∧
      Value.ofTree? depthLimit (.object [id, type]) = some value ∧
      Widens "note" note.2 [id, type] [id, note, type] ∧
      Value.ofTree? (depthLimit - 1) note.2 = some added ∧
      "note" ∉ columnNames.flatten ∧
      (¬∃ image?, Reshapes [id, type] value added "note" image?) ∧
      decoder .epoch { record with value := some wide } = decoder .epoch record := by
  intro text wide id type note value added record
  have parsed : Tree.parse? text = some (.object [id, type]) := rfl
  have reparsed : Tree.parse? wide = some (.object [id, note, type]) := rfl
  have denotes : Value.ofTree? depthLimit (.object [id, type]) = some value := rfl
  have read : readQuoted? note.1 = some "note" := by decide +kernel
  have new : ([id] ++ [type]).filter (goesBy "note") = [] := rfl
  have widens : Widens "note" note.2 [id, type] [id, note, type] := .insert read new
  have fits : Value.ofTree? (depthLimit - 1) note.2 = some added := rfl
  have unknown : "note" ∉ columnNames.flatten := by decide
  have unshaped : ¬∃ image?, Reshapes [id, type] value added "note" image? :=
    fun ⟨_, reshapes⟩ => absurd reshapes.mem (by decide)
  exact ⟨parsed, reparsed, denotes, widens, fits, unknown, unshaped,
    (decoder_widened parsed reparsed denotes widens fits unknown .epoch record).1 unshaped⟩

/-- The text of a row whose payload is a row itself. -/
def nestedText : Bytes :=
  Text.toBytes "\x7b\"id\":\"1\",\"type\":\"t\",\"payload\":\x7b\"id\":\"2\"\x7d\x7d"

/-- Its members. -/
def nestedMembers : List (Bytes × Tree) :=
  [(Text.toBytes "id", .text (Text.toBytes "1")), (Text.toBytes "type", .text (Text.toBytes "t")),
    (Text.toBytes "payload", .object [(Text.toBytes "id", .text (Text.toBytes "2"))])]

/-- Its event. -/
def nestedEvent : Envelope :=
  ⟨"1", "t", Text.toBytes "\x7b\"id\":\"2\"\x7d", ∅, "", "", none, none, none, none, .epoch,
    by decide, by decide⟩

/-- A schema is no column, and yet a bare row that has a payload does not decode alike with it:
the payload is taken for the row. -/
theorem added_schema_differs :
    ¬∀ (text wide : Bytes) (members wider : List (Bytes × Tree)) (name : String) (extra : Tree)
        (value added : Value) (now : Instant) (record : SourceRecord) (envelope : Envelope),
      Tree.parse? text = some (.object members) → Tree.parse? wide = some (.object wider) →
      Value.ofTree? depthLimit (.object members) = some value →
      ¬IsWrapped members → memberCount "op" (.object members) = 0 →
      Widens name extra members wider →
      Value.ofTree? (depthLimit - 1) extra = some added → name ∉ columnNames.flatten →
      decoder now { record with value := some text } = .ok (.event envelope) →
      decoder now { record with value := some wide } = .ok (.event envelope) := by
  intro claimed
  let wide := Text.toBytes
    "\x7b\"schema\":1,\"id\":\"1\",\"type\":\"t\",\"payload\":\x7b\"id\":\"2\"\x7d\x7d"
  let schema := (Text.toBytes "schema", Tree.number ⟨false, ['1'], none, none⟩)
  let record : SourceRecord := ⟨⟨"outbox", 0, 7⟩, none, some nestedText, ∅, none⟩
  have parsed : Tree.parse? nestedText = some (.object nestedMembers) := rfl
  have reparsed : Tree.parse? wide = some (.object (schema :: nestedMembers)) := rfl
  obtain ⟨value, denotes⟩ :
      ∃ value, Value.ofTree? depthLimit (.object nestedMembers) = some value :=
    Option.isSome_iff_exists.mp (by decide +kernel)
  have bare : ¬IsWrapped nestedMembers := by decide +kernel
  have unchanged : memberCount "op" (.object nestedMembers) = 0 := by decide +kernel
  have read : readQuoted? schema.1 = some "schema" := by decide +kernel
  have new : nestedMembers.filter (goesBy "schema") = [] :=
    List.filter_eq_nil_iff.mpr (by decide +kernel)
  have widens : Widens "schema" schema.2 nestedMembers (schema :: nestedMembers) :=
    .cons read new
  have fits : Value.ofTree? (depthLimit - 1) schema.2 = some (.number (.integer 1)) := rfl
  have unknown : "schema" ∉ columnNames.flatten := by decide
  have decoded : decoder .epoch record = .ok (.event nestedEvent) :=
    eq_ok_of_toOption (by decide +kernel)
  have redecoded := claimed _ _ _ _ _ _ _ _ .epoch record nestedEvent parsed reparsed denotes
    bare unchanged widens fits unknown decoded
  have differs : (decoder .epoch { record with value := some wide }).toOption ≠
      some (.event nestedEvent) := by decide +kernel
  rw [redecoded] at differs
  exact differs rfl

end Outbox

end EventRelay

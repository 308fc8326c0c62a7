import EventRelay.Proofs.RowColumns
import EventRelay.Proofs.RowImages
import Mathlib.Data.List.Nodup

/-!
# Rows that are listed

A row is an object whose members are its columns. It is read as well from a list of columns in
the order declared, of which the later may be missing: such a list is the row that has these
columns under their names. No other document is a row, so that an event comes of an object
unless it comes of a list.
-/

namespace EventRelay.Outbox

open Json

/-! ## Columns under their names -/

section Columns

variable {α β : Type} {columns : List (List String)} {items : List α}

/-- Items under the first names of columns. -/
def underNames (columns : List (List String)) (items : List α) : List (String × α) :=
  (columns.map fun names => names.headD "").zip items

theorem underNames_cons (names : List String) (rest : List (List String)) (item : α)
    (later : List α) : underNames (names :: rest) (item :: later) =
      (names.headD "", item) :: underNames rest later := rfl

theorem headD_mem {names : List String} (named : names ≠ []) : names.headD "" ∈ names := by
  cases names with
  | nil => contradiction
  | cons first _ => exact List.mem_cons_self

theorem keys_underNames_sublist (columns : List (List String)) (items : List α) :
    ((underNames columns items).map Prod.fst).Sublist
      (columns.map fun names => names.headD "") := by
  induction columns generalizing items with
  | nil => exact List.nil_sublist _
  | cons names rest ih =>
      cases items with
      | nil => exact List.nil_sublist _
      | cons item later => exact (ih later).cons_cons _

theorem exists_names_of_mem (named : ∀ names ∈ columns, names ≠ []) {entry : String × α}
    (mem : entry ∈ underNames columns items) : ∃ names ∈ columns, entry.1 ∈ names := by
  obtain ⟨names, inside, first⟩ := List.mem_map.mp (List.of_mem_zip mem).1
  exact ⟨names, inside, first ▸ headD_mem (named names inside)⟩

/-- Where no name is shared, the item of each column is found by the names of the column. -/
theorem filter_underNames (apart : columns.Pairwise List.Disjoint)
    (named : ∀ names ∈ columns, names ≠ []) (items : List α) {position : Nat}
    (inside : position < columns.length) :
    (underNames columns items).filter (fun entry => columns[position].contains entry.1) =
      (items[position]?.map fun item => (columns[position].headD "", item)).toList := by
  induction columns generalizing items position with
  | nil => contradiction
  | cons names rest ih =>
      obtain ⟨separate, apart⟩ := List.pairwise_cons.mp apart
      have first := headD_mem (named names List.mem_cons_self)
      have named := fun other mem => named other (List.mem_cons_of_mem _ mem)
      cases items with
      | nil => rfl
      | cons item later =>
          rw [underNames_cons]
          cases position with
          | zero =>
              have others : (underNames rest later).filter
                  (fun entry => names.contains entry.1) = [] := by
                rw [List.filter_eq_nil_iff]
                intro entry mem
                obtain ⟨other, inside, found⟩ := exists_names_of_mem named mem
                simpa using fun own => separate other inside own found
              rw [List.getElem_cons_zero, List.filter_cons_of_pos (by simpa using first), others]
              rfl
          | succ position =>
              have inside := Nat.lt_of_succ_lt_succ inside
              have passed := separate _ (List.getElem_mem inside) first
              rw [List.getElem_cons_succ, List.filter_cons_of_neg (by simpa using passed),
                ih apart named later inside]
              rfl

/-- A record with its columns under their names has for each what it has in the list. -/
theorem defaulted_underNames (apart : columns.Pairwise List.Disjoint)
    (named : ∀ names ∈ columns, names ≠ []) (items : List α) {position : Nat}
    (inside : position < columns.length) (read : α → Option (Option β)) :
    (Record.members (underNames columns items)).defaulted position columns[position] read =
      (Record.items items).defaulted position columns[position] read := by
  have found := filter_underNames apart named items inside
  unfold Record.defaulted Record.slot?
  dsimp only
  rw [found]
  cases items[position]? <;> rfl

end Columns

/-! ## Lists of columns -/

/-- The row with the columns of a list under their names. -/
def Row.spelled (items : List Value) : Value :=
  .object (orderMembers (underNames columnNames items))

variable {items : List Value} {image : Value}

/-- No name is shared between two columns. -/
theorem columnNames_disjoint : columnNames.Pairwise List.Disjoint :=
  (List.nodup_flatten.mp (by decide)).2

theorem columnNames_ne_nil : ∀ names ∈ columnNames, names ≠ [] := by decide

/-- A list of columns is the row that has them under their names. -/
theorem Row.ofValue?_list (short : items.length ≤ columnNames.length) :
    Row.ofValue? (.list items) = Row.ofValue? (Row.spelled items) := by
  have distinct : ((underNames columnNames items).map Prod.fst).Nodup :=
    (keys_underNames_sublist columnNames items).nodup (by decide)
  have opened : (Value.list items).record? columnNames.length = some (.items items) :=
    if_pos short
  rw [Row.spelled, Row.ofValue?_perm (perm_orderMembers distinct)]
  apply Row.ofValue?_congr opened rfl
  intro position inside β read
  rw [List.getD_eq_getElem _ _ inside]
  exact (defaulted_underNames columnNames_disjoint columnNames_ne_nil items inside read).symm

/-- A row that is no object is a list of columns. -/
theorem Row.exists_list_of_ofValue? {row : Row} (isRow : Row.ofValue? image = some row)
    (other : ∀ members, image ≠ .object members) :
    ∃ items, image = .list items ∧ items.length ≤ columnNames.length := by
  unfold Row.ofValue? at isRow
  obtain ⟨record, opened, -⟩ := Option.bind_eq_some_iff.mp isRow
  cases image with
  | object members => exact absurd rfl (other members)
  | list items =>
      refine ⟨items, rfl, ?_⟩
      by_contra long
      rw [Value.record?, if_neg long] at opened
      contradiction
  | null | bool _ | number _ | text _ => contradiction

/-! ## Decoding -/

variable {now : Instant} {record : SourceRecord} {schemaId : Option Nat}

/-- A list of columns makes what they make under their names. -/
theorem sealRow_list (short : items.length ≤ columnNames.length) :
    sealRow now record schemaId (.list items) =
      sealRow now record schemaId (Row.spelled items) := by
  rw [sealRow, Row.ofValue?_list short, sealRow]

/-- Of a record an event is decoded if its image is an object only, and no other image can be
decoded. -/
structure ObjectsOnly (now : Instant) (record : SourceRecord) : Prop where
  relayed : ∀ envelope, decoder now record = .ok (.event envelope) →
    ∃ schemaId members, Holds record schemaId (some (.object members))
  refused : ∀ schemaId image, Holds record schemaId (some image) →
    (∀ members, image ≠ .object members) → ∃ fault, decoder now record = .error (.decode fault)

/-- The image of a record is a list of columns that make an event under their names. -/
def ListsEvent (now : Instant) (record : SourceRecord) : Prop :=
  ∃ schemaId items envelope, Holds record schemaId (some (.list items)) ∧
    items.length ≤ columnNames.length ∧
    sealRow now record schemaId (Row.spelled items) = .ok (.event envelope)

/-- A list of columns that make an event is decoded to this event. -/
theorem ListsEvent.exists_event (lists : ListsEvent now record) :
    ∃ schemaId items envelope, Holds record schemaId (some (.list items)) ∧
      decoder now record = .ok (.event envelope) := by
  obtain ⟨schemaId, items, envelope, holds, short, made⟩ := lists
  refine ⟨schemaId, items, envelope, holds, ?_⟩
  rw [holds.decoder, decodeImage, sealRow_list short, made]
  rfl

/-- An image other than an object makes an event only if it lists one. -/
theorem ListsEvent.of_sealRow {image : Value} {decoded : Decoded}
    (holds : Holds record schemaId (some image)) (other : ∀ members, image ≠ .object members)
    (made : sealRow now record schemaId image = .ok decoded) : ListsEvent now record := by
  obtain ⟨row, envelope, isRow, -, rfl⟩ := exists_row_of_sealRow made
  obtain ⟨items, rfl, short⟩ := Row.exists_list_of_ofValue? isRow other
  rw [sealRow_list short] at made
  exact ⟨schemaId, items, envelope, holds, short, made⟩

/-- Only objects are decoded to events, and whatever else a record holds is refused, exactly
if the record does not list the columns of an event. -/
theorem objectsOnly_iff (now : Instant) (record : SourceRecord) :
    ObjectsOnly now record ↔ ¬ListsEvent now record := by
  constructor
  · intro only lists
    obtain ⟨schemaId, items, envelope, holds, decoded⟩ := lists.exists_event
    obtain ⟨fault, failed⟩ := only.refused schemaId _ holds fun _ => nofun
    rw [decoded] at failed
    contradiction
  · intro unlisted
    constructor
    · intro envelope decoded
      obtain ⟨schemaId, image, holds, made⟩ := exists_holds_of_event decoded
      by_contra none
      exact unlisted (.of_sealRow holds (fun members same => none ⟨schemaId, members, same ▸ holds⟩)
        made)
    · intro schemaId image holds other
      rw [holds.decoder, decodeImage]
      cases made : sealRow now record schemaId image with
      | error fault => exact ⟨fault, rfl⟩
      | ok decoded => exact absurd (.of_sealRow holds other made) unlisted

/-- An id and an event type that are listed are an event. -/
theorem objectsOnly_iff_listed :
    let text := Text.toBytes "[\"e-1\",\"t\"]"
    let record : SourceRecord := ⟨⟨"outbox", 0, 7⟩, none, some text, ∅, none⟩
    Holds record none (some (.list [.text "e-1", .text "t"])) ∧
      Row.spelled [.text "e-1", .text "t"] =
        .object [("event_type", .text "t"), ("id", .text "e-1")] ∧
      ListsEvent .epoch record ∧ ¬ObjectsOnly .epoch record := by
  intro text record
  let tree : Tree := .list [.text (Text.toBytes "e-1"), .text (Text.toBytes "t")]
  have parsed : Tree.parse? text = some tree := rfl
  have denotes :
      Value.ofTree? depthLimit tree = some (.list [.text "e-1", .text "t"]) := rfl
  have holds : Holds record none (some (.list [.text "e-1", .text "t"])) :=
    holds_of_parse? rfl parsed denotes
  have spelled : Row.spelled [.text "e-1", .text "t"] =
      .object [("event_type", .text "t"), ("id", .text "e-1")] := rfl
  let event : Envelope :=
    ⟨"e-1", "t", [], ∅, "", "", none, none, none, none, .epoch, by decide, by decide⟩
  have made : sealRow .epoch record none (Row.spelled [.text "e-1", .text "t"]) =
      .ok (.event event) := eq_ok_of_toOption (by decide +kernel)
  have lists : ListsEvent .epoch record := ⟨none, _, event, holds, by decide, made⟩
  exact ⟨holds, spelled, lists, fun only => (objectsOnly_iff .epoch record).mp only lists⟩

end EventRelay.Outbox

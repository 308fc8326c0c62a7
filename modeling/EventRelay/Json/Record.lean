import EventRelay.Json.Value

/-!
# Records

A record is written as an object with a member per field, or as a list of its
fields in the order declared. Members that belong to no field are passed over;
two members for one field, also under two of its names, make the record
unreadable, and so does a list longer than the fields.

A record can be opened from a document as written, in which parts that no field
takes are never asked what they denote, and from a value.
-/

namespace EventRelay.Json

/-- An opened record whose fields hold items of type `α`. -/
inductive Record (α : Type)
  /-- An object's members in the order written. -/
  | members (entries : List (String × α))
  /-- A list's items. -/
  | items (values : List α)

/-- What a record has for one field. -/
inductive Slot (α : Type)
  /-- An item. -/
  | given (item : α)
  /-- No member among those of an object. -/
  | absent
  /-- Nothing, the list being too short. -/
  | beyond

namespace Record

variable {α β : Type}

/-- What a record has for the field at `position` with the given names. -/
def slot? (record : Record α) (position : Nat) (names : List String) : Option (Slot α) :=
  match record with
  | .members entries =>
      match entries.filter fun entry => names.contains entry.1 with
      | [] => some .absent
      | [entry] => some (.given entry.2)
      | _ => none
  | .items values =>
      match values[position]? with
      | some item => some (.given item)
      | none => some .beyond

/-- A field that must be given. -/
def required (record : Record α) (position : Nat) (name : String) (read : α → Option β) :
    Option β := do
  match ← record.slot? position [name] with
  | .given item => read item
  | .absent | .beyond => none

/-- A field that an object may leave out but a list may not. -/
def optional (record : Record α) (position : Nat) (name : String)
    (read : α → Option (Option β)) : Option (Option β) := do
  match ← record.slot? position [name] with
  | .given item => read item
  | .absent => some none
  | .beyond => none

/-- A field that may be left out, and that goes by several names. -/
def defaulted (record : Record α) (position : Nat) (names : List String)
    (read : α → Option (Option β)) : Option (Option β) := do
  match ← record.slot? position names with
  | .given item => read item
  | .absent | .beyond => some none

end Record

namespace Tree

/-- A text. -/
def text? : Tree → Option String
  | .text raw => readQuoted? raw
  | _ => none

/-- A text, or null for none. -/
def nullableText? : Tree → Option (Option String)
  | .null => some none
  | tree => tree.text?.map some

/-- An integer from `least` to `most`. -/
def integer? (least most : Int) : Tree → Option Int
  | .number numeral =>
      match numeral.number? with
      | some (.integer value) => if least ≤ value ∧ value ≤ most then some value else none
      | _ => none
  | _ => none

/-- A list of items. -/
def list? {α : Type} (read : Tree → Option α) : Tree → Option (List α)
  | .list items => items.mapM read
  | _ => none

/-- Open a record of `count` fields. -/
def record? (count : Nat) : Tree → Option (Record Tree)
  | .object members => do
      let entries ← members.mapM fun (name, tree) => do
        let name ← readQuoted? name
        return (name, tree)
      return .members entries
  | .list items => if items.length ≤ count then some (.items items) else none
  | _ => none

end Tree

namespace Value

/-- A text, or null for none. -/
def nullableText? : Value → Option (Option String)
  | .null => some none
  | .text content => some (some content)
  | _ => none

/-- An integer from `least` to `most`, or null for none. -/
def nullableInteger? (least most : Int) : Value → Option (Option Int)
  | .null => some none
  | .number (.integer value) =>
      if least ≤ value ∧ value ≤ most then some (some value) else none
  | _ => none

/-- Any value but null, or null for none. -/
def nullable : Value → Option Value
  | .null => none
  | value => some value

/-- Open a record of `count` fields. -/
def record? (count : Nat) : Value → Option (Record Value)
  | .object members => some (.members members)
  | .list items => if items.length ≤ count then some (.items items) else none
  | _ => none

end Value

end EventRelay.Json

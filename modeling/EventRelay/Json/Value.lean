import EventRelay.Dictionary
import EventRelay.Json.Tree

/-!
# Free-form values

A value is what a document denotes when nothing is known about its form. Objects
list their members in increasing order of names, and of two members under one
name the later counts. Lists and objects nest at most 127 levels deep.
-/

namespace EventRelay.Json

/-- A free-form value. -/
inductive Value
  | null
  | bool (value : Bool)
  | number (number : Number)
  | text (text : String)
  | list (items : List Value)
  | object (members : List (String × Value))

instance : Inhabited Value := ⟨.null⟩

/-- How many levels of lists and objects a value may have. -/
def depthLimit : Nat := 127

/-- Members in increasing order of names; of two under one name the later stays. -/
def orderMembers {α : Type} (members : List (String × α)) : List (String × α) :=
  members.foldl (fun ordered member => insertEntry member.1 member.2 ordered) []

/-- The value that a document with at most `depth` levels denotes. -/
def Value.ofTree? : Nat → Tree → Option Value
  | _, .null => some .null
  | _, .bool value => some (.bool value)
  | _, .number numeral => numeral.number?.map .number
  | _, .text raw => (readQuoted? raw).map .text
  | 0, .list _ => none
  | depth + 1, .list items => (items.mapM (Value.ofTree? depth)).map .list
  | 0, .object _ => none
  | depth + 1, .object members => do
      let members ← members.mapM fun (name, tree) => do
        let name ← readQuoted? name
        let value ← Value.ofTree? depth tree
        return (name, value)
      return .object (orderMembers members)

/-- The value that a sequence of bytes denotes. -/
def Value.parse? (bytes : Bytes) : Option Value := do
  let tree ← Tree.parse? bytes
  Value.ofTree? depthLimit tree

mutual

/-- Write a value without blanks, members in the order listed. -/
def Value.write : Value → List Char
  | .null => "null".toList
  | .bool true => "true".toList
  | .bool false => "false".toList
  | .number number => number.write
  | .text text => writeQuoted text
  | .list items => '[' :: (writeItems items ++ [']'])
  | .object members => '{' :: (writeMembers members ++ ['}'])

/-- Write the items of a list, a comma between two. -/
def writeItems : List Value → List Char
  | [] => []
  | [item] => item.write
  | item :: next :: rest => item.write ++ ',' :: writeItems (next :: rest)

/-- Write the members of an object, a comma between two. -/
def writeMembers : List (String × Value) → List Char
  | [] => []
  | [(name, value)] => writeQuoted name ++ ':' :: value.write
  | (name, value) :: next :: rest =>
      writeQuoted name ++ ':' :: (value.write ++ ',' :: writeMembers (next :: rest))

end

namespace Value

/-- The text of a value. -/
def toText (value : Value) : String :=
  String.ofList value.write

/-- The bytes of a value. -/
def toBytes (value : Value) : Bytes :=
  Text.encode value.write

/-- Whether a value is null. -/
def isNull : Value → Bool
  | .null => true
  | _ => false

/-- A text. -/
def text? : Value → Option String
  | .text content => some content
  | _ => none

/-- An integer. -/
def integer? : Value → Option Int
  | .number (.integer value) => some value
  | _ => none

end Value

end EventRelay.Json

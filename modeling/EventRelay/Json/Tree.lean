import EventRelay.Json.Token

/-!
# Documents as trees

A document is one value: a scalar, a list of values, or an object of named
values. Tokens are read one by one; the lists and objects that are still open
are kept innermost first, so nesting may be as deep as it likes. A tree keeps
members in the order written, repeated names included.
-/

namespace EventRelay.Json

/-- A document as written. -/
inductive Tree
  | null
  | bool (value : Bool)
  | number (numeral : Numeral)
  | text (raw : Bytes)
  | list (items : List Tree)
  | object (members : List (Bytes × Tree))

/-- A list or object still open, with what it holds so far, latest first. -/
inductive Frame
  /-- A list. -/
  | list (items : List Tree)
  /-- An object between two members. -/
  | object (members : List (Bytes × Tree))
  /-- An object in which the value of `name` comes next. -/
  | member (members : List (Bytes × Tree)) (name : Bytes)

/-- What may come next. -/
inductive Expected
  /-- A value. -/
  | value
  /-- A value, or the end of the list just opened. -/
  | firstItem
  /-- A name, or the end of the object just opened. -/
  | firstName
  /-- A name. -/
  | name
  /-- A colon after a name. -/
  | colon
  /-- A comma or the end of the innermost list or object. -/
  | separator

/-- The state of reading tokens. -/
inductive Reading
  /-- Inside a document. -/
  | open (expected : Expected) (frames : List Frame)
  /-- After a document. -/
  | finished (tree : Tree)

namespace Reading

/-- Before any token. -/
def start : Reading := .open .value []

/-- Hand a finished value to the innermost frame. -/
def deliver (tree : Tree) : List Frame → Option Reading
  | [] => some (.finished tree)
  | .list items :: frames => some (.open .separator (.list (tree :: items) :: frames))
  | .member members name :: frames =>
      some (.open .separator (.object ((name, tree) :: members) :: frames))
  | .object _ :: _ => none

/-- Start a value. -/
def begin (frames : List Frame) : Token → Option Reading
  | .null => deliver .null frames
  | .bool value => deliver (.bool value) frames
  | .number numeral => deliver (.number numeral) frames
  | .text raw => deliver (.text raw) frames
  | .openList => some (.open .firstItem (.list [] :: frames))
  | .openObject => some (.open .firstName (.object [] :: frames))
  | _ => none

/-- End the innermost list or object. -/
def close : Token → List Frame → Option Reading
  | .closeList, .list items :: frames => deliver (.list items.reverse) frames
  | .closeObject, .object members :: frames => deliver (.object members.reverse) frames
  | _, _ => none

/-- Read a name in the innermost object. -/
def beginMember : Token → List Frame → Option Reading
  | .text raw, .object members :: frames => some (.open .colon (.member members raw :: frames))
  | _, _ => none

/-- Read one token. -/
def step : Reading → Token → Option Reading
  | .finished _, _ => none
  | .open .value frames, token => begin frames token
  | .open .firstItem frames, token =>
      if token = .closeList then close token frames else begin frames token
  | .open .firstName frames, token =>
      if token = .closeObject then close token frames else beginMember token frames
  | .open .name frames, token => beginMember token frames
  | .open .colon frames, token => if token = .colon then some (.open .value frames) else none
  | .open .separator frames, token =>
      if token = .comma then
        match frames with
        | .list _ :: _ => some (.open .value frames)
        | .object _ :: _ => some (.open .name frames)
        | _ => none
      else close token frames

/-- The document read, once it is complete. -/
def tree? : Reading → Option Tree
  | .finished tree => some tree
  | .open _ _ => none

end Reading

/-- Read tokens from a state on. -/
def readTokens : Reading → List Token → Option Reading
  | reading, [] => some reading
  | reading, token :: rest =>
      match reading.step token with
      | some next => readTokens next rest
      | none => none

/-- The document that a list of tokens is. -/
def Tree.ofTokens? (tokens : List Token) : Option Tree := do
  let reading ← readTokens Reading.start tokens
  reading.tree?

/-- The document that a sequence of bytes is. -/
def Tree.parse? (bytes : Bytes) : Option Tree := do
  let tokens ← Token.scan bytes
  Tree.ofTokens? tokens

@[simp]
theorem readTokens_append (reading : Reading) (left right : List Token) :
    readTokens reading (left ++ right) =
      (readTokens reading left).bind fun next => readTokens next right := by
  induction left generalizing reading with
  | nil => rfl
  | cons token rest ih =>
      simp only [List.cons_append, readTokens]
      cases reading.step token with
      | none => rfl
      | some next => exact ih next

end EventRelay.Json

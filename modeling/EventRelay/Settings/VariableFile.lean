import EventRelay.Settings.Variables
import EventRelay.Text.Alphanumeric
import EventRelay.Text.Blank

/-!
# Files of variables

A file sets variables, one to an entry; an entry runs on over lines while a quote
is open. What is set already stays. Reading ends quietly at the first entry that
is malformed. Values may be quoted, hold escapes, and refer to variables set
before.
-/

namespace EventRelay.VariableFile

/-! ## Entries -/

/-- Where in an entry a character stands. -/
inductive Place
  /-- Outside of quotes. -/
  | bare
  /-- Outside of quotes, after a blank. -/
  | afterBlank
  /-- Outside of quotes, after a backslash. -/
  | escaped
  /-- Inside single quotes. -/
  | single
  /-- Inside single quotes, after a backslash. -/
  | singleEscaped
  /-- Inside double quotes. -/
  | double
  /-- Inside double quotes, after a backslash. -/
  | doubleEscaped
  deriving DecidableEq, Repr

/-- The place after a character outside of quotes. -/
def Place.afterBare (char : Char) : Place :=
  if char = '\\' then .escaped
  else if char = '"' then .double
  else if char = '\'' then .single
  else .bare

/-- The place after a character. -/
def Place.after : Place → Char → Place
  | .bare, char =>
      if Text.isBlankChar char && char != '\n' && char != '\r' then .afterBlank
      else afterBare char
  | .afterBlank, char => afterBare char
  | .escaped, _ => .bare
  | .single, char =>
      if char = '\\' then .singleEscaped else if char = '\'' then .bare else .single
  | .singleEscaped, _ => .single
  | .double, char =>
      if char = '\\' then .doubleEscaped else if char = '"' then .bare else .double
  | .doubleEscaped, _ => .double

/-- How far an entry has come with a line. -/
inductive Extent
  /-- The line ends at the place given. -/
  | open (place : Place)
  /-- A comment follows what is given. -/
  | comment (before : List Char)

/-- Follow an entry along a line. A number sign after a blank opens a comment. -/
def follow : Place → List Char → Extent
  | place, [] => .open place
  | .afterBlank, '#' :: _ => .comment []
  | place, char :: rest =>
      match follow (place.after char) rest with
      | .open place => .open place
      | .comment before => .comment (char :: before)

/-- The lines of a text, each with its line feed. -/
def linesOf : List Char → List (List Char)
  | [] => []
  | '\n' :: rest => ['\n'] :: linesOf rest
  | char :: rest =>
      match linesOf rest with
      | [] => [[char]]
      | line :: lines => (char :: line) :: lines

/-- Whether what a line starts is a comment. -/
def isComment (chars : List Char) : Bool :=
  (Text.trimStart chars).head? = some '#'

/-- An entry without the end of its last line. -/
def withoutLineEnd (entry : List Char) : List Char :=
  match entry.reverse with
  | '\n' :: '\r' :: rest => rest.reverse
  | '\n' :: rest => rest.reverse
  | _ => entry

/-- The entries that lines make, after `held` lines of an entry still open at
`place`. Lines of comments make empty entries; `none` stands for an entry that
never ends. -/
def entriesFrom : Place → List Char → List (List Char) → List (Option (List Char))
  | place, _, [] => if place = .bare then [] else [none]
  | place, held, line :: rest =>
      if isComment (held ++ line) then some [] :: entriesFrom .bare [] rest
      else
        match follow place line with
        | .comment before => some (held ++ before) :: entriesFrom .bare [] rest
        | .open .bare => some (withoutLineEnd (held ++ line)) :: entriesFrom .bare [] rest
        | .open place => entriesFrom place (held ++ line) rest

/-- The entries of a file, which may start with a byte order mark. -/
def entries (text : String) : List (Option (List Char)) :=
  let chars := match text.toList with
    | '\uFEFF' :: rest => rest
    | chars => chars
  entriesFrom .bare [] (linesOf chars)

/-! ## Values -/

/-- What is being read of a value. -/
inductive Reading
  /-- Text outside of quotes. -/
  | bare
  /-- Text inside single quotes. -/
  | single
  /-- Text inside double quotes. -/
  | double
  /-- The value has ended; only a comment may follow. -/
  | ended
  deriving DecidableEq, Repr

/-- What a reference to a variable looks like so far. -/
inductive Reference
  /-- A dollar sign and a name. -/
  | plain (name : List Char)
  /-- A dollar sign, a brace and a name. -/
  | braced (name : List Char)

/-- The value of the variable with a name, or nothing. -/
def lookUp (bindings : Variables) (name : List Char) : List Char :=
  ((bindings.value? (String.ofList name)).getD "").toList

/-- The character that an escape stands for. -/
def unescape? : Char → Option Char
  | '\\' => some '\\'
  | '\'' => some '\''
  | '"' => some '"'
  | '$' => some '$'
  | ' ' => some ' '
  | 'n' => some '\n'
  | _ => none

/-- The text that rest of a value stands for, after what has been read of it. A
plain reference ends at the first character that no name has, and that character
stands for itself. -/
def valueFrom (bindings : Variables) : Reading → Option Reference → List Char → Option (List Char)
  | reading, some (.plain name), [] =>
      if reading = .double then none else some (lookUp bindings name.reverse)
  | _, some (.braced _), [] => none
  | reading, none, [] => if reading = .single ∨ reading = .double then none else some []
  | reading, some (.plain name), char :: rest =>
      if Text.isAlphanumeric char then
        valueFrom bindings reading (some (.plain (char :: name))) rest
      else if char = '{' ∧ name = [] then valueFrom bindings reading (some (.braced [])) rest
      else
        let value := lookUp bindings name.reverse
        if char = '$' then
          (valueFrom bindings reading (some (.plain [])) rest).map (value ++ ·)
        else (valueFrom bindings reading none rest).map fun more => value ++ char :: more
  | reading, some (.braced name), char :: rest =>
      if char = '}' then
        (valueFrom bindings reading none rest).map (lookUp bindings name.reverse ++ ·)
      else valueFrom bindings reading (some (.braced (char :: name))) rest
  | .ended, none, char :: rest =>
      if char = ' ' ∨ char = '\t' then valueFrom bindings .ended none rest
      else if char = '#' then some []
      else none
  | .single, none, char :: rest =>
      if char = '\'' then valueFrom bindings .bare none rest
      else (valueFrom bindings .single none rest).map (char :: ·)
  | reading, none, '$' :: rest => valueFrom bindings reading (some (.plain [])) rest
  | reading, none, ['\\'] => if reading = .double then none else some []
  | reading, none, '\\' :: escape :: rest =>
      match unescape? escape with
      | some char => (valueFrom bindings reading none rest).map (char :: ·)
      | none => none
  | .double, none, char :: rest =>
      if char = '"' then valueFrom bindings .bare none rest
      else (valueFrom bindings .double none rest).map (char :: ·)
  | .bare, none, char :: rest =>
      if char = '\'' then valueFrom bindings .single none rest
      else if char = '"' then valueFrom bindings .double none rest
      else if char = ' ' ∨ char = '\t' then valueFrom bindings .ended none rest
      else (valueFrom bindings .bare none rest).map (char :: ·)

/-! ## Assignments -/

/-- Whether a name may start with a character. -/
def startsName (char : Char) : Bool :=
  char.isAlpha || char == '_'

/-- Whether a name may go on with a character. -/
def continuesName (char : Char) : Bool :=
  char.isAlphanum || char == '_' || char == '.'

/-- A name and what follows it, blanks left out. -/
def splitName? (chars : List Char) : Option (List Char × List Char) :=
  match chars with
  | [] => none
  | first :: _ =>
      if startsName first then
        some (chars.takeWhile continuesName, Text.trimStart (chars.dropWhile continuesName))
      else none

/-- The name and the written value of an assignment, which may be announced by
the word `export`. -/
def splitAssignment? (chars : List Char) : Option (List Char × List Char) := do
  let (name, rest) ← splitName? chars
  match rest with
  | '=' :: value => return (name, Text.trimStart value)
  | _ =>
      if name = "export".toList then
        match ← splitName? rest with
        | (name, '=' :: value) => return (name, Text.trimStart value)
        | _ => none
      else none

/-- What an entry assigns: nothing if it is empty, and `none` if it is malformed. -/
def assignment? (bindings : Variables) (entry : List Char) :
    Option (Option (String × String)) :=
  let line := Text.trimStart (Text.trimEnd entry)
  match line with
  | [] => some none
  | '#' :: _ => some none
  | _ => do
      let (name, written) ← splitAssignment? line
      let value ←
        match written with
        | [] => some []
        | '#' :: _ => some []
        | _ => valueFrom bindings .bare none written
      return some (String.ofList name, String.ofList value)

/-- Set what entries assign and is not set yet, up to the first that is malformed. -/
def assign : Variables → List (Option (List Char)) → Variables
  | bindings, [] => bindings
  | bindings, none :: _ => bindings
  | bindings, some entry :: rest =>
      match assignment? bindings entry with
      | none => bindings
      | some none => assign bindings rest
      | some (some (name, value)) =>
          match bindings.value? name with
          | some _ => assign bindings rest
          | none => assign (bindings ++ [(name, value)]) rest

/-- Add what a file sets to the variables that are set. -/
def load (bindings : Variables) (text : String) : Variables :=
  assign bindings (entries text)

end EventRelay.VariableFile

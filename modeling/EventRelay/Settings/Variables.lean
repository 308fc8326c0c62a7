import EventRelay.Decimal.Literal
import EventRelay.Settings.Field

/-!
# Settings from variables

Settings are read from variables whose names start with `RELAY_`, in the order in
which the variables stand. What follows the prefix names the field, in any case;
variables that name no field are passed over. The first variable that is at fault
is reported.
-/

namespace EventRelay

/-- The variables that are set, in order. -/
abbrev Variables := List (String × String)

namespace Variables

/-- The value of a variable: what follows the name and an equals sign, where every
variable is written as its name, an equals sign and its value. A name that holds an
equals sign itself thus reaches into a value. -/
def value? (bindings : Variables) (name : String) : Option String :=
  bindings.findSome? fun (key, value) =>
    ((name ++ "=").toList.isPrefixOf? (key ++ "=" ++ value).toList).map String.ofList

example : value? [("A", "x=y")] "A" = some "x=y" := by decide +kernel

example : value? [("A", "x=y")] "A=x" = some "y" := by decide +kernel

/-- The lower-case letter of a letter of the alphabet; the sign of the kelvin is
another form of one. -/
def lowerChar (char : Char) : Char :=
  if char = '\u212A' then 'k' else char.toLower

/-- The field that a name stands for. -/
def fieldOf (name : String) : String :=
  String.ofList (name.toList.map lowerChar)

/-- A list of characters without the leading repetitions of a prefix. The length
of the list bounds their number. -/
def dropRepeated (start : List Char) : Nat → List Char → List Char
  | 0, chars => chars
  | rounds + 1, chars =>
      if start.isPrefixOf chars then dropRepeated start rounds (chars.drop start.length)
      else chars

/-- What names of variables for a relay start with. -/
def relayStart : List Char := "RELAY_".toList

/-- The variables for a relay, without the prefix of their names. -/
def forRelay (bindings : Variables) : Variables :=
  bindings.filterMap fun (name, value) =>
    if relayStart.isPrefixOf name.toList then
      some (String.ofList (dropRepeated relayStart name.length name.toList), value)
    else none

end Variables

namespace Field

/-- The items of a list, separated by commas. -/
def items (value : String) : List String :=
  if value.isEmpty then [] else value.splitOn ","

/-- Read an unsigned integer of sixty-four bits from the variable with a name. -/
def readWord (name value : String) : Except VariableFault UInt64 :=
  match Decimal.readUnsigned UInt64.size value with
  | .ok result => .ok (UInt64.ofNat result)
  | .error fault => .error (.integer fault value name)

/-- Read an unsigned integer of thirty-two bits from the variable with a name. -/
def readLimit (name value : String) : Except VariableFault UInt32 :=
  match Decimal.readUnsigned UInt32.size value with
  | .ok result => .ok (UInt32.ofNat result)
  | .error fault => .error (.integer fault value name)

/-- Read a number from the variable with a name. -/
def readNumber (name value : String) : Except VariableFault Float :=
  match Decimal.readFloat value with
  | .ok result => .ok result
  | .error fault => .error (.float fault value name)

/-- Read a truth value from the variable with a name. -/
def readFlag (name value : String) : Except VariableFault Bool :=
  match value with
  | "true" => .ok true
  | "false" => .ok false
  | _ => .error (.boolean value name)

/-- Read one of several choices, each with its spellings. -/
def readChoice {α : Type} (spellings : List (String × α)) (value : String) :
    Except VariableFault α :=
  match spellings.lookup value with
  | some chosen => .ok chosen
  | none => .error (.unknownChoice value (spellings.map Prod.fst))

/-- Set a field from the value of the variable with a name. -/
def assign (name value : String) (settings : Settings) : Field → Except VariableFault Settings
  | .text access => return access.set settings value
  | .optionalText access => return access.set settings (some value)
  | .texts access => return access.set settings (items value)
  | .word access => do return access.set settings (← readWord name value)
  | .words access => do return access.set settings (← (items value).mapM (readWord name))
  | .limit access => do return access.set settings (← readLimit name value)
  | .number access => do return access.set settings (← readNumber name value)
  | .flag access => do return access.set settings (← readFlag name value)
  | .strategy access => do return access.set settings (← readChoice strategySpellings value)
  | .format access => do return access.set settings (← readChoice logFormatSpellings value)

end Field

namespace Settings

/-- Go on setting fields from variables, given the fields that are set already. -/
def applyVariables : List String → Settings → Variables → Except VariableFault Settings
  | _, settings, [] => .ok settings
  | taken, settings, (name, value) :: rest =>
      let field := Variables.fieldOf name
      match fields.lookup field with
      | none => applyVariables taken settings rest
      | some access =>
          if taken.contains field then .error (.duplicate field)
          else do
            let settings ← access.assign name value settings
            applyVariables (field :: taken) settings rest

/-- The settings that variables make, whether usable or not. -/
def read (bindings : Variables) : Except VariableFault Settings :=
  applyVariables [] default bindings.forRelay

/-- The usable settings that variables make. -/
def ofVariables (bindings : Variables) : Except SettingsFault Settings := do
  let settings ← (read bindings).mapError .variable
  settings.validate
  return settings

end Settings

end EventRelay

import EventRelay.Instant.Printer
import EventRelay.Instant.Reader
import EventRelay.Json.Record
import EventRelay.Uuid

/-!
# Scalars in documents

Identifiers and instants stand in documents as texts, machine integers as
numbers without a fraction.
-/

namespace EventRelay.Json

namespace Tree

/-- An identifier, in any of its spellings. -/
def uuid? (tree : Tree) : Option Uuid :=
  tree.text?.bind Uuid.ofText?

/-- An instant, in any spelling that says its offset from universal time. -/
def instant? (tree : Tree) : Option Instant :=
  tree.text?.bind Instant.readRelaxed?

/-- An unsigned integer of thirty-two bits. -/
def uint32? (tree : Tree) : Option UInt32 :=
  (tree.integer? 0 (UInt32.size - 1)).map fun value => UInt32.ofNat value.toNat

/-- A signed integer of sixty-four bits. -/
def int64? (tree : Tree) : Option Int64 :=
  (tree.integer? Word.leastSigned Word.mostSigned).map Int64.ofInt

end Tree

namespace Value

/-- An identifier as it is written. -/
def ofUuid (uuid : Uuid) : Value := .text uuid.toText

/-- An instant as it is written. -/
def ofInstant (instant : Instant) : Value := .text instant.toText

/-- An unsigned integer as it is written. -/
def ofUInt32 (value : UInt32) : Value := .number (.integer value.toNat)

/-- A signed integer as it is written. -/
def ofInt64 (value : Int64) : Value := .number (.integer value.toInt)

/-- A text that may be missing. -/
def ofText? : Option String → Value
  | none => .null
  | some content => .text content

end Value

end EventRelay.Json

import EventRelay.Json.Value
import EventRelay.Proofs.QuotedTexts
import EventRelay.Proofs.TreeTokens
import EventRelay.Proofs.WrittenIntegers

/-!
# Written values read back

A value is written as one document, whose tokens stand next to each other. A number ends where
something follows that continues none, and after a value only a comma or the end of what holds
it may follow. So the bytes of a value without fractions are read as the document that it is
written as.
-/

namespace EventRelay.Json

open Decimal Text

/-! ## The document of a value -/

/-- The written form of a number. -/
def Number.numeral (number : Number) : Numeral :=
  (splitNumeral? (encode number.write)).elim ⟨false, [], none, none⟩ Prod.fst

mutual

/-- The document that a value is written as. -/
def Value.tree : Value → Tree
  | .null => .null
  | .bool value => .bool value
  | .number number => .number number.numeral
  | .text text => .text (quoted text)
  | .list items => .list (itemTrees items)
  | .object members => .object (memberTrees members)

/-- The documents of the items of a list. -/
def itemTrees : List Value → List Tree
  | [] => []
  | item :: rest => item.tree :: itemTrees rest

/-- The members of an object as written. -/
def memberTrees : List (String × Value) → List (Bytes × Tree)
  | [] => []
  | (name, value) :: rest => (quoted name, value.tree) :: memberTrees rest

end

/-- All numbers in a value are integers of a machine word. -/
inductive Value.Integral : Value → Prop
  | null : Integral .null
  | bool (value : Bool) : Integral (.bool value)
  | number {value : Int} (least : Word.leastSigned ≤ value) (most : value < UInt64.size) :
      Integral (.number (.integer value))
  | text (text : String) : Integral (.text text)
  | list {items : List Value} (each : ∀ item ∈ items, Integral item) : Integral (.list items)
  | object {members : List (String × Value)} (each : ∀ member ∈ members, Integral member.2) :
      Integral (.object members)

theorem numeral_integer (value : Int) : (Number.integer value).numeral = .ofInt value := by
  have split : splitNumeral? (encode (intDigits value) ++ []) = some (.ofInt value, []) :=
    splitNumeral?_intDigits value nofun
  rw [List.append_nil] at split
  rw [Number.numeral, Number.write, split]
  rfl

/-! ## Splitting bytes into tokens -/

/-- Bytes are split into tokens that stand next to each other. -/
inductive Splits : Bytes → List Token → Prop
  | nil : Splits [] []
  | cons {first : UInt8} {bytes rest : Bytes} {token : Token} {tokens : List Token}
      (unspaced : isSpace first = false)
      (split : Token.split? (first :: bytes) = some (token, rest))
      (shorter : rest.length ≤ bytes.length) (later : Splits rest tokens) :
      Splits (first :: bytes) (token :: tokens)

/-- Splitting needs no more fuel than there are bytes. -/
theorem Splits.scanWithin {bytes : Bytes} {tokens : List Token} (splits : Splits bytes tokens)
    {fuel : Nat} (enough : bytes.length ≤ fuel) :
    Token.scanWithin fuel bytes = some tokens := by
  induction splits generalizing fuel with
  | nil => cases fuel <;> rfl
  | @cons first bytes rest token tokens unspaced split shorter _ ih =>
      cases fuel with
      | zero => simp at enough
      | succ fuel =>
          have kept : (first :: bytes).dropWhile isSpace = first :: bytes :=
            List.dropWhile_cons_of_neg (by simp [unspaced])
          have remaining := ih (Nat.le_trans shorter (Nat.le_of_succ_le_succ enough))
          unfold Token.scanWithin
          rw [kept]
          simp only [split, remaining, Option.map_some]

/-- A byte that a number may start with. -/
def StartsNumber (byte : UInt8) : Prop :=
  byte = 0x2D ∨ isDigitByte byte = true

theorem StartsNumber.unspaced {byte : UInt8} (starts : StartsNumber byte) :
    isSpace byte = false := by
  rw [Bool.eq_false_iff]
  intro space
  simp only [isSpace, Bool.or_eq_true, beq_iff_eq] at space
  rcases space with ((rfl | rfl) | rfl) | rfl <;> revert starts <;> unfold StartsNumber <;> decide

/-- What starts as a number can only be one. -/
theorem StartsNumber.split? {first : UInt8} (starts : StartsNumber first) (bytes : Bytes) :
    Token.split? (first :: bytes) =
      (splitNumeral? (first :: bytes)).map fun (numeral, after) => (.number numeral, after) := by
  unfold StartsNumber at starts
  rw [Token.split?]
  -- Every other token starts with a byte that starts no number.
  all_goals
    intro after same
    rw [(List.cons.inj same).1] at starts
    revert starts
    decide

theorem exists_startsNumber_intDigits (value : Int) :
    ∃ first bytes, encode (intDigits value) = first :: bytes ∧ StartsNumber first := by
  unfold intDigits
  split
  · exact ⟨0x2D, encode (natDigits value.natAbs), encode_append ['-'] _, .inl rfl⟩
  · obtain ⟨byte, bytes, written, isDigit⟩ := exists_byte_natDigits value.natAbs
    exact ⟨byte, bytes, written, .inr isDigit⟩

variable {rest : Bytes} {more : List Token}

theorem splits_integer (value : Int) (ends : EndsNumber rest) (later : Splits rest more) :
    Splits (encode (intDigits value) ++ rest) (.number (.ofInt value) :: more) := by
  have split := splitNumeral?_intDigits value ends
  obtain ⟨first, bytes, written, starts⟩ := exists_startsNumber_intDigits value
  rw [written, List.cons_append] at split ⊢
  refine .cons starts.unspaced ?_ ?_ later
  · rw [starts.split?, split]
    rfl
  · rw [List.length_append]
    exact Nat.le_add_left _ _

theorem splits_text (text : String) (later : Splits rest more) :
    Splits (encode (writeQuoted text) ++ rest) (.text (quoted text) :: more) := by
  rw [encode_writeQuoted, List.cons_append, List.append_assoc, List.singleton_append]
  refine .cons rfl ?_ ?_ later
  · rw [Token.split?, splitQuoted?_quoted]
    rfl
  · rw [List.length_append, List.length_cons]
    omega

/-! ## Values -/

/-- The bytes of a value are split into the tokens of its document, wherever numbers end. -/
def Value.Spells (value : Value) : Prop :=
  ∀ {rest : Bytes} {more : List Token}, EndsNumber rest → Splits rest more →
    Splits (encode value.write ++ rest) (value.tree.tokens ++ more)

/-- A comma or a closing bracket ends a number. -/
theorem endsNumber_cons {byte : UInt8} (bytes : Bytes)
    (mark : byte = 0x2C ∨ byte = 0x5D ∨ byte = 0x7D) : EndsNumber (byte :: bytes) := by
  intro first same
  obtain rfl : byte = first := Option.some.inj same
  rcases mark with rfl | rfl | rfl <;> decide

theorem splits_items {items : List Value} (each : ∀ item ∈ items, item.Spells)
    (later : Splits rest more) :
    Splits (encode (writeItems items) ++ 0x5D :: rest)
      (itemTokens (itemTrees items) ++ .closeList :: more) := by
  have closes : Splits (0x5D :: rest) (.closeList :: more) := .cons rfl rfl Nat.le.refl later
  induction items with
  | nil => exact closes
  | cons item others ih =>
      rw [List.forall_mem_cons] at each
      cases others with
      | nil => exact each.1 (endsNumber_cons _ (by simp)) closes
      | cons next others =>
          have parts : encode (writeItems (item :: next :: others)) =
              encode item.write ++ 0x2C :: encode (writeItems (next :: others)) := by
            rw [writeItems, encode_append]
            rfl
          rw [parts, List.append_assoc, itemTrees, itemTrees, itemTokens, List.append_assoc]
          refine each.1 (endsNumber_cons _ (by simp)) ?_
          exact .cons rfl rfl Nat.le.refl (ih each.2)

theorem splits_members {members : List (String × Value)}
    (each : ∀ member ∈ members, member.2.Spells) (later : Splits rest more) :
    Splits (encode (writeMembers members) ++ 0x7D :: rest)
      (memberTokens (memberTrees members) ++ .closeObject :: more) := by
  have closes : Splits (0x7D :: rest) (.closeObject :: more) := .cons rfl rfl Nat.le.refl later
  induction members with
  | nil => exact closes
  | cons member others ih =>
      obtain ⟨name, value⟩ := member
      rw [List.forall_mem_cons] at each
      have named {bytes : Bytes} {tokens : List Token} (follows : Splits bytes tokens) :
          Splits (encode (writeQuoted name) ++ 0x3A :: bytes)
            (.text (quoted name) :: .colon :: tokens) :=
        splits_text name (.cons rfl rfl Nat.le.refl follows)
      cases others with
      | nil =>
          have parts : encode (writeMembers [(name, value)]) =
              encode (writeQuoted name) ++ 0x3A :: encode value.write := by
            rw [writeMembers, encode_append]
            rfl
          rw [parts, List.append_assoc]
          exact named (each.1 (endsNumber_cons _ (by simp)) closes)
      | cons next others =>
          have parts : encode (writeMembers ((name, value) :: next :: others)) =
              encode (writeQuoted name) ++ 0x3A ::
                (encode value.write ++ 0x2C :: encode (writeMembers (next :: others))) := by
            rw [writeMembers, encode_append]
            change _ ++ encode ([':'] ++ (value.write ++ ([','] ++ _))) = _
            simp only [encode_append]
            rfl
          have remaining := each.1 (endsNumber_cons _ (.inl rfl))
            (.cons rfl rfl Nat.le.refl (ih each.2))
          rw [parts, memberTrees, memberTrees, memberTokens, List.append_assoc]
          simp only [List.cons_append, List.append_assoc]
          exact named remaining

theorem Value.Integral.spells {value : Value} (integral : value.Integral) : value.Spells := by
  intro rest more ends later
  induction integral generalizing rest more with
  | null =>
      have word : encode Value.null.write = [0x6E, 0x75, 0x6C, 0x6C] := rfl
      rw [word]
      exact .cons rfl rfl (List.suffix_append [0x75, 0x6C, 0x6C] rest).length_le later
  | bool value =>
      cases value with
      | true =>
          have word : encode (Value.bool true).write = [0x74, 0x72, 0x75, 0x65] := rfl
          rw [word]
          exact .cons rfl rfl (List.suffix_append [0x72, 0x75, 0x65] rest).length_le later
      | false =>
          have word : encode (Value.bool false).write = [0x66, 0x61, 0x6C, 0x73, 0x65] := rfl
          rw [word]
          exact .cons rfl rfl (List.suffix_append [0x61, 0x6C, 0x73, 0x65] rest).length_le later
  | @number value least most =>
      rw [Value.tree, numeral_integer]
      exact splits_integer value ends later
  | text text => exact splits_text text later
  | @list items _ ih =>
      have parts : encode (Value.list items).write =
          0x5B :: (encode (writeItems items) ++ [0x5D]) := by
        rw [Value.write]
        change encode (['['] ++ (_ ++ [']'])) = _
        simp only [encode_append]
        rfl
      rw [parts, Value.tree, Tree.tokens]
      simp only [List.cons_append, List.append_assoc, List.nil_append]
      exact .cons rfl rfl Nat.le.refl (splits_items (fun item mem => ih item mem) later)
  | @object members _ ih =>
      have parts : encode (Value.object members).write =
          0x7B :: (encode (writeMembers members) ++ [0x7D]) := by
        rw [Value.write]
        change encode (['\x7b'] ++ (_ ++ ['\x7d'])) = _
        simp only [encode_append]
        rfl
      rw [parts, Value.tree, Tree.tokens]
      simp only [List.cons_append, List.append_assoc, List.nil_append]
      exact .cons rfl rfl Nat.le.refl (splits_members (fun member mem => ih member mem) later)

/-- A value without fractions is read as the document that it is written as. -/
theorem Value.Integral.parse?_toBytes {value : Value} (integral : value.Integral) :
    Tree.parse? value.toBytes = some value.tree := by
  have splits : Splits (encode value.write ++ []) (value.tree.tokens ++ []) :=
    integral.spells nofun .nil
  rw [List.append_nil, List.append_nil] at splits
  rw [Tree.parse?, Value.toBytes, Token.scan, splits.scanWithin Nat.le.refl]
  exact ofTokens?_tokens value.tree

end EventRelay.Json

/-!
# Blank characters

The characters with the Unicode property `White_Space`, and the texts made of
them alone. Identifiers, topics and names are compared after their blanks at
both ends have been taken off.
-/

namespace EventRelay.Text

/-- The twenty-five code points with the property `White_Space`, as ranges. -/
def blankRanges : List (Nat × Nat) :=
  [(0x0009, 0x000D), (0x0020, 0x0020), (0x0085, 0x0085), (0x00A0, 0x00A0),
   (0x1680, 0x1680), (0x2000, 0x200A), (0x2028, 0x2029), (0x202F, 0x202F),
   (0x205F, 0x205F), (0x3000, 0x3000)]

/-- Whether a character has the property `White_Space`. -/
def isBlankChar (char : Char) : Bool :=
  blankRanges.any fun range => range.1 ≤ char.toNat && char.toNat ≤ range.2

/-- The characters from the first that is not blank. -/
def trimStart (chars : List Char) : List Char :=
  chars.dropWhile isBlankChar

/-- The characters up to the last that is not blank. -/
def trimEnd (chars : List Char) : List Char :=
  (chars.reverse.dropWhile isBlankChar).reverse

/-- A text without the blanks at its ends. -/
def trim (text : String) : String :=
  String.ofList (trimEnd (trimStart text.toList))

/-- Whether a text is empty or holds blanks only. -/
def isBlank (text : String) : Bool :=
  text.toList.all isBlankChar

@[simp]
theorem isBlank_empty : isBlank "" = true := rfl

/-- A text is blank exactly when trimming leaves nothing of it. -/
theorem isBlank_iff_trim_eq_empty (text : String) : isBlank text = true ↔ trim text = "" := by
  have dropped : ∀ chars : List Char, chars.all isBlankChar = true ↔ trimStart chars = [] := by
    intro chars
    induction chars with
    | nil => simp [trimStart]
    | cons first rest ih =>
        by_cases blank : isBlankChar first <;> simp_all [trimStart]
  have head_not_blank : ∀ chars : List Char, trimEnd (trimStart chars) = [] →
      trimStart chars = [] := by
    intro chars ended
    have reversed : (trimStart chars).reverse.all isBlankChar = true :=
      (dropped _).mpr (List.reverse_eq_nil_iff.mp ended)
    rw [List.all_reverse] at reversed
    cases kept : trimStart chars with
    | nil => rfl
    | cons first rest =>
        have blank : isBlankChar first = true := by
          rw [kept] at reversed
          exact (List.all_eq_true.mp reversed) first List.mem_cons_self
        have notBlank : isBlankChar first = false := by
          have := List.head?_dropWhile_not isBlankChar chars
          rw [show chars.dropWhile isBlankChar = first :: rest from kept] at this
          simpa using this
        rw [blank] at notBlank
        contradiction
  constructor
  · intro blank
    have started := (dropped text.toList).mp blank
    simp [trim, started, trimEnd]
  · intro trimmed
    have ended : trimEnd (trimStart text.toList) = [] := by
      have := congrArg String.toList trimmed
      simpa [trim] using this
    exact (dropped text.toList).mpr (head_not_blank _ ended)

end EventRelay.Text

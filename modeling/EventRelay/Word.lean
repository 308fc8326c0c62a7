/-!
# Machine words

The bounds of signed words of sixty-four bits. Unsigned words are counted by
`UInt32.size` and `UInt64.size`.
-/

namespace EventRelay.Word

/-- The sign of a word of sixty-four bits, as a number. -/
abbrev signBit : Nat := 9223372036854775808

/-- The least signed word of sixty-four bits. -/
abbrev leastSigned : Int := -9223372036854775808

/-- The greatest signed word of sixty-four bits. -/
abbrev mostSigned : Int := 9223372036854775807

theorem toInt_minValue : Int64.minValue.toInt = leastSigned := by decide

theorem toInt_maxValue : Int64.maxValue.toInt = mostSigned := by decide

end EventRelay.Word

import EventRelay.Overflow
import EventRelay.Retry.Strategy

/-!
# Durations in words

A duration is held in two words, one of whole seconds and a shorter one of the nanoseconds left
over. Whether the seconds of a sum or a multiple fit is tried, and the longest duration stands in
where they do not; the nanoseconds are added and multiplied untried, which could be an overflow.
It never is one, and what is computed on the words is what durations come to.
-/

namespace EventRelay

/-- The longer unsigned integer with the value of an exact result, which has to fit. -/
def uint64Within (overflow : Overflow) (exact : Nat) : Except Overflow UInt64 :=
  if exact < UInt64.size then .ok (UInt64.ofNat exact) else .error overflow

theorem exists_uint64Within {exact : Nat} (fits : exact < UInt64.size) (overflow : Overflow) :
    ∃ word, uint64Within overflow exact = .ok word ∧ word.toNat = exact :=
  ⟨UInt64.ofNat exact, if_pos fits, UInt64.toNat_ofNat_of_lt' fits⟩

theorem exists_uint32Within {exact : Nat} (fits : exact < UInt32.size) (overflow : Overflow) :
    ∃ word, uint32Within overflow exact = .ok word ∧ word.toNat = exact :=
  ⟨UInt32.ofNat exact, if_pos fits, UInt32.toNat_ofNat_of_lt' fits⟩

namespace Duration

theorem eq_of_nanos {left right : Duration} (same : left.nanos = right.nanos) : left = right := by
  cases left
  cases right
  congr

/-- A duration in whole seconds and the nanoseconds left over. -/
structure Words where
  seconds : UInt64
  rest : UInt32
  /-- A second of nanoseconds is not left over. -/
  rest_lt : rest.toNat < 1000000000
  deriving DecidableEq, Repr

/-- The words that hold a duration. -/
def words (duration : Duration) : Words where
  seconds := UInt64.ofNat (duration.nanos / 1000000000)
  rest := UInt32.ofNat (duration.nanos % 1000000000)
  rest_lt := by
    have rest := Nat.mod_lt duration.nanos (show 0 < 1000000000 by decide)
    rwa [UInt32.toNat_ofNat_of_lt' (Nat.lt_trans rest (by decide))]

namespace Words

/-- The duration that words hold. -/
def whole (words : Words) : Duration :=
  ⟨words.seconds.toNat * 1000000000 + words.rest.toNat, by
    have seconds := words.seconds.toNat_lt
    have rest := words.rest_lt
    simp only [longestNanos, UInt64.size]
    omega⟩

/-- The words of the longest duration. -/
def longest : Words := ⟨UInt64.ofNat (UInt64.size - 1), 999999999, by decide⟩

/-- So many seconds and nanoseconds, of which whole seconds are carried, or the longest duration
where the seconds do not fit. -/
def carried (seconds : Nat) (nanos : UInt64) : Words :=
  let total := seconds + (nanos / 1000000000).toNat
  if total < UInt64.size then
    ⟨UInt64.ofNat total, (nanos % 1000000000).toUInt32, by
      have remainder := Nat.mod_lt nanos.toNat (show 0 < 1000000000 by decide)
      have fits := Nat.mod_le (nanos.toNat % 1000000000) (2 ^ 32)
      simp only [UInt64.toNat_toUInt32, UInt64.toNat_mod, UInt64.reduceToNat]
      omega⟩
  else longest

/-- A multiple of a duration, at most the longest. -/
def times (words : Words) (count : UInt32) : Except Overflow Words := do
  let nanos ← uint64Within .multiplication (words.rest.toNat * count.toNat)
  return carried (words.seconds.toNat * count.toNat) nanos

/-- The sum of two durations, at most the longest. -/
def plus (left right : Words) : Except Overflow Words := do
  let nanos ← uint32Within .addition (left.rest.toNat + right.rest.toNat)
  return carried (left.seconds.toNat + right.seconds.toNat) nanos.toUInt64

/-- How many retries come before one; none comes before the first. -/
def earlier (retry : UInt32) : UInt32 :=
  if retry = 0 then 0 else retry - 1

/-- The wait before a retry that grows by a step each time. -/
def increment (initial step : Words) (retry : UInt32) : Except Overflow Words := do
  initial.plus (← step.times (earlier retry))

/-! ## What the words hold -/

theorem nanos_whole (words : Words) :
    words.whole.nanos = words.seconds.toNat * 1000000000 + words.rest.toNat := rfl

theorem whole_words (duration : Duration) : duration.words.whole = duration := by
  have most := duration.nanos_le
  have rest := Nat.mod_lt duration.nanos (show 0 < 1000000000 by decide)
  simp only [longestNanos, UInt64.size] at most
  apply eq_of_nanos
  rw [nanos_whole]
  unfold words
  rw [UInt64.toNat_ofNat_of_lt' (by simp only [UInt64.size]; omega),
    UInt32.toNat_ofNat_of_lt' (Nat.lt_trans rest (by decide))]
  omega

theorem whole_carried (seconds : Nat) (nanos : UInt64) :
    (carried seconds nanos).whole = ofNanos (seconds * 1000000000 + nanos.toNat) := by
  have quotient : (nanos / 1000000000).toNat = nanos.toNat / 1000000000 := UInt64.toNat_div _ _
  unfold carried
  simp only [quotient]
  split
  · rename_i fits
    have word : (UInt64.ofNat (seconds + nanos.toNat / 1000000000)).toNat = _ :=
      UInt64.toNat_ofNat_of_lt' fits
    have rest : (nanos % 1000000000).toUInt32.toNat = nanos.toNat % 1000000000 := by
      rw [UInt64.toNat_toUInt32, UInt64.toNat_mod]
      exact Nat.mod_eq_of_lt (by simp only [UInt64.reduceToNat]; omega)
    apply eq_of_nanos
    rw [nanos_whole, nanos_ofNanos, word, rest]
    simp only [longestNanos, UInt64.size] at fits ⊢
    omega
  · rename_i large
    apply eq_of_nanos
    rw [nanos_ofNanos, show longest.whole.nanos = longestNanos by decide]
    simp only [longestNanos, UInt64.size] at large ⊢
    omega

/-- The nanoseconds left over can be multiplied by any count. -/
theorem exists_times (words : Words) (count : UInt32) :
    ∃ product, words.times count = .ok product ∧
      product.whole = words.whole.scale count.toNat := by
  have fits : words.rest.toNat * count.toNat < UInt64.size :=
    calc words.rest.toNat * count.toNat ≤ 1000000000 * 2 ^ 32 :=
          Nat.mul_le_mul (Nat.le_of_lt words.rest_lt) (Nat.le_of_lt count.toNat_lt)
      _ < UInt64.size := by decide
  obtain ⟨nanos, multiplied, value⟩ := exists_uint64Within fits .multiplication
  refine ⟨carried (words.seconds.toNat * count.toNat) nanos, ?_, ?_⟩
  · rw [times, multiplied]
    rfl
  · rw [whole_carried, value, scale, nanos_whole, Nat.add_mul, Nat.mul_right_comm]

/-- The nanoseconds left over can be added to any others. -/
theorem exists_plus (left right : Words) :
    ∃ sum, left.plus right = .ok sum ∧ sum.whole = left.whole.add right.whole := by
  have fits : left.rest.toNat + right.rest.toNat < UInt32.size := by
    have first := left.rest_lt
    have second := right.rest_lt
    simp only [UInt32.size]
    omega
  obtain ⟨nanos, added, value⟩ := exists_uint32Within fits .addition
  refine ⟨carried (left.seconds.toNat + right.seconds.toNat) nanos.toUInt64, ?_, ?_⟩
  · rw [plus, added]
    rfl
  · rw [whole_carried, UInt32.toNat_toUInt64, value, add, nanos_whole, nanos_whole, Nat.add_mul,
      Nat.add_add_add_comm]

theorem toNat_earlier (retry : UInt32) : (earlier retry).toNat = retry.toNat - 1 := by
  unfold earlier
  split
  · rename_i none
    rw [none]
    rfl
  · rename_i some
    have nonzero : retry.toNat ≠ (0 : UInt32).toNat := mt UInt32.toNat_inj.mp some
    have positive : 0 < retry.toNat := Nat.pos_of_ne_zero nonzero
    exact UInt32.toNat_sub_of_le _ _ (UInt32.le_iff_toNat_le.mpr positive)

/-- The wait that is computed on words is no overflow, and is the wait before the retry. -/
theorem exists_increment (initial step : Duration) (retry : UInt32) :
    ∃ wait, initial.words.increment step.words retry = .ok wait ∧
      wait.whole = (Retry.Strategy.incremental initial step).delay retry.toNat := by
  obtain ⟨product, multiplied, multiple⟩ := exists_times step.words (earlier retry)
  obtain ⟨wait, added, sum⟩ := exists_plus initial.words product
  refine ⟨wait, ?_, ?_⟩
  · rw [increment, multiplied]
    exact added
  · rw [sum, multiple, toNat_earlier, whole_words, whole_words]
    rfl

end Words

end Duration

end EventRelay

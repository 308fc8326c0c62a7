import EventRelay.Word

/-!
# Arithmetic that stops at its bounds

Counts and amounts are machine integers. An operation whose exact result does
not fit is an overflow, and nothing is computed past one.
-/

namespace EventRelay

/-- Which operation left its bounds. -/
inductive Overflow
  | addition
  | multiplication
  deriving DecidableEq, Repr

/-- The wording of an overflow. -/
def Overflow.message : Overflow → String
  | .addition => "attempt to add with overflow"
  | .multiplication => "attempt to multiply with overflow"

/-- The signed integer with the value of an exact result, which has to fit. -/
def int64Within (overflow : Overflow) (exact : Int) : Except Overflow Int64 :=
  if Word.leastSigned ≤ exact ∧ exact ≤ Word.mostSigned then .ok (Int64.ofInt exact)
  else .error overflow

/-- The unsigned integer with the value of an exact result, which has to fit. -/
def uint32Within (overflow : Overflow) (exact : Nat) : Except Overflow UInt32 :=
  if exact < UInt32.size then .ok (UInt32.ofNat exact) else .error overflow

theorem int64Within_eq_ok_iff {overflow : Overflow} {exact : Int} {value : Int64} :
    int64Within overflow exact = .ok value ↔ value.toInt = exact := by
  have low := value.le_toInt
  have high := value.toInt_lt
  unfold int64Within Word.leastSigned Word.mostSigned
  split
  · rename_i fits
    constructor
    · intro eq
      cases eq
      exact Int64.toInt_ofInt_of_le fits.1 (by omega)
    · intro eq
      rw [← eq, Int64.ofInt_toInt]
  · rename_i outside
    constructor
    · intro eq
      cases eq
    · intro eq
      omega

theorem uint32Within_eq_ok_iff {overflow : Overflow} {exact : Nat} {value : UInt32} :
    uint32Within overflow exact = .ok value ↔ value.toNat = exact := by
  have high := value.toNat_lt
  unfold uint32Within UInt32.size
  split
  · rename_i fits
    constructor
    · intro eq
      cases eq
      exact UInt32.toNat_ofNat_of_lt' (by simpa [UInt32.size] using fits)
    · intro eq
      rw [← eq, UInt32.ofNat_toNat]
  · rename_i outside
    constructor
    · intro eq
      cases eq
    · intro eq
      omega

end EventRelay

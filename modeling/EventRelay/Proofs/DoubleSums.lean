import EventRelay.Proofs.DoubleArithmetic

/-!
# Sums of doubles

The sum of doubles that are numbers and not negative is the rounded sum of what they stand for.
So natural numbers are summed up exactly as long as fifty-three bits hold the sum. Of the sums
beyond, no double is an odd one.
-/

namespace EventRelay.Double

open Float.Model (Format UnpackedFloat)
open Float.Model.UnpackedFloat

variable {left right : UnpackedFloat} {x y : ℚ}

/-! ## Rounding to what a double can hold -/

/-- Packed again, a double stands for what it stood for. -/
theorem Magnitude.repack {held : WithTop ℚ} (magnitude : Magnitude left held) :
    Magnitude (Float.Model.pack left).unpack held := by
  cases magnitude with
  | zero sign =>
      rw [unpack_pack_zero]
      exact .zero sign
  | finite positive canonical small =>
      rw [unpack_pack_finite canonical positive small]
      exact .finite positive canonical small
  | infinity =>
      rw [unpack_pack_infinity]
      exact .infinity

theorem log2_mul_two_pow {n : ℕ} (positive : 0 < n) (shift : ℕ) :
    (n * 2 ^ shift).log2 = n.log2 + shift := by
  induction shift with
  | zero => rw [pow_zero, mul_one, Nat.add_zero]
  | succ shift ih =>
      have some : n * 2 ^ shift ≠ 0 := by positivity
      rw [pow_succ', mul_left_comm, Nat.log2_two_mul some, ih, Nat.add_assoc]

/-- A natural number of units is brought to its target and rounded. -/
theorem exists_normalize {significand : ℕ} (positive : 0 < significand) (exponent : ℤ)
    (sign : Sign) :
    ∃ result, Magnitude (Float.Model.pack
        (UnpackedFloat.normalize Format.binary64 significand exponent sign)).unpack result ∧
      Rounded (significand * 2 ^ exponent) result := by
  have above : compare (significand : ℤ) 0 = .gt := compare_gt_iff_gt.mpr (by omega)
  generalize shifted : (exponent - target significand exponent).toNat = shift
  have brought : UnpackedFloat.normalize Format.binary64 significand exponent sign =
      roundWithAccuracy Format.binary64 .positive (significand * 2 ^ shift) (exponent - shift)
        .exact := by
    unfold UnpackedFloat.normalize
    rw [above, Int.toNat_natCast, ← shifted, ← Nat.shiftLeft_eq]
    rfl
  have bits := log2_mul_two_pow positive shift
  have reached : exponent - shift ≤ target (significand * 2 ^ shift) (exponent - shift) := by
    rw [target_eq] at shifted ⊢
    rw [bits]
    omega
  have value := mul_zpow_of_le significand (show exponent - shift ≤ exponent by omega)
  rw [sub_sub_cancel, Int.toNat_natCast] at value
  rw [brought, value]
  exact Tells.exists_rounded (.exact rfl) reached

/-! ## Sums -/

/-- Two significands are brought to the lesser exponent and added. -/
theorem add_finite {m n : ℕ} {e d : ℤ} (positive : 0 < m) (some : 0 < n) :
    add Format.binary64 (.finite .positive m e positive) (.finite .positive n d some) =
      UnpackedFloat.normalize Format.binary64
        ((m * 2 ^ (e - min e d).toNat + n * 2 ^ (d - min e d).toNat : ℕ) : ℤ) (min e d)
          .positive := by
  rw [← Nat.shiftLeft_eq, ← Nat.shiftLeft_eq, Nat.cast_add]
  rfl

/-- The sum of numbers is rounded. -/
theorem Magnitude.exists_add (first : Magnitude left x) (second : Magnitude right y) :
    ∃ result, Magnitude (Float.Model.pack (add Format.binary64 left right)).unpack result ∧
      Rounded (x + y) result := by
  obtain ⟨sign, rfl, rfl⟩ | ⟨m, e, positive, canonical, rfl, rfl⟩ := first.eq_zero_or
  · rw [zero_add]
    refine ⟨y, ?_, .self y⟩
    obtain ⟨other, rfl, rfl⟩ | ⟨n, d, some, held, rfl, rfl⟩ := second.eq_zero_or
    · change Magnitude (Float.Model.pack (if sign == other then .zero sign else
        .zero .positive)).unpack _
      split
      · exact Magnitude.repack (.zero sign)
      · exact Magnitude.repack (.zero .positive)
    · exact second.repack
  · obtain ⟨other, rfl, rfl⟩ | ⟨n, d, some, held, rfl, rfl⟩ := second.eq_zero_or
    · rw [add_zero]
      exact ⟨_, first.repack, .self _⟩
    · rw [add_finite, mul_zpow_of_le m (min_le_left e d), mul_zpow_of_le n (min_le_right e d),
        ← add_mul, ← Nat.cast_add]
      exact exists_normalize (by positivity) _ _

/-- A sum that a double can hold is not rounded. -/
theorem Stands.add {first second sum : Float} (stands : Stands first x) (other : Stands second y)
    (held : Stands sum (x + y : ℚ)) : Stands (first + second) (x + y : ℚ) := by
  obtain ⟨result, magnitude, rounded⟩ := Magnitude.exists_add stands other
  rw [← rounded.eq_of_held held]
  exact magnitude

/-- A natural number is added exactly as long as fifty-three bits hold the sum. -/
theorem Stands.add_ofNat {double : Float} {m n : ℕ} (stands : Stands double (m : ℚ))
    (small : m + n ≤ 2 ^ 53) : Stands (double + Float.ofNat n) ((m + n : ℕ) : ℚ) := by
  have held := stands_ofNat small
  rw [Nat.cast_add] at held ⊢
  exact stands.add (stands_ofNat (by omega)) held

/-- Natural numbers are summed up exactly as long as fifty-three bits hold the sum. The induction
is on the numbers that were added before. -/
theorem stands_foldr_add (numbers : List ℕ) (small : numbers.sum ≤ 2 ^ 53) :
    Stands (numbers.foldr (fun number sum => sum + Float.ofNat number) 0) (numbers.sum : ℚ) := by
  induction numbers with
  | nil =>
      have zero : Stands (Float.ofNat 0) ((0 : ℕ) : ℚ) := stands_ofNat (Nat.zero_le _)
      rw [List.foldr_nil, List.sum_nil]
      exact zero
  | cons number numbers ih =>
      rw [List.sum_cons] at small
      rw [List.foldr_cons, List.sum_cons, Nat.add_comm]
      exact (ih (by omega)).add_ofNat (by omega)

/-- Beyond fifty-three bits doubles hold no odd number, so a sum that is odd is not held. -/
theorem not_stands_of_odd {double : Float} {n : ℕ} (odd : n % 2 = 1) (large : 2 ^ 53 < n) :
    ¬ Stands double (n : ℚ) := by
  intro stands
  obtain infinite | ⟨significand, exponent, canonical, -, held⟩ := Magnitude.eq_top_or stands
  · exact absurd infinite (WithTop.coe_ne_top)
  have value : (n : ℚ) = significand * 2 ^ exponent := WithTop.coe_injective held
  rcases le_or_gt exponent 0 with fine | coarse
  · have most : (significand * 2 ^ exponent : ℚ) ≤ significand :=
      mul_le_of_le_one_right (Nat.cast_nonneg _) (zpow_le_one_of_nonpos₀ one_le_two fine)
    have less : n ≤ significand := by exact_mod_cast value.trans_le most
    exact absurd canonical.significand_lt (by omega)
  · rw [mul_zpow_of_le significand (show 1 ≤ exponent by omega), zpow_one] at value
    have even : n = significand * 2 ^ (exponent - 1).toNat * 2 := by exact_mod_cast value
    omega

end EventRelay.Double

import EventRelay.Proofs.DoubleRounding

/-!
# Arithmetic of doubles

Products and quotients of doubles that are numbers and not negative are the rounded products and
quotients of what they stand for. Small natural numbers are held exactly, and a double is cut off
to the natural number below it.
-/

namespace EventRelay.Double

open Float.Model (Format UnpackedFloat totalExponent)
open Float.Model.UnpackedFloat

variable {left right : UnpackedFloat} {x y : ℚ}

/-! ## Operands -/

/-- A double that stands for a number is a zero, or holds the number in canonical form. -/
theorem Magnitude.eq_zero_or (magnitude : Magnitude left x) :
    (∃ sign, left = .zero sign ∧ x = 0) ∨
      ∃ (significand : ℕ) (exponent : ℤ) (positive : 0 < significand),
        Canonical significand exponent ∧ left = .finite .positive significand exponent positive ∧
          x = significand * 2 ^ exponent := by
  generalize same : (x : WithTop ℚ) = held at magnitude
  cases magnitude with
  | zero sign => exact .inl ⟨sign, rfl, WithTop.coe_eq_zero.mp same⟩
  | finite positive canonical =>
      exact .inr ⟨_, _, positive, canonical, rfl, WithTop.coe_inj.mp same⟩
  | infinity => exact absurd same WithTop.coe_ne_top

theorem Magnitude.eq_infinity (magnitude : Magnitude left ⊤) : left = .infinity .positive := by
  generalize same : (⊤ : WithTop ℚ) = held at magnitude
  cases magnitude with
  | zero => exact absurd same WithTop.top_ne_zero
  | finite => exact absurd same WithTop.top_ne_coe
  | infinity => rfl

/-! ## Products -/

theorem le_target_of_normal {significand : ℕ} (normal : 2 ^ 52 ≤ significand) (exponent : ℤ) :
    exponent ≤ target significand exponent := by
  have bits : 52 ≤ significand.log2 := (Nat.le_log2 (by omega)).mpr normal
  rw [target_eq]
  omega

theorem Canonical.le_target_mul {first second : ℕ} {low high : ℤ} (canonical : Canonical first low)
    (other : Canonical second high) (positive : 0 < first) (some : 0 < second) :
    low + high ≤ target (first * second) (low + high) := by
  rcases canonical.normal with normal | least
  · exact le_target_of_normal (normal.trans (Nat.le_mul_of_pos_right first some)) _
  rcases other.normal with normal | other
  · exact le_target_of_normal (normal.trans (Nat.le_mul_of_pos_left second positive)) _
  · rw [target_eq]
    omega

/-- The product of numbers is rounded. -/
theorem Magnitude.exists_mul (first : Magnitude left x) (second : Magnitude right y) :
    ∃ result, Magnitude (Float.Model.pack (mul Format.binary64 left right)).unpack result ∧
      Rounded (x * y) result := by
  have none {sign : Sign} (zero : x * y = 0) :
      ∃ result, Magnitude (Float.Model.pack (.zero sign)).unpack result ∧
        Rounded (x * y) result := by
    rw [zero, unpack_pack_zero]
    exact ⟨_, .zero sign, .self 0⟩
  obtain ⟨sign, rfl, rfl⟩ | ⟨m, e, positive, canonical, rfl, rfl⟩ := first.eq_zero_or
  · obtain ⟨other, rfl, rfl⟩ | ⟨_, _, some, -, rfl, rfl⟩ := second.eq_zero_or
    · exact none (zero_mul _)
    · exact none (zero_mul _)
  · obtain ⟨other, rfl, rfl⟩ | ⟨n, d, some, held, rfl, rfl⟩ := second.eq_zero_or
    · exact none (mul_zero _)
    · have tells : Tells (.ofMantissaAndAccuracy (m * n) .exact) (m * n : ℕ) := .exact rfl
      have product : (m * 2 ^ e * (n * 2 ^ d) : ℚ) = (m * n : ℕ) * 2 ^ (e + d) := by
        rw [zpow_add₀ two_ne_zero]
        push_cast
        ring
      rw [product]
      exact tells.exists_rounded (canonical.le_target_mul held positive some)

/-- A product with one is not rounded. -/
theorem Stands.mul_of_one {first second : Float} (stands : Stands first x)
    (one : Stands second (1 : ℚ)) : Stands (first * second) x := by
  obtain ⟨result, magnitude, rounded⟩ := Magnitude.exists_mul stands one
  rw [mul_one] at rounded
  rw [← rounded.eq_of_held stands]
  exact magnitude

/-- The product of infinity and what is positive is infinity. -/
theorem Magnitude.mul_infinity {held : WithTop ℚ} (magnitude : Magnitude left held)
    (positive : 0 < held) :
    Magnitude (Float.Model.pack (mul Format.binary64 left (.infinity .positive))).unpack ⊤ ∧
      Magnitude (Float.Model.pack (mul Format.binary64 (.infinity .positive) left)).unpack ⊤ := by
  have infinite : Magnitude (Float.Model.pack (.infinity .positive)).unpack ⊤ := by
    rw [unpack_pack_infinity]
    exact .infinity
  cases magnitude with
  | zero => exact absurd positive (lt_irrefl 0)
  | finite => exact ⟨infinite, infinite⟩
  | infinity => exact ⟨infinite, infinite⟩

/-! ## Quotients -/

section Quotient

variable {m n : ℕ} {e d : ℤ}

/-- The exponent that a quotient of significands is taken with. -/
def quotientExponent (m : ℕ) (e : ℤ) (n : ℕ) (d : ℤ) : ℤ :=
  min (e - d) (Format.binary64.targetExponent (totalExponent m e - totalExponent n d))

theorem quotientExponent_le : quotientExponent m e n d ≤ e - d :=
  min_le_left _ _

theorem quotientExponent_fine :
    quotientExponent m e n d ≤ max (m.log2 + 1 + e - (n.log2 + 1 + d) - 53) (-1074) :=
  min_le_right _ _

theorem div_finite {positive : 0 < m} {some : 0 < n} :
    div Format.binary64 (.finite .positive m e positive) (.finite .positive n d some) =
      roundWithAccuracy Format.binary64 .positive
        (m <<< (e - d - quotientExponent m e n d).toNat / n) (quotientExponent m e n d)
        (accuracyOfFraction (m <<< (e - d - quotientExponent m e n d).toNat % n) n) :=
  rfl

/-- A quotient is taken with enough bits to be rounded. -/
theorem le_target_div {exponent : ℤ} (positive : 0 < m) (some : 0 < n)
    (le : exponent ≤ e - d)
    (fine : exponent ≤ max (m.log2 + 1 + e - (n.log2 + 1 + d) - 53) (-1074)) :
    exponent ≤ target (m * 2 ^ (e - d - exponent).toNat / n) exponent := by
  rcases le_max_iff.mp fine with bits | least
  · apply le_target_of_normal
    rw [Nat.le_div_iff_mul_le some]
    calc 2 ^ 52 * n ≤ 2 ^ 52 * 2 ^ (n.log2 + 1) := by
          gcongr
          exact Nat.lt_log2_self.le
      _ = 2 ^ (52 + (n.log2 + 1)) := (pow_add _ _ _).symm
      _ ≤ 2 ^ (m.log2 + (e - d - exponent).toNat) :=
          Nat.pow_le_pow_right (by decide) (by omega)
      _ = 2 ^ m.log2 * 2 ^ (e - d - exponent).toNat := pow_add _ _ _
      _ ≤ m * 2 ^ (e - d - exponent).toNat := by
          gcongr
          exact Nat.log2_self_le positive.ne'
  · rw [target_eq]
    omega

end Quotient

/-- The quotient of a number and one that is not zero is rounded. -/
theorem Magnitude.exists_div (first : Magnitude left x) (second : Magnitude right y)
    (nonzero : y ≠ 0) :
    ∃ result, Magnitude (Float.Model.pack (div Format.binary64 left right)).unpack result ∧
      Rounded (x / y) result := by
  obtain ⟨other, rfl, rfl⟩ | ⟨n, d, some, -, rfl, rfl⟩ := second.eq_zero_or
  · exact absurd rfl nonzero
  obtain ⟨sign, rfl, rfl⟩ | ⟨m, e, positive, -, rfl, rfl⟩ := first.eq_zero_or
  · rw [zero_div, show div _ (.zero sign) _ = .zero (sign / .positive) from rfl, unpack_pack_zero]
    exact ⟨_, .zero _, .self 0⟩
  rw [div_finite, Nat.shiftLeft_eq]
  -- Of the exponent of the quotient no more is needed than these two bounds.
  have le := quotientExponent_le (m := m) (e := e) (n := n) (d := d)
  have fine := quotientExponent_fine (m := m) (e := e) (n := n) (d := d)
  generalize quotientExponent m e n d = exponent at le fine ⊢
  have whole : ((e - d - exponent).toNat : ℤ) = e - d - exponent := Int.toNat_of_nonneg (by omega)
  have quotient : (m * 2 ^ e / (n * 2 ^ d) : ℚ) =
      (m * 2 ^ (e - d - exponent).toNat : ℕ) / n * 2 ^ exponent := by
    push_cast
    rw [← zpow_natCast, whole, zpow_sub₀ two_ne_zero, zpow_sub₀ two_ne_zero]
    field_simp
  rw [quotient]
  exact (Tells.fraction _ some).exists_rounded (le_target_div positive some le fine)

/-- The quotient of a number and infinity is nothing. -/
theorem Magnitude.div_infinity (first : Magnitude left x) :
    Magnitude (Float.Model.pack (div Format.binary64 left (.infinity .positive))).unpack 0 := by
  have none {sign : Sign} : Magnitude (Float.Model.pack (.zero sign)).unpack 0 := by
    rw [unpack_pack_zero]
    exact .zero sign
  obtain ⟨sign, rfl, -⟩ | ⟨m, e, positive, -, rfl, -⟩ := first.eq_zero_or
  · exact none
  · exact none

/-! ## What is no number -/

theorem isNaN_ofModel_pack {double : Float} (unpacked : double.toModel = .pack .notANumber) :
    double.isNaN = true := by
  rw [isNaN_iff_unpack, unpacked, unpack_pack_notANumber]

variable {first second : Float}

theorem isNaN_mul_right (none : second.isNaN = true) : (first * second).isNaN = true := by
  apply isNaN_ofModel_pack
  change Float.Model.pack (mul Format.binary64 first.toModel.unpack second.toModel.unpack) = _
  rw [isNaN_iff_unpack.mp none]
  cases first.toModel.unpack <;> rfl

theorem isNaN_div_right (none : second.isNaN = true) : (first / second).isNaN = true := by
  apply isNaN_ofModel_pack
  change Float.Model.pack (div Format.binary64 first.toModel.unpack second.toModel.unpack) = _
  rw [isNaN_iff_unpack.mp none]
  cases first.toModel.unpack <;> rfl

/-- Zero times infinity is no number. -/
theorem isNaN_zero_mul (zero : Stands first 0) (infinite : Stands second ⊤) :
    (first * second).isNaN = true := by
  apply isNaN_ofModel_pack
  change Float.Model.pack (mul Format.binary64 first.toModel.unpack second.toModel.unpack) = _
  rw [Magnitude.eq_infinity infinite]
  obtain ⟨sign, unpacked, -⟩ | ⟨m, e, positive, -, -, value⟩ := Magnitude.eq_zero_or (x := 0) zero
  · rw [unpacked]
    rfl
  · have some : (0 : ℚ) < m * 2 ^ e := by positivity
    exact absurd value some.ne

/-! ## Natural numbers -/

section Natural

variable {n : ℕ}

/-- The canonical form of a natural number of at most fifty-three bits. -/
theorem canonical_natural (positive : 0 < n) (small : n < 2 ^ 53) :
    Canonical (n * 2 ^ (52 - n.log2)) (n.log2 - 52) := by
  have bits : n.log2 ≤ 52 := Nat.le_of_lt_succ ((Nat.log2_lt positive.ne').mpr small)
  constructor
  · calc n * 2 ^ (52 - n.log2) < 2 ^ (n.log2 + 1) * 2 ^ (52 - n.log2) := by
          gcongr
          exact n.lt_log2_self
      _ = 2 ^ 53 := by rw [← pow_add]; congr 1; omega
  · omega
  · refine .inl ?_
    calc 2 ^ 52 = 2 ^ n.log2 * 2 ^ (52 - n.log2) := by rw [← pow_add]; congr 1; omega
      _ ≤ n * 2 ^ (52 - n.log2) := by
          gcongr
          exact Nat.log2_self_le positive.ne'

theorem natural_eq (positive : 0 < n) (small : n < 2 ^ 53) :
    (n : ℚ) = (n * 2 ^ (52 - n.log2) : ℕ) * 2 ^ (n.log2 - 52 : ℤ) := by
  have bits : n.log2 ≤ 52 := Nat.le_of_lt_succ ((Nat.log2_lt positive.ne').mpr small)
  push_cast
  rw [mul_assoc, ← zpow_natCast, ← zpow_add₀ two_ne_zero, Nat.cast_sub bits]
  norm_num

/-- A natural number is brought to its canonical form before it is rounded. -/
theorem ofNat_eq (positive : 0 < n) (small : n < 2 ^ 53) :
    UnpackedFloat.ofNat Format.binary64 n =
      roundWithAccuracy Format.binary64 .positive (n * 2 ^ (52 - n.log2)) (n.log2 - 52) .exact := by
  have bits : n.log2 ≤ 52 := Nat.le_of_lt_succ ((Nat.log2_lt positive.ne').mpr small)
  have above : compare (n : ℤ) 0 = .gt := compare_gt_iff_gt.mpr (by omega)
  have reached : target n 0 = n.log2 - 52 := by
    rw [target_eq]
    omega
  have amount : (0 - target n 0).toNat = 52 - n.log2 := by omega
  have final : 0 - ((52 - n.log2 : ℕ) : ℤ) = n.log2 - 52 := by omega
  change normalize Format.binary64 n 0 .positive = _
  unfold Float.Model.UnpackedFloat.normalize
  rw [above, Int.toNat_natCast]
  change roundWithAccuracy Format.binary64 .positive (n <<< (0 - target n 0).toNat)
    (0 - ((0 - target n 0).toNat : ℤ)) .exact = _
  rw [Nat.shiftLeft_eq, amount, final]

theorem magnitude_natural (small : n < 2 ^ 53) :
    Magnitude (Float.Model.pack (UnpackedFloat.ofNat Format.binary64 n)).unpack (n : ℚ) := by
  rcases Nat.eq_zero_or_pos n with rfl | positive
  · rw [show UnpackedFloat.ofNat Format.binary64 0 = .zero .positive from rfl, unpack_pack_zero]
    exact .zero .positive
  have canonical := canonical_natural positive small
  have bits : n.log2 ≤ 52 := Nat.le_of_lt_succ ((Nat.log2_lt positive.ne').mpr small)
  have some : 0 < n * 2 ^ (52 - n.log2) := by positivity
  have held : Magnitude (.finite .positive _ (n.log2 - 52) some) (n : ℚ) := by
    rw [natural_eq positive small]
    exact .finite some canonical (by omega)
  have tells : Tells (.ofMantissaAndAccuracy (n * 2 ^ (52 - n.log2)) .exact) _ := .exact rfl
  obtain ⟨result, magnitude, rounded⟩ := tells.exists_rounded
    (le_target_of_normal (canonical.normal.resolve_right (by omega)) _)
  rw [← natural_eq positive small] at rounded
  rw [ofNat_eq positive small, ← rounded.eq_of_held held]
  exact magnitude

theorem stands_toFloat (small : n < 2 ^ 53) : Stands n.toUInt64.toFloat (n : ℚ) := by
  have same : n.toUInt64.toNat = n := Nat.mod_eq_of_lt (small.trans (by decide))
  change Magnitude (Float.Model.pack
    (UnpackedFloat.ofNat Format.binary64 n.toUInt64.toNat)).unpack (n : ℚ)
  rw [same]
  exact magnitude_natural small

theorem stands_pack {significand : ℕ} {exponent : ℤ} (canonical : Canonical significand exponent)
    (positive : 0 < significand) (small : exponent ≤ 971) :
    Stands (.ofModel (.pack (.finite .positive significand exponent positive)))
      (significand * 2 ^ exponent : ℚ) := by
  change Magnitude (Float.Model.pack _).unpack _
  rw [unpack_pack_finite canonical positive small]
  exact .finite positive canonical small

/-- A natural number is multiplied by one, the power of ten that it has none of. -/
theorem ofNat_eq_mul (small : n < 2 ^ 53) :
    Float.ofNat n = n.toUInt64.toFloat *
      .ofModel (.pack (.finite .positive (2 ^ 52) (-52) (by decide))) := by
  have one : Float.ofBits 0x3FF0000000000000 =
      .ofModel (.pack (.finite .positive (2 ^ 52) (-52) (by decide))) := by
    decide +kernel
  rw [← one]
  change Float.ofScientific n false 0 = _
  rw [Float.ofScientific, dif_pos ⟨small, by decide⟩]
  rfl

/-- Natural numbers of at most fifty-three bits, and the next one, are doubles. -/
theorem stands_ofNat (small : n ≤ 2 ^ 53) : Stands (Float.ofNat n) (n : ℚ) := by
  rcases small.lt_or_eq with room | rfl
  · have one :
        Stands (.ofModel (.pack (.finite .positive (2 ^ 52) (-52) (by decide)))) (1 : ℚ) := by
      have stands := @stands_pack (2 ^ 52) (-52) ⟨by decide, by decide, .inl le_rfl⟩ (by decide)
        (by decide)
      have value : ((2 ^ 52 : ℕ) * 2 ^ (-52 : ℤ) : ℚ) = 1 := by norm_num
      rwa [value] at stands
    rw [ofNat_eq_mul room]
    exact (stands_toFloat room).mul_of_one one
  · have held : Float.ofNat (2 ^ 53) =
        .ofModel (.pack (.finite .positive (2 ^ 52) 1 (by decide))) := by
      decide +kernel
    have value : ((2 ^ 53 : ℕ) : ℚ) = (2 ^ 52 : ℕ) * 2 ^ (1 : ℤ) := by norm_num
    rw [held, value]
    exact stands_pack ⟨by decide, by decide, .inl le_rfl⟩ (by decide) (by decide)

end Natural

/-! ## The natural number below a double -/

theorem exists_tells_roundToInt (significand : ℕ) (exponent : ℤ) :
    ∃ extended, roundToInt .positive significand exponent = extended.mantissa ∧
      Tells extended (significand * 2 ^ exponent) := by
  have tells : Tells (.ofMantissaAndAccuracy (significand * 2 ^ exponent.toNat) .exact) _ :=
    .exact rfl
  have shifted := tells.shiftRight (0 - (exponent - exponent.toNat)).toNat
  have value : (significand * 2 ^ exponent : ℚ) = (significand * 2 ^ exponent.toNat : ℕ) /
      2 ^ (0 - (exponent - exponent.toNat)).toNat := by
    have split : exponent = exponent.toNat - (0 - (exponent - exponent.toNat)).toNat := by omega
    push_cast
    rw [mul_div_assoc, ← zpow_natCast, ← zpow_natCast, ← zpow_sub₀ two_ne_zero, ← split]
  refine ⟨_, ?_, value ▸ shifted⟩
  simp only [roundToInt, decreaseExponent, shiftToExponent, sub_zero, Nat.shiftLeft_eq]
  rfl

theorem toNat_ofNatClamp {n : ℕ} (small : n < UInt64.size) : (UInt64.ofNatClamp n).toNat = n := by
  rw [UInt64.ofNatClamp, dif_pos small]
  rfl

/-- A double is cut off to the natural number below what it stands for. -/
theorem Stands.toNat_toUInt64 {double : Float} (stands : Stands double x) (small : x < 2 ^ 64) :
    double.toUInt64.toNat = ⌊x⌋₊ := by
  change (UInt64.ofNatClamp (double.toModel.unpack.toInt 0 (UInt64.size - 1)).toNat).toNat = _
  obtain ⟨sign, unpacked, rfl⟩ | ⟨significand, exponent, positive, -, unpacked, rfl⟩ :=
    Magnitude.eq_zero_or stands
  · rw [unpacked, Nat.floor_zero]
    rfl
  · obtain ⟨extended, rounded, tells⟩ := exists_tells_roundToInt significand exponent
    have whole :
        (toInt 0 (UInt64.size - 1) (.finite .positive significand exponent positive)).toNat =
          extended.mantissa := by
      rw [toInt, rounded, Int.toNat_natCast]
    have least : (0 : ℚ) ≤ significand * 2 ^ exponent := by positivity
    have bound : (extended.mantissa : ℚ) < 2 ^ 64 := tells.le.trans_lt small
    rw [unpacked, whole, toNat_ofNatClamp (by exact_mod_cast bound), eq_comm,
      Nat.floor_eq_iff least]
    exact ⟨tells.le, tells.lt⟩

/-! ## Doubles that are at least one -/

theorem stands_one : Stands 1 (1 : ℚ) := by
  have stands := stands_ofNat (show 1 ≤ 2 ^ 53 by decide)
  rwa [Nat.cast_one] at stands

/-- A number that is not less than one stands for one that is not. -/
theorem exists_stands_of_not_lt_one {double : Float} (large : ¬ double < 1)
    (number : double.isNaN = false) : ∃ value : WithTop ℚ, Stands double value ∧ 1 ≤ value := by
  suffices stands : ∃ value, Stands double value by
    obtain ⟨value, stands⟩ := stands
    exact ⟨value, stands, not_lt.mp (mt (stands.lt_iff stands_one).mpr large)⟩
  rw [lt_iff_compare] at large
  obtain ⟨sign, unit, zero⟩ | ⟨m, e, positive, -, unit, -⟩ := Magnitude.eq_zero_or stands_one
  · exact absurd zero one_ne_zero
  rw [unit] at large
  cases unpacked : double.toModel.unpack with
  | infinity sign =>
      cases sign with
      | negative => exact absurd (by rw [unpacked]; rfl) large
      | positive => exact ⟨⊤, by rw [Stands, unpacked]; exact .infinity⟩
  | notANumber =>
      rw [isNaN_iff_unpack.mpr unpacked] at number
      contradiction
  | zero sign => exact ⟨0, by rw [Stands, unpacked]; exact .zero sign⟩
  | finite sign significand exponent some =>
      cases sign with
      | negative => exact absurd (by rw [unpacked]; rfl) large
      | positive =>
          obtain ⟨canonical, small⟩ := canonical_of_unpack unpacked
          exact ⟨_, by rw [Stands, unpacked]; exact .finite some canonical small⟩

variable {first second : Float} {low high : WithTop ℚ}

/-- A product of doubles that are at least one is no less than either. -/
theorem Stands.exists_mul_ge (stands : Stands first low) (other : Stands second high)
    (lowGe : 1 ≤ low) (highGe : 1 ≤ high) :
    ∃ value, Stands (first * second) value ∧ low ≤ value ∧ high ≤ value := by
  change ∃ value, Magnitude (Float.Model.pack
    (mul Format.binary64 first.toModel.unpack second.toModel.unpack)).unpack value ∧ _
  cases low using WithTop.recTopCoe with
  | top =>
      have product := (Magnitude.mul_infinity other (zero_lt_one.trans_le highGe)).2
      rw [← Magnitude.eq_infinity stands] at product
      exact ⟨⊤, product, le_rfl, le_top⟩
  | coe x =>
      cases high using WithTop.recTopCoe with
      | top =>
          have product := (Magnitude.mul_infinity stands (zero_lt_one.trans_le lowGe)).1
          rw [← Magnitude.eq_infinity other] at product
          exact ⟨⊤, product, le_top, le_rfl⟩
      | coe y =>
          have least : (1 : ℚ) ≤ x := WithTop.coe_le_coe.mp lowGe
          have most : (1 : ℚ) ≤ y := WithTop.coe_le_coe.mp highGe
          obtain ⟨result, magnitude, rounded⟩ := Magnitude.exists_mul stands other
          refine ⟨result, magnitude, rounded.ge_of_ge stands ?_, rounded.ge_of_ge other ?_⟩
          · exact WithTop.coe_le_coe.mpr (le_mul_of_one_le_right (by linarith) most)
          · exact WithTop.coe_le_coe.mpr (le_mul_of_one_le_left (by linarith) least)

end EventRelay.Double

import EventRelay.Proofs.DoubleValues

/-!
# Rounding to doubles

A result is rounded to a multiple of a power of two, the exponent of which is the least that
leaves no more than fifty-three bits. Two bits kept beside a significand tell enough of what lies
below it for the nearest multiple to be taken. So no double lies between a result and what it is
rounded to, and a double rounds to itself.
-/

namespace EventRelay.Double

open Float.Model (Format UnpackedFloat totalExponent)
open Float.Model.UnpackedFloat

/-! ## What lies below a significand -/

/-- A significand with its round bit and its sticky bit tells as much of a number as matters for
rounding it. -/
inductive Tells : ExtendedMantissa → ℚ → Prop
  | exact {significand : ℕ} {x : ℚ} (eq : x = significand) : Tells ⟨significand, false, false⟩ x
  | low {significand : ℕ} {x : ℚ} (more : significand < x) (less : x < significand + 1 / 2) :
      Tells ⟨significand, false, true⟩ x
  | half {significand : ℕ} {x : ℚ} (eq : x = significand + 1 / 2) :
      Tells ⟨significand, true, false⟩ x
  | high {significand : ℕ} {x : ℚ} (more : significand + 1 / 2 < x) (less : x < significand + 1) :
      Tells ⟨significand, true, true⟩ x

section Shift

variable {roundBit stickyBit : Bool}

theorem shiftRightOne_even (half : ℕ) :
    (⟨2 * half, roundBit, stickyBit⟩ : ExtendedMantissa).shiftRightOne =
      ⟨half, false, roundBit || stickyBit⟩ := by
  simp [ExtendedMantissa.shiftRightOne]

theorem shiftRightOne_odd (half : ℕ) :
    (⟨2 * half + 1, roundBit, stickyBit⟩ : ExtendedMantissa).shiftRightOne =
      ⟨half, true, roundBit || stickyBit⟩ := by
  have quotient : (2 * half + 1) / 2 = half := by omega
  simp [ExtendedMantissa.shiftRightOne, quotient]

end Shift

namespace Tells

variable {extended : ExtendedMantissa} {x : ℚ}

/-- A quotient tells a fraction, by how twice its remainder compares with the denominator. -/
theorem fraction (numerator : ℕ) {denominator : ℕ} (positive : 0 < denominator) :
    Tells (.ofMantissaAndAccuracy (numerator / denominator)
      (accuracyOfFraction (numerator % denominator) denominator))
      (numerator / denominator : ℚ) := by
  have unit : (0 : ℚ) < denominator := by exact_mod_cast positive
  have below : (numerator % denominator : ℕ) < (denominator : ℚ) := by
    exact_mod_cast Nat.mod_lt numerator positive
  have value : (numerator / denominator : ℚ) =
      (numerator / denominator : ℕ) + (numerator % denominator : ℕ) / denominator := by
    rw [eq_comm, ← eq_sub_iff_add_eq', div_eq_iff unit.ne', sub_mul, div_mul_cancel₀ _ unit.ne',
      eq_sub_iff_add_eq']
    exact_mod_cast Nat.div_add_mod' numerator denominator
  rw [value, accuracyOfFraction]
  generalize numerator % denominator = remainder at below
  split
  · rename_i zero
    exact .exact (by rw [zero]; simp)
  rename_i some
  have positive : (0 : ℚ) < remainder := by exact_mod_cast Nat.pos_of_ne_zero some
  rcases lt_trichotomy (2 * remainder) denominator with less | same | more
  · rw [compare_lt_iff_lt.mpr less]
    have low : (2 * remainder : ℚ) < denominator := by exact_mod_cast less
    refine .low (lt_add_of_pos_right _ (div_pos positive unit)) ((add_lt_add_iff_left _).mpr ?_)
    rw [div_lt_iff₀ unit]
    linarith
  · rw [compare_eq_iff_eq.mpr same]
    have equal : (2 * remainder : ℚ) = denominator := by exact_mod_cast same
    refine .half ((add_right_inj _).mpr ?_)
    rw [div_eq_iff unit.ne']
    linarith
  · rw [compare_gt_iff_gt.mpr more]
    have high : (denominator : ℚ) < 2 * remainder := by exact_mod_cast more
    refine .high ((add_lt_add_iff_left _).mpr ?_) ((add_lt_add_iff_left _).mpr ?_)
    · rw [lt_div_iff₀ unit]
      linarith
    · rwa [div_lt_one unit]

theorem le (tells : Tells extended x) : (extended.mantissa : ℚ) ≤ x := by
  cases tells <;> dsimp only <;> linarith

theorem lt (tells : Tells extended x) : x < extended.mantissa + 1 := by
  cases tells <;> dsimp only <;> linarith

/-- Shifted by one, half of the number is told. -/
theorem shiftRightOne (tells : Tells extended x) : Tells extended.shiftRightOne (x / 2) := by
  obtain ⟨significand, roundBit, stickyBit⟩ := extended
  obtain ⟨half, rfl | rfl⟩ := Nat.even_or_odd' significand
  · rw [shiftRightOne_even]
    cases tells with
    | exact eq => exact .exact (by push_cast at eq; linarith)
    | low more less => exact .low (by push_cast at more; linarith) (by push_cast at less; linarith)
    | half eq => exact .low (by push_cast at eq; linarith) (by push_cast at eq; linarith)
    | high more less => exact .low (by push_cast at more; linarith) (by push_cast at less; linarith)
  · rw [shiftRightOne_odd]
    cases tells with
    | exact eq => exact .half (by push_cast at eq; linarith)
    | low more less =>
        exact .high (by push_cast at more; linarith) (by push_cast at less; linarith)
    | half eq => exact .high (by push_cast at eq; linarith) (by push_cast at eq; linarith)
    | high more less =>
        exact .high (by push_cast at more; linarith) (by push_cast at less; linarith)

theorem shiftRight (tells : Tells extended x) (count : ℕ) :
    Tells (extended >>> count) (x / 2 ^ count) := by
  induction count with
  | zero => rwa [pow_zero, div_one]
  | succ count ih =>
      rw [pow_succ, ← div_div]
      exact ih.shiftRightOne

/-- The significand is rounded to an integer next to what is told. -/
theorem abs_roundedMantissa_sub_le (tells : Tells extended x) :
    |(extended.roundedMantissa : ℚ) - x| ≤ 1 / 2 := by
  rw [abs_le]
  cases tells with
  | exact eq | low more less =>
      simp only [ExtendedMantissa.roundedMantissa, ExtendedMantissa.accuracy,
        Accuracy.roundToNearestEven]
      constructor <;> linarith
  | @half significand x eq =>
      have odd : ((significand % 2 : ℕ) : ℚ) ≤ 1 := by
        exact_mod_cast Nat.le_of_lt_succ (Nat.mod_lt significand two_pos)
      have even : (0 : ℚ) ≤ (significand % 2 : ℕ) := Nat.cast_nonneg _
      simp only [ExtendedMantissa.roundedMantissa, ExtendedMantissa.accuracy,
        Accuracy.roundToNearestEven]
      push_cast at odd even ⊢
      constructor <;> linarith
  | high more less =>
      simp only [ExtendedMantissa.roundedMantissa, ExtendedMantissa.accuracy,
        Accuracy.roundToNearestEven]
      push_cast
      constructor <;> linarith

end Tells

/-! ## The nearest multiple of a power of two -/

/-- A multiple of a power of two is nearest to a number, and the power is the one by which doubles
of its size differ. -/
structure Nearest (x : ℚ) (exponent : ℤ) (multiple : ℕ) : Prop where
  error_le : |(multiple * 2 ^ exponent : ℚ) - x| ≤ 2 ^ exponent / 2
  exponent_ge : -1074 ≤ exponent
  lt : x < 2 ^ (53 + exponent)
  normal : 2 ^ (52 + exponent) ≤ x ∨ exponent = -1074

theorem mul_zpow_of_le (significand : ℕ) {least exponent : ℤ} (le : least ≤ exponent) :
    (significand * 2 ^ exponent : ℚ) =
      (significand * 2 ^ (exponent - least).toNat : ℕ) * 2 ^ least := by
  have whole : ((exponent - least).toNat : ℤ) = exponent - least := Int.toNat_of_nonneg (by omega)
  push_cast
  rw [← zpow_natCast, whole, mul_assoc, ← zpow_add₀ two_ne_zero, sub_add_cancel]

namespace Nearest

variable {x : ℚ} {exponent : ℤ} {multiple : ℕ}

theorem le_multiple (nearest : Nearest x exponent multiple) {other : ℕ}
    (le : (other * 2 ^ exponent : ℚ) ≤ x) : other ≤ multiple := by
  have unit : (0 : ℚ) < 2 ^ exponent := by positivity
  have error := (abs_le.mp nearest.error_le).1
  have less : (other * 2 ^ exponent : ℚ) < (multiple + 1) * 2 ^ exponent := by linarith
  have counted : (other : ℚ) < multiple + 1 := lt_of_mul_lt_mul_right less unit.le
  exact Nat.le_of_lt_succ (by exact_mod_cast counted)

theorem multiple_le (nearest : Nearest x exponent multiple) {other : ℕ}
    (le : x ≤ (other * 2 ^ exponent : ℚ)) : multiple ≤ other := by
  have unit : (0 : ℚ) < 2 ^ exponent := by positivity
  have error := (abs_le.mp nearest.error_le).2
  have less : (multiple * 2 ^ exponent : ℚ) < (other + 1) * 2 ^ exponent := by linarith
  have counted : (multiple : ℚ) < other + 1 := lt_of_mul_lt_mul_right less unit.le
  exact Nat.le_of_lt_succ (by exact_mod_cast counted)

theorem multiple_le_full (nearest : Nearest x exponent multiple) : multiple ≤ 2 ^ 53 := by
  apply nearest.multiple_le
  have full : ((2 ^ 53 : ℕ) * 2 ^ exponent : ℚ) = 2 ^ (53 + exponent) := by
    rw [zpow_add₀ two_ne_zero]
    rfl
  rw [full]
  exact nearest.lt.le

theorem normal_multiple (nearest : Nearest x exponent multiple) :
    2 ^ 52 ≤ multiple ∨ exponent = -1074 := by
  refine nearest.normal.imp_left fun normal => nearest.le_multiple (le_trans ?_ normal)
  rw [zpow_add₀ two_ne_zero]
  rfl

variable {significand : ℕ} {held : ℤ}

/-- What a double can hold is no more than the nearest multiple if it is no more than the number. -/
theorem le_of_le (nearest : Nearest x exponent multiple) (canonical : Canonical significand held)
    (le : (significand * 2 ^ held : ℚ) ≤ x) :
    (significand * 2 ^ held : ℚ) ≤ multiple * 2 ^ exponent := by
  rcases le_or_gt exponent held with coarse | fine
  · rw [mul_zpow_of_le significand coarse] at le ⊢
    gcongr
    exact nearest.le_multiple le
  · -- What is held more finely lies below all significands of fifty-three bits.
    have least := canonical.exponent_ge
    have normal := nearest.normal_multiple.resolve_right (by omega)
    exact (canonical.lt_zpow fine).le.trans (Canonical.zpow_le normal exponent)

/-- What a double can hold is no less than the nearest multiple if it is no less than the number. -/
theorem ge_of_ge (nearest : Nearest x exponent multiple) (canonical : Canonical significand held)
    (le : x ≤ (significand * 2 ^ held : ℚ)) :
    (multiple * 2 ^ exponent : ℚ) ≤ significand * 2 ^ held := by
  rcases le_or_gt exponent held with coarse | fine
  · rw [mul_zpow_of_le significand coarse] at le ⊢
    gcongr
    exact nearest.multiple_le le
  · have least := canonical.exponent_ge
    have normal := nearest.normal.resolve_right (by omega)
    exact absurd (le.trans_lt (canonical.lt_zpow fine)) normal.not_gt

/-- What is rounded off is small beside the number, or beside the least double. -/
theorem multiple_sub_le (nearest : Nearest x exponent multiple) :
    (multiple * 2 ^ exponent : ℚ) ≤ x + max (x / 2 ^ 53) (2 ^ (-1075 : ℤ)) := by
  have error := (abs_le.mp nearest.error_le).2
  suffices small : (2 ^ exponent / 2 : ℚ) ≤ max (x / 2 ^ 53) (2 ^ (-1075 : ℤ)) by linarith
  rcases nearest.normal with normal | rfl
  · refine le_max_of_le_left ?_
    rw [zpow_add₀ two_ne_zero] at normal
    rw [le_div_iff₀ (by positivity)]
    linarith
  · refine le_max_of_le_right (le_of_eq ?_)
    rw [div_eq_mul_inv, ← zpow_sub_one₀ two_ne_zero]
    rfl

end Nearest

/-! ## What a number is rounded to -/

/-- What a double can hold of a number, or infinity where the number is too large. -/
def clip (x : ℚ) : WithTop ℚ :=
  if x < 2 ^ (1024 : ℤ) then x else ⊤

/-- A number is rounded: no double lies between it and the result, and the error is small. -/
structure Rounded (x : ℚ) (result : WithTop ℚ) : Prop where
  ge_of_ge {double : UnpackedFloat} {held : WithTop ℚ} (magnitude : Magnitude double held)
    (le : held ≤ x) : held ≤ result
  le_of_le {double : UnpackedFloat} {held : WithTop ℚ} (magnitude : Magnitude double held)
    (le : x ≤ held) : result ≤ held
  le_add : result ≤ (x + max (x / 2 ^ 53) (2 ^ (-1075 : ℤ)) : ℚ) ∨ result = ⊤

namespace Rounded

variable {x : ℚ} {result : WithTop ℚ} {double : UnpackedFloat}

/-- What a double holds is not rounded. -/
theorem eq_of_held (rounded : Rounded x result) (magnitude : Magnitude double x) : result = x :=
  le_antisymm (rounded.le_of_le magnitude le_rfl) (rounded.ge_of_ge magnitude le_rfl)

theorem self (x : ℚ) : Rounded x x where
  ge_of_ge _ := id
  le_of_le _ := id
  le_add := by
    have unit : (0 : ℚ) < 2 ^ (-1075 : ℤ) := by positivity
    exact .inl (WithTop.coe_le_coe.mpr (le_add_of_nonneg_right (le_max_of_le_right unit.le)))

end Rounded

/-- A double stands for infinity or holds a number in canonical form. -/
theorem Magnitude.eq_top_or {double : UnpackedFloat} {held : WithTop ℚ}
    (magnitude : Magnitude double held) :
    held = ⊤ ∨ ∃ (significand : ℕ) (exponent : ℤ), Canonical significand exponent ∧
      exponent ≤ 971 ∧ held = (significand * 2 ^ exponent : ℚ) := by
  cases magnitude with
  | zero =>
      refine .inr ⟨0, -1074, ⟨by decide, le_rfl, .inr rfl⟩, by decide, ?_⟩
      rw [Nat.cast_zero, zero_mul]
      rfl
  | finite _ canonical small => exact .inr ⟨_, _, canonical, small, rfl⟩
  | infinity => exact .inl rfl

theorem Canonical.lt_bound {significand : ℕ} {exponent : ℤ}
    (canonical : Canonical significand exponent) (small : exponent ≤ 971) :
    (significand * 2 ^ exponent : ℚ) < 2 ^ (1024 : ℤ) :=
  canonical.lt_zpow (show exponent < 972 by omega)

theorem Nearest.rounded {x : ℚ} {exponent : ℤ} {multiple : ℕ}
    (nearest : Nearest x exponent multiple) : Rounded x (clip (multiple * 2 ^ exponent)) where
  ge_of_ge := by
    intro double held magnitude le
    rw [clip]
    split
    · obtain rfl | ⟨significand, least, canonical, -, rfl⟩ := magnitude.eq_top_or
      · exact absurd le (WithTop.coe_lt_top x).not_ge
      · exact WithTop.coe_le_coe.mpr (nearest.le_of_le canonical (WithTop.coe_le_coe.mp le))
    · exact le_top
  le_of_le := by
    intro double held magnitude le
    obtain rfl | ⟨significand, least, canonical, small, rfl⟩ := magnitude.eq_top_or
    · exact le_top
    · have most := nearest.ge_of_ge canonical (WithTop.coe_le_coe.mp le)
      rw [clip, if_pos (most.trans_lt (canonical.lt_bound small))]
      exact WithTop.coe_le_coe.mpr most
  le_add := by
    rw [clip]
    split
    · exact .inl (WithTop.coe_le_coe.mpr nearest.multiple_sub_le)
    · exact .inr rfl

/-- What is packed in canonical form stands for itself, or for infinity. -/
theorem magnitude_pack {significand : ℕ} {exponent : ℤ}
    (canonical : Canonical significand exponent) (positive : 0 < significand) :
    Magnitude (Float.Model.pack (.finite .positive significand exponent positive)).unpack
      (clip (significand * 2 ^ exponent)) := by
  rcases le_or_gt exponent 971 with small | large
  · rw [unpack_pack_finite canonical positive small, clip, if_pos (canonical.lt_bound small)]
    exact .finite positive canonical small
  · have normal := canonical.normal.resolve_right (by omega)
    have bound : (2 ^ (1024 : ℤ) : ℚ) ≤ significand * 2 ^ exponent :=
      calc (2 ^ (1024 : ℤ) : ℚ) ≤ 2 ^ (52 + exponent) := zpow_le_zpow_right₀ one_le_two (by omega)
        _ ≤ significand * 2 ^ exponent := Canonical.zpow_le normal exponent
    rw [unpack_pack_large positive large, clip, if_neg bound.not_gt]
    exact .infinity

/-! ## Rounding with what is known of the rest -/

variable {significand : ℕ} {exponent : ℤ} {accuracy : Accuracy} {x : ℚ}

/-- The exponent that leaves fifty-three bits of a number, unless it is too small. -/
def target (significand : ℕ) (exponent : ℤ) : ℤ :=
  Format.binary64.targetExponent (totalExponent significand exponent)

theorem target_eq (significand : ℕ) (exponent : ℤ) :
    target significand exponent = max (significand.log2 + 1 + exponent - 53) (-1074) :=
  rfl

theorem mantissa_ofMantissaAndAccuracy :
    (ExtendedMantissa.ofMantissaAndAccuracy significand accuracy).mantissa = significand := by
  rcases accuracy with _ | (_ | _ | _) <;> rfl

/-- Shifted to its target a significand tells the nearest multiple. -/
theorem Tells.nearest (tells : Tells (.ofMantissaAndAccuracy significand accuracy) x)
    (le : exponent ≤ target significand exponent) :
    Nearest (x * 2 ^ exponent) (target significand exponent)
      (ExtendedMantissa.ofMantissaAndAccuracy significand accuracy >>>
        (target significand exponent - exponent).toNat).roundedMantissa := by
  have least := tells.le
  have most := tells.lt
  rw [mantissa_ofMantissaAndAccuracy] at least most
  have bits := target_eq significand exponent
  generalize target significand exponent = final at le bits ⊢
  have whole : ((final - exponent).toNat : ℤ) = final - exponent := Int.toNat_of_nonneg (by omega)
  constructor
  · have error := (tells.shiftRight (final - exponent).toNat).abs_roundedMantissa_sub_le
    have value : (x * 2 ^ exponent : ℚ) = x / 2 ^ (final - exponent).toNat * 2 ^ final := by
      rw [← zpow_natCast, whole, zpow_sub₀ two_ne_zero]
      field_simp
    rw [value, ← sub_mul, abs_mul, abs_of_pos (show (0 : ℚ) < 2 ^ final by positivity)]
    calc _ ≤ 1 / 2 * (2 ^ final : ℚ) := by gcongr
      _ = 2 ^ final / 2 := by ring
  · omega
  · have bound : (significand + 1 : ℚ) ≤ 2 ^ (significand.log2 + 1) := by
      exact_mod_cast Nat.lt_log2_self
    calc (x * 2 ^ exponent : ℚ) < 2 ^ (significand.log2 + 1) * 2 ^ exponent := by
          gcongr
          exact most.trans_le bound
      _ = 2 ^ ((significand.log2 + 1 : ℕ) + exponent : ℤ) := by
          rw [zpow_add₀ two_ne_zero, zpow_natCast]
      _ ≤ 2 ^ (53 + final) := zpow_le_zpow_right₀ one_le_two (by push_cast; omega)
  · refine or_iff_not_imp_right.mpr fun normal => ?_
    have some : significand ≠ 0 := by
      rintro rfl
      simp only [Nat.log2_zero] at bits
      omega
    have bound : (2 ^ significand.log2 : ℚ) ≤ x :=
      le_trans (by exact_mod_cast Nat.log2_self_le some) least
    calc (2 ^ (52 + final) : ℚ) = 2 ^ (significand.log2 + exponent : ℤ) := by
          congr 1
          omega
      _ = 2 ^ significand.log2 * 2 ^ exponent := by rw [zpow_add₀ two_ne_zero, zpow_natCast]
      _ ≤ x * 2 ^ exponent := by gcongr

theorem shiftToTargetExponent_eq :
    shiftToTargetExponent Format.binary64 significand exponent accuracy =
      (ExtendedMantissa.ofMantissaAndAccuracy significand accuracy >>>
          (target significand exponent - exponent).toNat,
        exponent + (target significand exponent - exponent).toNat) :=
  rfl

/-- No bit is left to round where a significand has room. -/
theorem shiftToTargetExponent_of_lt (lt : significand < 2 ^ 53) (ge : -1074 ≤ exponent) :
    shiftToTargetExponent Format.binary64 significand exponent .exact =
      (⟨significand, false, false⟩, exponent) := by
  have bits : significand.log2 ≤ 52 := by
    rcases Nat.eq_zero_or_pos significand with rfl | some
    · decide
    · exact Nat.le_of_lt_succ ((Nat.log2_lt some.ne').mpr lt)
  have none : (target significand exponent - exponent).toNat = 0 := by
    rw [target_eq]
    omega
  rw [shiftToTargetExponent_eq, none]
  exact congrArg _ (add_zero exponent)

/-- A significand that rounding has filled is halved. -/
theorem shiftToTargetExponent_full (ge : -1074 ≤ exponent) :
    shiftToTargetExponent Format.binary64 (2 ^ 53) exponent .exact =
      (⟨2 ^ 52, false, false⟩, exponent + 1) := by
  have one : (target (2 ^ 53) exponent - exponent).toNat = 1 := by
    rw [target_eq, Nat.log2_two_pow]
    omega
  rw [shiftToTargetExponent_eq, one]
  rfl

/-- The nearest multiple is packed, halved first where rounding has filled it. -/
theorem Nearest.magnitude_pack {multiple : ℕ} (nearest : Nearest x exponent multiple) :
    Magnitude (Float.Model.pack
        (if zero : (shiftToTargetExponent Format.binary64 multiple exponent .exact).1.mantissa = 0
          then .zero .positive
          else .finite .positive _
            (shiftToTargetExponent Format.binary64 multiple exponent .exact).2
            (Nat.pos_of_ne_zero zero))).unpack
      (clip (multiple * 2 ^ exponent)) := by
  rcases nearest.multiple_le_full.lt_or_eq with room | rfl
  · simp only [shiftToTargetExponent_of_lt room nearest.exponent_ge]
    split
    · rename_i zero
      rw [zero, Nat.cast_zero, zero_mul, unpack_pack_zero, clip, if_pos (by positivity)]
      exact .zero _
    · exact Double.magnitude_pack ⟨room, nearest.exponent_ge, nearest.normal_multiple⟩ _
  · have least := nearest.exponent_ge
    have halved : ((2 ^ 53 : ℕ) * 2 ^ exponent : ℚ) = (2 ^ 52 : ℕ) * 2 ^ (exponent + 1) := by
      rw [zpow_add_one₀ two_ne_zero]
      push_cast
      ring
    simp only [shiftToTargetExponent_full least]
    rw [dif_neg (by decide), halved]
    exact Double.magnitude_pack ⟨by decide, by omega, .inl le_rfl⟩ _

/-- What is told of a number is rounded to a double. -/
theorem Tells.exists_rounded (tells : Tells (.ofMantissaAndAccuracy significand accuracy) x)
    (le : exponent ≤ target significand exponent) :
    ∃ result, Magnitude (Float.Model.pack (roundWithAccuracy Format.binary64 .positive significand
        exponent accuracy)).unpack result ∧ Rounded (x * 2 ^ exponent) result := by
  have nearest := tells.nearest le
  have reached : exponent + ((target significand exponent - exponent).toNat : ℤ) =
      target significand exponent := by
    omega
  refine ⟨_, ?_, nearest.rounded⟩
  simp only [roundWithAccuracy, shiftToTargetExponent_eq, reached]
  exact nearest.magnitude_pack

end EventRelay.Double

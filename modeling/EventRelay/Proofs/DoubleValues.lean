import Mathlib

/-!
# What doubles stand for

A double that is a number and not negative stands for a rational number or for infinity. A number
is held by one significand and one exponent only, so that doubles are compared as what they stand
for. Packing keeps what a double can hold, and of what is too large it keeps infinity.
-/

namespace EventRelay.Double

open Float.Model (Format UnpackedFloat)
open Float.Model.UnpackedFloat

/-! ## The one form of a number -/

/-- A significand and an exponent are those by which a double holds its number, if it is not too
large. -/
structure Canonical (significand : ℕ) (exponent : ℤ) : Prop where
  significand_lt : significand < 2 ^ 53
  exponent_ge : -1074 ≤ exponent
  /-- Only the least exponent goes with a smaller significand. -/
  normal : 2 ^ 52 ≤ significand ∨ exponent = -1074

variable {significand : ℕ} {exponent : ℤ} {sign : Sign}

namespace Canonical

theorem log2_eq_iff (canonical : Canonical significand exponent) (positive : 0 < significand) :
    significand.log2 + 1 = 53 ↔ 2 ^ 52 ≤ significand := by
  have most := (Nat.log2_lt positive.ne').mpr canonical.significand_lt
  rw [← Nat.le_log2 positive.ne']
  omega

/-- A canonical form is less than the normal ones with a larger exponent. -/
theorem lt_zpow {larger : ℤ} (canonical : Canonical significand exponent)
    (less : exponent < larger) : (significand * 2 ^ exponent : ℚ) < 2 ^ (52 + larger) :=
  calc (significand * 2 ^ exponent : ℚ)
      < 2 ^ (53 : ℤ) * 2 ^ exponent := by
        gcongr
        exact_mod_cast canonical.significand_lt
    _ = 2 ^ (53 + exponent) := by rw [zpow_add₀ two_ne_zero]
    _ ≤ 2 ^ (52 + larger) := zpow_le_zpow_right₀ one_le_two (by omega)

theorem zpow_le (normal : 2 ^ 52 ≤ significand) (exponent : ℤ) :
    (2 ^ (52 + exponent) : ℚ) ≤ significand * 2 ^ exponent := by
  rw [zpow_add₀ two_ne_zero]
  gcongr
  exact_mod_cast normal

/-- Of two canonical forms that with the smaller exponent is less. -/
theorem lt_of_exponent_lt {other : ℕ} {larger : ℤ} (canonical : Canonical significand exponent)
    (above : Canonical other larger) (less : exponent < larger) :
    (significand * 2 ^ exponent : ℚ) < other * 2 ^ larger := by
  have least := canonical.exponent_ge
  have normal := above.normal.resolve_right (by omega)
  exact (canonical.lt_zpow less).trans_le (zpow_le normal larger)

/-- Canonical forms are compared by their exponents first. -/
theorem compare_eq {other : ℕ} {another : ℤ} (canonical : Canonical significand exponent)
    (second : Canonical other another) :
    (compare exponent another).then (compare significand other) =
      compare (significand * 2 ^ exponent : ℚ) (other * 2 ^ another) := by
  rcases lt_trichotomy exponent another with less | rfl | greater
  · rw [compare_lt_iff_lt.mpr less, compare_lt_iff_lt.mpr (canonical.lt_of_exponent_lt second less)]
    rfl
  · have unit : (0 : ℚ) < 2 ^ exponent := by positivity
    rw [compare_eq_iff_eq.mpr rfl, Ordering.then]
    rcases lt_trichotomy significand other with less | rfl | greater
    · rw [compare_lt_iff_lt.mpr less, compare_lt_iff_lt.mpr]
      exact mul_lt_mul_of_pos_right (by exact_mod_cast less) unit
    · rw [compare_eq_iff_eq.mpr rfl, compare_eq_iff_eq.mpr rfl]
    · rw [compare_gt_iff_gt.mpr greater, compare_gt_iff_gt.mpr]
      exact mul_lt_mul_of_pos_right (by exact_mod_cast greater) unit
  · rw [compare_gt_iff_gt.mpr greater,
      compare_gt_iff_gt.mpr (second.lt_of_exponent_lt canonical greater)]
    rfl

end Canonical

/-! ## Packing and unpacking -/

theorem unpack_pack_infinity : (Float.Model.pack (.infinity sign)).unpack = .infinity sign := by
  change unpack Format.binary64 (packedInfinity Format.binary64 sign) = _
  simp [unpack, packedInfinity]

theorem unpack_pack_notANumber : (Float.Model.pack .notANumber).unpack = .notANumber :=
  unpack_packedNaN

theorem unpack_pack_zero : (Float.Model.pack (.zero sign)).unpack = .zero sign :=
  unpack_packedZero

theorem toNat_leadingOne (fraction : BitVec 52) :
    (1#1 ++ fraction).toNat = 2 ^ 52 + fraction.toNat := by
  rw [BitVec.toNat_append, ← Nat.shiftLeft_add_eq_or_of_lt fraction.isLt]
  rfl

section Components

variable {biased : BitVec 11} {fraction : BitVec 52}

theorem unpack_special (special : biased = -1#11) :
    unpack Format.binary64 (packComponents Format.binary64 sign biased fraction) =
      if fraction = 0#52 then .infinity sign else .notANumber := by
  subst special
  simp only [unpack, unpackExponent_packComponents, unpackMantissa_packComponents,
    unpackSign_packComponents, Sign.ofBitVec_toBitVec]
  rfl

theorem unpack_normal (positive : 0 < significand) (finite : biased ≠ -1#11)
    (normal : biased ≠ 0#11) (significand_eq : significand = 2 ^ 52 + fraction.toNat)
    (exponent_eq : exponent = biased.toNat - 1075) :
    unpack Format.binary64 (packComponents Format.binary64 sign biased fraction) =
      .finite sign significand exponent positive := by
  subst significand_eq exponent_eq
  simp only [unpack, unpackExponent_packComponents, unpackMantissa_packComponents,
    unpackSign_packComponents, Sign.ofBitVec_toBitVec, if_neg finite, if_neg normal]
  congr 1
  exact toNat_leadingOne fraction

theorem unpack_subnormal (positive : 0 < significand)
    (significand_eq : significand = fraction.toNat) :
    unpack Format.binary64 (packComponents Format.binary64 sign 0#11 fraction) =
      .finite sign significand (-1074) positive := by
  subst significand_eq
  have nonzero : fraction ≠ 0#52 := by
    rintro rfl
    exact absurd positive (by decide)
  simp only [unpack, unpackExponent_packComponents, unpackMantissa_packComponents,
    unpackSign_packComponents, Sign.ofBitVec_toBitVec]
  rw [if_neg (by decide), if_pos trivial, dif_neg nonzero]
  rfl

end Components

theorem pack_finite (positive : 0 < significand) :
    pack Format.binary64 (.finite sign significand exponent positive) =
      if 971 < exponent then packedInfinity Format.binary64 sign
      else if significand.log2 + 1 = 53 then
        packComponents Format.binary64 sign (BitVec.ofNat 11 (exponent + 1075).toNat)
          (BitVec.ofNat 52 significand)
      else packComponents Format.binary64 sign 0#11 (BitVec.ofNat 52 significand) := by
  have biased : (exponent + (1023 : ℕ) + (52 : ℕ)).toNat = (exponent + 1075).toNat := by omega
  have large : 2 ^ 11 ≤ (exponent + 1075).toNat + 1 ↔ 971 < exponent := by omega
  change (if 2 ^ 11 ≤ (exponent + (1023 : ℕ) + (52 : ℕ)).toNat + 1 then _
    else if significand.log2 + 1 = 53 then
      packComponents Format.binary64 sign
        (BitVec.ofNat 11 (exponent + (1023 : ℕ) + (52 : ℕ)).toNat) (BitVec.ofNat 52 significand)
    else _) = _
  rw [biased]
  simp only [large]

/-- What a double can hold is unpacked as it was packed. -/
theorem unpack_pack_finite (canonical : Canonical significand exponent)
    (positive : 0 < significand) (small : exponent ≤ 971) :
    (Float.Model.pack (.finite sign significand exponent positive)).unpack =
      .finite sign significand exponent positive := by
  have least := canonical.exponent_ge
  have most := canonical.significand_lt
  change unpack Format.binary64 (pack Format.binary64 _) = _
  rw [pack_finite, if_neg (by omega)]
  by_cases normal : 2 ^ 52 ≤ significand
  · rw [if_pos ((canonical.log2_eq_iff positive).mpr normal)]
    have whole : (BitVec.ofNat 11 (exponent + 1075).toNat).toNat = (exponent + 1075).toNat :=
      Nat.mod_eq_of_lt (by omega)
    have other {bits : BitVec 11} (different : bits.toNat ≠ (exponent + 1075).toNat) :
        BitVec.ofNat 11 (exponent + 1075).toNat ≠ bits := by
      rintro rfl
      exact different whole
    apply unpack_normal positive
    · exact other (show 2047 ≠ _ by omega)
    · exact other (show 0 ≠ _ by omega)
    · rw [BitVec.toNat_ofNat]
      omega
    · rw [whole]
      omega
  · rw [if_neg (mt (canonical.log2_eq_iff positive).mp normal)]
    obtain rfl := canonical.normal.resolve_left normal
    apply unpack_subnormal
    rw [BitVec.toNat_ofNat]
    omega

theorem unpack_pack_large (positive : 0 < significand) (large : 971 < exponent) :
    (Float.Model.pack (.finite sign significand exponent positive)).unpack = .infinity sign := by
  change unpack Format.binary64 (pack Format.binary64 _) = _
  rw [pack_finite, if_pos large]
  exact unpack_pack_infinity

theorem exists_components (bits : BitVec 64) :
    ∃ (sign : Sign) (biased : BitVec 11) (fraction : BitVec 52),
      packComponents Format.binary64 sign biased fraction = bits :=
  ⟨_, _, _, @packComponents_unpackSign_unpackExponent_unpackMantissa Format.binary64 bits⟩

/-- Doubles hold their numbers in canonical form. -/
theorem canonical_of_unpack {double : Float.Model} {positive : 0 < significand}
    (unpacked : double.unpack = .finite sign significand exponent positive) :
    Canonical significand exponent ∧ exponent ≤ 971 := by
  obtain ⟨signed, biased, fraction, components⟩ := exists_components double.toBits.toBitVec
  have fraction_lt : fraction.toNat < 2 ^ 52 := fraction.isLt
  have biased_lt : biased.toNat < 2 ^ 11 := biased.isLt
  rw [Float.Model.unpack, ← components] at unpacked
  by_cases special : biased = -1#11
  · rw [unpack_special special] at unpacked
    split at unpacked <;> contradiction
  have finite : biased.toNat ≠ 2047 := fun same => special (BitVec.eq_of_toNat_eq same)
  by_cases subnormal : biased = 0#11
  · rcases Nat.eq_zero_or_pos fraction.toNat with zero | some
    · have empty : fraction = 0#52 := BitVec.eq_of_toNat_eq zero
      rw [subnormal, empty] at unpacked
      cases (@unpack_packedZero Format.binary64 signed).symm.trans unpacked
    · rw [subnormal, unpack_subnormal some rfl] at unpacked
      cases unpacked
      exact ⟨⟨by omega, le_rfl, .inr rfl⟩, by decide⟩
  · have nonzero : biased.toNat ≠ 0 := fun same => subnormal (BitVec.eq_of_toNat_eq same)
    rw [unpack_normal (Nat.add_pos_left (by decide) _) special subnormal rfl rfl] at unpacked
    cases unpacked
    exact ⟨⟨by omega, by omega, .inl (by omega)⟩, by omega⟩

/-! ## Magnitudes -/

/-- What a double stands for that is a number and not negative. A zero is not negative, whatever
its sign. -/
inductive Magnitude : UnpackedFloat → WithTop ℚ → Prop
  | zero (sign : Sign) : Magnitude (.zero sign) 0
  | finite {significand : ℕ} {exponent : ℤ} (positive : 0 < significand)
      (canonical : Canonical significand exponent) (small : exponent ≤ 971) :
      Magnitude (.finite .positive significand exponent positive)
        (significand * 2 ^ exponent : ℚ)
  | infinity : Magnitude (.infinity .positive) ⊤

variable {left right : UnpackedFloat} {x y : WithTop ℚ}

theorem compare_swap (left right : UnpackedFloat) :
    (left.compare right).map Ordering.swap = right.compare left := by
  have swap {a b : ℤ} {c d : ℕ} :
      ((compare a b).then (compare c d)).swap = (compare b a).then (compare d c) := by
    rw [Ordering.swap_then, ← Std.OrientedOrd.eq_swap, ← Std.OrientedOrd.eq_swap]
  rcases left with (_ | _) | _ | (_ | _) | ⟨_ | _⟩ <;>
    rcases right with (_ | _) | _ | (_ | _) | ⟨_ | _⟩ <;>
    first
    | rfl
    | simp only [Float.Model.UnpackedFloat.compare, Option.map_some, swap]

theorem compare_eq_none_iff :
    left.compare right = none ↔ left = .notANumber ∨ right = .notANumber := by
  rcases left with (_ | _) | _ | (_ | _) | ⟨_ | _⟩ <;>
    rcases right with (_ | _) | _ | (_ | _) | ⟨_ | _⟩ <;>
    simp [Float.Model.UnpackedFloat.compare]

theorem compare_coe (a b : ℚ) : compare (a : WithTop ℚ) b = compare a b := by
  rcases lt_trichotomy a b with less | rfl | greater
  · rw [compare_lt_iff_lt.mpr less, compare_lt_iff_lt.mpr (WithTop.coe_lt_coe.mpr less)]
  · rw [compare_eq_iff_eq.mpr rfl, compare_eq_iff_eq.mpr rfl]
  · rw [compare_gt_iff_gt.mpr greater, compare_gt_iff_gt.mpr (WithTop.coe_lt_coe.mpr greater)]

theorem Magnitude.nonneg (magnitude : Magnitude left x) : 0 ≤ x := by
  cases magnitude with
  | zero => exact le_rfl
  | finite => exact WithTop.coe_nonneg.mpr (by positivity)
  | infinity => exact le_top

/-- Doubles are compared as what they stand for. -/
theorem Magnitude.compare_eq (first : Magnitude left x) (second : Magnitude right y) :
    left.compare right = some (compare x y) := by
  have positive {significand : ℕ} {exponent : ℤ} (some : 0 < significand) :
      (0 : WithTop ℚ) < (significand * 2 ^ exponent : ℚ) :=
    WithTop.coe_pos.mpr (by positivity)
  cases first with
  | zero =>
      cases second with
      | zero => rw [compare_eq_iff_eq.mpr rfl]; rfl
      | finite some => rw [compare_lt_iff_lt.mpr (positive some)]; rfl
      | infinity => rw [compare_lt_iff_lt.mpr (WithTop.coe_lt_top 0)]; rfl
  | finite some canonical =>
      cases second with
      | zero => rw [compare_gt_iff_gt.mpr (positive some)]; rfl
      | finite _ other => rw [compare_coe, ← canonical.compare_eq other]; rfl
      | infinity => rw [compare_lt_iff_lt.mpr (WithTop.coe_lt_top _)]; rfl
  | infinity =>
      cases second with
      | zero => rw [compare_gt_iff_gt.mpr (WithTop.coe_lt_top 0)]; rfl
      | finite => rw [compare_gt_iff_gt.mpr (WithTop.coe_lt_top _)]; rfl
      | infinity => rw [compare_eq_iff_eq.mpr rfl]; rfl

/-- A double stands for a number that is not negative, or for infinity. -/
def Stands (double : Float) (magnitude : WithTop ℚ) : Prop :=
  Magnitude double.toModel.unpack magnitude

variable {first second : Float}

theorem lt_iff_compare :
    first < second ↔ first.toModel.unpack.compare second.toModel.unpack = some .lt := by
  change decide (first.toModel < second.toModel) = true ↔ _
  rw [decide_eq_true_eq]
  exact beq_iff_eq

theorem le_iff_compare : first ≤ second ↔
    (first.toModel.unpack.compare second.toModel.unpack).any Ordering.isLE = true := by
  change decide (first.toModel ≤ second.toModel) = true ↔ _
  rw [decide_eq_true_eq]
  exact Iff.rfl

theorem Stands.lt_iff (stands : Stands first x) (other : Stands second y) :
    first < second ↔ x < y := by
  rw [lt_iff_compare, Magnitude.compare_eq stands other, Option.some.injEq, compare_lt_iff_lt]

theorem isNaN_iff_unpack : first.isNaN = true ↔ first.toModel.unpack = .notANumber :=
  isNaN_iff

/-- What is no number is not compared. -/
theorem not_lt_of_isNaN (none : first.isNaN = true ∨ second.isNaN = true) : ¬ first < second := by
  rw [isNaN_iff_unpack, isNaN_iff_unpack] at none
  rw [lt_iff_compare, compare_eq_none_iff.mpr none]
  exact Option.some_ne_none _ ∘ Eq.symm

/-- Not to be less is to be at least as much only where both doubles are numbers. -/
theorem le_iff_not_lt :
    first ≤ second ↔ ¬ second < first ∧ first.isNaN = false ∧ second.isNaN = false := by
  rw [le_iff_compare, lt_iff_compare, ← Bool.not_eq_true, ← Bool.not_eq_true, isNaN_iff_unpack,
    isNaN_iff_unpack, ← not_or, ← compare_eq_none_iff,
    ← compare_swap first.toModel.unpack second.toModel.unpack]
  rcases first.toModel.unpack.compare second.toModel.unpack with _ | _ | _ | _ <;> simp

theorem Stands.isNaN_eq (stands : Stands first x) : first.isNaN = false := by
  rw [← Bool.not_eq_true, isNaN_iff_unpack]
  intro unpacked
  rw [Stands, unpacked] at stands
  cases stands

end EventRelay.Double

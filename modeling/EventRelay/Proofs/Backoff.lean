import EventRelay.Proofs.DoubleArithmetic
import EventRelay.Proofs.SoundSettings

/-!
# How long an exponential backoff waits

The wait before a retry grows from the least by a factor, up to the most. It stays between the two
whatever the factor, a power that is infinite and one that is no number included, as long as the
steps are counted upwards. Steps are counted in thirty-two bits, and past the half of them the
power is a reciprocal, so that the wait falls below the least.
-/

namespace EventRelay.Retry

open Double

variable {result base : Float} {x y : WithTop ℚ}

/-! ## Powers -/

theorem exists_step_ge (stands : Stands result x) (other : Stands base y) (xGe : 1 ≤ x)
    (yGe : 1 ≤ y) (exponent : ℕ) :
    ∃ value, Stands (if exponent % 2 = 1 then result * base else result) value ∧ x ≤ value ∧
      (exponent % 2 = 1 → y ≤ value) := by
  split
  · obtain ⟨value, product, least, most⟩ := stands.exists_mul_ge other xGe yGe
    exact ⟨value, product, least, fun _ => most⟩
  · rename_i even
    exact ⟨x, stands, le_rfl, fun odd => absurd odd even⟩

/-- A power of a base that is at least one is at least the base, if it has a factor at all. -/
theorem exists_timesPower_ge (stands : Stands result x) (other : Stands base y) (xGe : 1 ≤ x)
    (yGe : 1 ≤ y) (exponent : ℕ) :
    ∃ value, Stands (timesPower result base exponent) value ∧ x ≤ value ∧
      (exponent ≠ 0 → y ≤ value) := by
  induction exponent using Nat.strongRecOn generalizing result base x y with
  | ind exponent ih =>
      obtain ⟨next, step, least, most⟩ := exists_step_ge stands other xGe yGe exponent
      rw [timesPower]
      split
      · rename_i last
        exact ⟨next, step, least, fun some => most (by omega)⟩
      · rename_i more
        -- What is left is a power of the square, which is no less than the base.
        obtain ⟨square, product, above, -⟩ := other.exists_mul_ge other yGe yGe
        obtain ⟨value, power, atLeast, atMost⟩ := ih (exponent / 2) (by omega) step product
          (xGe.trans least) (yGe.trans above)
        exact ⟨value, power, least.trans atLeast, fun _ => above.trans (atMost more)⟩

/-- A power of what is no number is none. -/
theorem isNaN_timesPower (none : base.isNaN = true) {exponent : ℕ} (some : exponent ≠ 0) :
    (timesPower result base exponent).isNaN = true := by
  induction exponent using Nat.strongRecOn generalizing result base with
  | ind exponent ih =>
      rw [timesPower]
      split
      · rename_i last
        rw [if_pos (by omega)]
        exact isNaN_mul_right none
      · rename_i more
        exact ih (exponent / 2) (by omega) (isNaN_mul_right none) more

/-- The powers of one are one. -/
theorem stands_timesPower_one (stands : Stands result (1 : ℚ)) (other : Stands base (1 : ℚ))
    (exponent : ℕ) : Stands (timesPower result base exponent) (1 : ℚ) := by
  induction exponent using Nat.strongRecOn generalizing result base with
  | ind exponent ih =>
      have step : Stands (if exponent % 2 = 1 then result * base else result) (1 : ℚ) := by
        split
        · exact stands.mul_of_one other
        · exact stands
      rw [timesPower]
      split
      · exact step
      · exact ih (exponent / 2) (by omega) step (other.mul_of_one other)

/-! ## Powers by the step -/

theorem power_zero : power base 0 = 1 := by
  rw [power, if_neg (lt_irrefl 0), Int.natAbs_zero, timesPower]
  rfl

theorem exists_power_ge (stands : Stands base x) (xGe : 1 ≤ x) {exponent : ℤ}
    (upwards : 0 ≤ exponent) : ∃ value, Stands (power base exponent) value ∧ 1 ≤ value := by
  obtain ⟨value, power, least, -⟩ :=
    exists_timesPower_ge stands_one stands le_rfl xGe exponent.natAbs
  rw [Retry.power, if_neg (by omega)]
  exact ⟨value, power, least⟩

/-- One divided by one is one. -/
theorem stands_one_div (stands : Stands base (1 : ℚ)) : Stands (1 / base) (1 : ℚ) := by
  obtain ⟨result, magnitude, rounded⟩ := Magnitude.exists_div stands_one stands one_ne_zero
  rw [div_one] at rounded
  rw [← rounded.eq_of_held stands]
  exact magnitude

theorem stands_power_one (stands : Stands base (1 : ℚ)) (exponent : ℤ) :
    Stands (power base exponent) (1 : ℚ) := by
  have powers := stands_timesPower_one stands_one stands exponent.natAbs
  rw [power]
  split
  · exact stands_one_div powers
  · exact powers

theorem isNaN_power (none : base.isNaN = true) {exponent : ℤ} (some : exponent ≠ 0) :
    (power base exponent).isNaN = true := by
  have powers : (timesPower 1 base exponent.natAbs).isNaN = true :=
    isNaN_timesPower none (Int.natAbs_ne_zero.mpr some)
  rw [power]
  split
  · exact isNaN_div_right powers
  · exact powers

/-- A double that is more than one is so by the gap after one at least. -/
theorem one_add_le {held : Float.Model.UnpackedFloat} {value : ℚ} (magnitude : Magnitude held value)
    (more : 1 < value) : 1 + 2 ^ (-52 : ℤ) ≤ value := by
  obtain ⟨sign, -, rfl⟩ | ⟨m, e, positive, canonical, -, rfl⟩ := magnitude.eq_zero_or
  · exact absurd more (by decide)
  have coarse : -52 ≤ e := by
    by_contra fine
    exact absurd more (canonical.lt_zpow (not_le.mp fine)).not_gt
  rw [mul_zpow_of_le m coarse] at more ⊢
  generalize m * 2 ^ (e - -52).toNat = multiple at more ⊢
  have unit : (2 ^ 52 * 2 ^ (-52 : ℤ) : ℚ) = 1 := by norm_num
  have above : (2 ^ 52 : ℚ) < multiple := by
    refine lt_of_mul_lt_mul_right (a := (2 ^ (-52 : ℤ) : ℚ)) ?_ (by positivity)
    rwa [unit]
  have next : (2 ^ 52 + 1 : ℚ) ≤ multiple := by exact_mod_cast above
  calc (1 + 2 ^ (-52 : ℤ) : ℚ) = (2 ^ 52 + 1) * 2 ^ (-52 : ℤ) := by norm_num
    _ ≤ multiple * 2 ^ (-52 : ℤ) := by gcongr

/-- The reciprocal of a double that is more than one is less than one. -/
theorem exists_one_div_le (stands : Stands base x) (more : 1 < x) :
    ∃ value : ℚ, Stands (1 / base) value ∧ value ≤ 1 - 2 ^ (-53 : ℤ) := by
  cases x using WithTop.recTopCoe with
  | top =>
      have quotient := Magnitude.div_infinity stands_one
      rw [← Magnitude.eq_infinity stands] at quotient
      exact ⟨0, quotient, by norm_num⟩
  | coe p =>
      -- The base is no less than the double after one, its reciprocal no more than that before.
      have gap := one_add_le stands (WithTop.coe_lt_coe.mp more)
      have held : Magnitude (.finite .positive (2 ^ 53 - 1) (-53) (by decide))
          (1 - 2 ^ (-53 : ℤ) : ℚ) := by
        have value : (1 - 2 ^ (-53 : ℤ) : ℚ) = (2 ^ 53 - 1 : ℕ) * 2 ^ (-53 : ℤ) := by norm_num
        rw [value]
        exact .finite _ ⟨by decide, by decide, .inl (by decide)⟩ (by decide)
      have positive : 0 < p := zero_lt_one.trans (WithTop.coe_lt_coe.mp more)
      obtain ⟨result, magnitude, rounded⟩ := Magnitude.exists_div stands_one stands positive.ne'
      have most : result ≤ (1 - 2 ^ (-53 : ℤ) : ℚ) := by
        refine rounded.le_of_le held (WithTop.coe_le_coe.mpr ?_)
        rw [div_le_iff₀ positive]
        calc (1 : ℚ) ≤ (1 - 2 ^ (-53 : ℤ)) * (1 + 2 ^ (-52 : ℤ)) := by norm_num
          _ ≤ (1 - 2 ^ (-53 : ℤ)) * p := by gcongr
      lift result to ℚ using (most.trans_lt (WithTop.coe_lt_top _)).ne
      exact ⟨result, magnitude, WithTop.coe_le_coe.mp most⟩

theorem exists_power_le (stands : Stands base x) (more : 1 < x) {exponent : ℤ}
    (downwards : exponent < 0) :
    ∃ value : ℚ, Stands (power base exponent) value ∧ value ≤ 1 - 2 ^ (-53 : ℤ) := by
  obtain ⟨value, powers, -, most⟩ :=
    exists_timesPower_ge stands_one stands le_rfl more.le exponent.natAbs
  rw [power, if_pos downwards]
  exact exists_one_div_le powers (more.trans_le (most (by omega)))

/-! ## The least wait, scaled -/

section Scaled

variable {n : ℕ} {double factor : Float}

/-- Scaled by what is at least one a natural number does not get less, unless zero is scaled by
infinity. -/
theorem exists_mul_ge (natural : Stands double (n : ℚ)) (power : Stands factor y) (yGe : 1 ≤ y) :
    (double * factor).isNaN = true ∨
      ∃ value, Stands (double * factor) value ∧ (n : ℚ) ≤ value := by
  cases y using WithTop.recTopCoe with
  | top =>
      rcases Nat.eq_zero_or_pos n with rfl | positive
      · exact .inl (isNaN_zero_mul natural power)
      · have some : (0 : WithTop ℚ) < (n : ℚ) := WithTop.coe_pos.mpr (by exact_mod_cast positive)
        have product := (Magnitude.mul_infinity natural some).1
        rw [← Magnitude.eq_infinity power] at product
        exact .inr ⟨⊤, product, le_top⟩
  | coe p =>
      have least : (1 : ℚ) ≤ p := WithTop.coe_le_coe.mp yGe
      obtain ⟨value, product, rounded⟩ := Magnitude.exists_mul natural power
      refine .inr ⟨value, product, rounded.ge_of_ge natural (WithTop.coe_le_coe.mpr ?_)⟩
      exact le_mul_of_one_le_right (Nat.cast_nonneg n) least

/-- Scaled by a double that is less than one a natural number gets less. -/
theorem exists_mul_lt {q : ℚ} (natural : Stands double (n : ℚ)) (power : Stands factor q)
    (less : q ≤ 1 - 2 ^ (-53 : ℤ)) :
    ∃ value : ℚ, Stands (double * factor) value ∧ (0 < n → value < n) := by
  obtain ⟨value, product, rounded⟩ := Magnitude.exists_mul natural power
  have unit : (0 : ℚ) < 2 ^ (-53 : ℤ) := by positivity
  have scaled : (n * q : ℚ) ≤ n * (1 - 2 ^ (-53 : ℤ)) := by gcongr
  have most : value ≤ (n : ℚ) := by
    refine rounded.le_of_le natural (WithTop.coe_le_coe.mpr (mul_le_of_le_one_right ?_ ?_))
    · exact Nat.cast_nonneg n
    · linarith
  lift value to ℚ using (most.trans_lt (WithTop.coe_lt_top _)).ne
  refine ⟨value, product, fun positive => ?_⟩
  have one_le : (1 : ℚ) ≤ n := by exact_mod_cast positive
  have error := WithTop.coe_le_coe.mp (rounded.le_add.resolve_right WithTop.coe_ne_top)
  -- What rounding may add is less than what the factor takes away.
  suffices small : max (n * q / 2 ^ 53 : ℚ) (2 ^ (-1075 : ℤ)) < n - n * q by linarith
  refine max_lt ?_ ?_
  · have square : (n * q + n * q / 2 ^ 53 : ℚ) < n := by
      calc (n * q + n * q / 2 ^ 53 : ℚ) = n * q * (1 + 2 ^ (-53 : ℤ)) := by
            rw [zpow_neg]
            norm_num
            ring
        _ ≤ n * (1 - 2 ^ (-53 : ℤ)) * (1 + 2 ^ (-53 : ℤ)) := by gcongr
        _ = n - n * (2 ^ (-53 : ℤ)) ^ 2 := by ring
        _ < n := sub_lt_self _ (by positivity)
    linarith
  · have tiny : (2 ^ (-1075 : ℤ) : ℚ) < 2 ^ (-53 : ℤ) :=
      zpow_lt_zpow_right₀ one_lt_two (by decide)
    have share : (2 ^ (-53 : ℤ) : ℚ) ≤ n * 2 ^ (-53 : ℤ) := le_mul_of_one_le_left unit.le one_le
    linarith

end Scaled

/-! ## Caps -/

namespace Strategy

variable {left right : Float}

theorem stands_lesser (first : Stands left x) (second : Stands right y) :
    Stands (lesser left right) (min x y) := by
  rw [lesser, first.isNaN_eq, if_neg Bool.false_ne_true]
  split
  · rename_i less
    rwa [min_eq_right ((second.lt_iff first).mp less).le]
  · rename_i large
    rwa [min_eq_left (not_lt.mp (mt (second.lt_iff first).mpr large))]

theorem stands_greater (first : Stands left x) (second : Stands right y) :
    Stands (greater left right) (max x y) := by
  rw [greater, first.isNaN_eq, if_neg Bool.false_ne_true]
  split
  · rename_i less
    rwa [max_eq_right ((first.lt_iff second).mp less).le]
  · rename_i large
    rwa [max_eq_left (not_lt.mp (mt (first.lt_iff second).mpr large))]

theorem stands_zero : Stands 0 (0 : ℚ) := by
  have stands := stands_ofNat (show 0 ≤ 2 ^ 53 by decide)
  rwa [Nat.cast_zero] at stands

/-- What is between nothing and a double stays what it is between the two. -/
theorem stands_capped {scaled cap : Float} (stands : Stands scaled x) (most : Stands cap y) :
    Stands (greater (lesser scaled cap) 0) (min x y) := by
  have capped := stands_greater (stands_lesser stands most) stands_zero
  have least : ((0 : ℚ) : WithTop ℚ) ≤ min x y :=
    le_min (Magnitude.nonneg stands) (Magnitude.nonneg most)
  rwa [max_eq_left least] at capped

theorem lesser_of_isNaN (none : left.isNaN = true) : lesser left right = right := by
  rw [lesser, if_pos none]

/-! ## The wait before a retry -/

/-- The power is a reciprocal for the second half of the steps. -/
theorem exponentOf_neg_iff {step : ℕ} (counted : step < 2 ^ 32) :
    exponentOf step < 0 ↔ 2 ^ 31 ≤ step := by
  obtain ⟨turns, wrapped⟩ := Int.dvd_self_sub_bmod (x := step) (m := UInt32.size)
  have low := Int.le_bmod (x := step) (m := UInt32.size) (by decide)
  have high := Int.bmod_lt (x := step) (m := UInt32.size) (by decide)
  change Int.bmod step UInt32.size < 0 ↔ _
  generalize Int.bmod step UInt32.size = wound at wrapped low high ⊢
  have size : (UInt32.size : ℤ) = 4294967296 := by norm_num [UInt32.size]
  rw [size] at wrapped low high
  omega

variable {least most : Duration} {factor : Float} {step : ℕ}

/-- The wait after so many steps before it is capped. -/
def scaled (least : Duration) (factor : Float) (step : ℕ) : Float :=
  Float.ofNat least.millis * power factor (exponentOf step)

theorem millis_exponentialDelay :
    (exponentialDelay least most factor step).millis =
      (greater (lesser (scaled least factor step) (Float.ofNat most.millis)) 0).toUInt64.toNat :=
  Duration.millis_ofMillis _

/-- Milliseconds are counted in sixty-four bits, so no capped wait is cut off by them. -/
theorem lt_of_le_millis {value : ℚ} (small : most.millis ≤ 2 ^ 53) (bound : value ≤ most.millis) :
    value < 2 ^ 64 :=
  calc value ≤ (2 ^ 53 : ℕ) := bound.trans (Nat.cast_le.mpr small)
    _ < 2 ^ 64 := by norm_num

/-- Where the scaled wait is a number, the whole milliseconds of it are waited, up to the most. -/
theorem exists_millis_eq_floor (small : most.millis ≤ 2 ^ 53)
    (stands : Stands (scaled least factor step) x) :
    ∃ value : ℚ, value = min x (most.millis : ℚ) ∧
      (exponentialDelay least most factor step).millis = ⌊value⌋₊ := by
  have capped := stands_capped stands (stands_ofNat small)
  have bound : min x (most.millis : ℚ) ≤ (most.millis : ℚ) := min_le_right _ _
  generalize min x (most.millis : ℚ) = cap at capped bound
  lift cap to ℚ using (bound.trans_lt (WithTop.coe_lt_top _)).ne
  have fits : cap < 2 ^ 64 := lt_of_le_millis small (WithTop.coe_le_coe.mp bound)
  exact ⟨cap, rfl, by rw [millis_exponentialDelay, capped.toNat_toUInt64 fits]⟩

/-- Where the scaled wait is no number, the most is waited. -/
theorem millis_of_isNaN (small : most.millis ≤ 2 ^ 53)
    (none : (scaled least factor step).isNaN = true) :
    (exponentialDelay least most factor step).millis = most.millis := by
  have cap := stands_ofNat small
  have capped := stands_greater cap stands_zero
  have least : ((0 : ℚ) : WithTop ℚ) ≤ (most.millis : ℚ) := Magnitude.nonneg cap
  rw [max_eq_left least] at capped
  rw [millis_exponentialDelay, lesser_of_isNaN none,
    capped.toNat_toUInt64 (lt_of_le_millis small le_rfl), Nat.floor_natCast]

/-- The wait is never more than the most. -/
theorem millis_le_most (small : most.millis ≤ 2 ^ 53)
    (stands : Stands (scaled least factor step) x) :
    (exponentialDelay least most factor step).millis ≤ most.millis := by
  obtain ⟨value, capped, millis⟩ := exists_millis_eq_floor small stands
  have bound : value ≤ most.millis := WithTop.coe_le_coe.mp (capped ▸ min_le_right _ _)
  rw [millis]
  exact Nat.floor_le_of_le bound

theorem least_le_millis (small : most.millis ≤ 2 ^ 53) (ordered : least.millis ≤ most.millis)
    (stands : Stands (scaled least factor step) x) (above : (least.millis : ℚ) ≤ x) :
    least.millis ≤ (exponentialDelay least most factor step).millis := by
  obtain ⟨value, capped, millis⟩ := exists_millis_eq_floor small stands
  have both : ((least.millis : ℚ) : WithTop ℚ) ≤ min x (most.millis : ℚ) :=
    le_min above (WithTop.coe_le_coe.mpr (by exact_mod_cast ordered))
  rw [← capped] at both
  rw [millis]
  exact Nat.le_floor (WithTop.coe_le_coe.mp both)

theorem millis_lt_least {value : ℚ} (small : most.millis ≤ 2 ^ 53)
    (stands : Stands (scaled least factor step) value) (positive : 0 < least.millis)
    (below : value < least.millis) :
    (exponentialDelay least most factor step).millis < least.millis := by
  obtain ⟨cut, capped, millis⟩ := exists_millis_eq_floor small stands
  have both : cut ≤ value := WithTop.coe_le_coe.mp (capped ▸ min_le_left _ _)
  rw [millis]
  exact (Nat.floor_lt' positive.ne').mpr (both.trans_lt below)

/-- The least wait is not scaled down: the scaled wait is no number, or it is no less. -/
def Kept (least : Duration) (factor : Float) (step : ℕ) : Prop :=
  (scaled least factor step).isNaN = true ∨
    ∃ value, Stands (scaled least factor step) value ∧ (least.millis : ℚ) ≤ value

/-- What is not scaled down is waited within the bounds. -/
theorem Kept.millis_between (kept : Kept least factor step) (small : most.millis ≤ 2 ^ 53)
    (ordered : least.millis ≤ most.millis) :
    least.millis ≤ (exponentialDelay least most factor step).millis ∧
      (exponentialDelay least most factor step).millis ≤ most.millis := by
  obtain none | ⟨value, stands, above⟩ := kept
  · rw [millis_of_isNaN small none]
    exact ⟨ordered, le_rfl⟩
  · exact ⟨least_le_millis small ordered stands above, millis_le_most small stands⟩

section Natural

variable (natural : Stands (Float.ofNat least.millis) (least.millis : ℚ))
include natural

/-- A factor that is no number scales nothing where no power is taken, and to no number else. -/
theorem kept_of_isNaN (none : factor.isNaN = true) (step : ℕ) : Kept least factor step := by
  by_cases zero : exponentOf step = 0
  · rw [Kept, scaled, zero, power_zero]
    exact .inr ⟨_, natural.mul_of_one stands_one, le_rfl⟩
  · exact .inl (isNaN_mul_right (isNaN_power none zero))

theorem kept_of_one (one : Stands factor (1 : ℚ)) (step : ℕ) : Kept least factor step :=
  .inr ⟨_, natural.mul_of_one (stands_power_one one _), le_rfl⟩

theorem kept_of_upwards (stands : Stands factor x) (xGe : 1 ≤ x)
    (upwards : 0 ≤ exponentOf step) : Kept least factor step := by
  obtain ⟨value, powers, powerGe⟩ := exists_power_ge stands xGe upwards
  exact exists_mul_ge natural powers powerGe

/-- By a power downwards of what is more than one the least wait is scaled down. -/
theorem exists_scaled_lt (stands : Stands factor x) (more : 1 < x)
    (downwards : exponentOf step < 0) :
    ∃ value : ℚ, Stands (scaled least factor step) value ∧
      (0 < least.millis → value < least.millis) := by
  obtain ⟨power, powers, powerLe⟩ := exists_power_le stands more downwards
  exact exists_mul_lt natural powers powerLe

end Natural

/-- The wait is no more than the most, and no less than the least unless the power is a reciprocal
that is less than one. -/
theorem exponentialDelay_bounds (small : most.millis ≤ 2 ^ 53)
    (ordered : least.millis ≤ most.millis) (large : ¬ factor < 1) (counted : step < 2 ^ 32) :
    (exponentialDelay least most factor step).millis ≤ most.millis ∧
      (least.millis ≤ (exponentialDelay least most factor step).millis ↔
        step < 2 ^ 31 ∨ least.millis = 0 ∨ ¬ 1 < factor) := by
  have natural := stands_ofNat (ordered.trans small)
  have within (kept : Kept least factor step)
      (holds : step < 2 ^ 31 ∨ least.millis = 0 ∨ ¬ 1 < factor) :
      (exponentialDelay least most factor step).millis ≤ most.millis ∧
        (least.millis ≤ (exponentialDelay least most factor step).millis ↔
          step < 2 ^ 31 ∨ least.millis = 0 ∨ ¬ 1 < factor) :=
    have between := kept.millis_between small ordered
    ⟨between.2, iff_of_true between.1 holds⟩
  cases number : factor.isNaN with
  | true =>
      exact within (kept_of_isNaN natural number step)
        (.inr (.inr (not_lt_of_isNaN (.inr number))))
  | false =>
      obtain ⟨value, stands, valueGe⟩ := exists_stands_of_not_lt_one large number
      obtain rfl | more := valueGe.eq_or_lt
      · have one : ¬ 1 < factor := mt (stands_one.lt_iff stands).mp (lt_irrefl _)
        exact within (kept_of_one natural stands step) (.inr (.inr one))
      rcases lt_or_ge step (2 ^ 31) with early | late
      · have upwards := not_lt.mp (mt (exponentOf_neg_iff counted).mp early.not_ge)
        exact within (kept_of_upwards natural stands valueGe upwards) (.inl early)
      · have downwards := (exponentOf_neg_iff counted).mpr late
        obtain ⟨product, stands', below⟩ := exists_scaled_lt natural stands more downwards
        refine ⟨millis_le_most small stands', ?_⟩
        rcases Nat.eq_zero_or_pos least.millis with zero | positive
        · exact iff_of_true (zero ▸ Nat.zero_le _) (.inr (.inl zero))
        · refine iff_of_false (millis_lt_least small stands' positive (below positive)).not_ge ?_
          rintro (early | zero | one)
          · exact late.not_gt early
          · exact positive.ne' zero
          · exact one ((stands_one.lt_iff stands).mpr more)

/-- Before the first retry the least is waited. -/
theorem millis_first (small : most.millis ≤ 2 ^ 53) (ordered : least.millis ≤ most.millis)
    (factor : Float) : (exponentialDelay least most factor 0).millis = least.millis := by
  have natural := stands_ofNat (ordered.trans small)
  have stands : Stands (scaled least factor 0) (least.millis : ℚ) := by
    rw [scaled, show exponentOf 0 = 0 from rfl, power_zero]
    exact natural.mul_of_one stands_one
  obtain ⟨value, capped, millis⟩ := exists_millis_eq_floor small stands
  have below : ((least.millis : ℚ) : WithTop ℚ) ≤ (most.millis : ℚ) :=
    WithTop.coe_le_coe.mpr (by exact_mod_cast ordered)
  rw [min_eq_left below, WithTop.coe_inj] at capped
  rw [millis, capped, Nat.floor_natCast]

end Strategy

end EventRelay.Retry

namespace EventRelay

namespace Duration

theorem nanos_ofMillis (millis : UInt64) : (ofMillis millis).nanos = millis.toNat * 1000000 :=
  rfl

/-- A wait of whole milliseconds is compared by them. -/
theorem nanos_le_iff {left right : UInt64} :
    (ofMillis left).nanos ≤ (ofMillis right).nanos ↔
      (ofMillis left).millis ≤ (ofMillis right).millis := by
  rw [nanos_ofMillis, nanos_ofMillis, millis_ofMillis, millis_ofMillis]
  omega

theorem ofMillis_eq_of_millis {left right : UInt64}
    (same : (ofMillis left).millis = (ofMillis right).millis) : ofMillis left = ofMillis right := by
  rw [millis_ofMillis, millis_ofMillis] at same
  rw [UInt64.toNat_inj.mp same]

end Duration

namespace Settings

open Retry

/-- The shortest wait that an exponential backoff is set to. -/
def leastWait (settings : Settings) : Duration :=
  Duration.ofMillis settings.exponentialMinMillis

/-- The longest wait that an exponential backoff is set to. -/
def mostWait (settings : Settings) : Duration :=
  Duration.ofMillis settings.exponentialMaxMillis

variable {settings : Settings}

theorem delay_exponential (chosen : settings.retryStrategy = .exponential) (retry : ℕ) :
    settings.strategy.delay retry =
      Strategy.exponentialDelay settings.leastWait settings.mostWait settings.exponentialFactor
        (retry - 1) := by
  rw [strategy, chosen]
  rfl

/-- A backoff waits the least before the first retry and never more than the most. It waits no
less than the least before the first half of the retries that can be counted, and before the
others only if there is nothing to wait or nothing to grow by. -/
theorem backoff_bounded_iff (accepted : settings.validate = .ok ())
    (chosen : settings.retryStrategy = .exponential)
    (small : settings.exponentialMaxMillis.toNat ≤ 2 ^ 53) :
    settings.strategy.delay 1 = settings.leastWait ∧
      ∀ retry, 1 ≤ retry → retry < 2 ^ 32 →
        (settings.strategy.delay retry).nanos ≤ settings.mostWait.nanos ∧
          (settings.leastWait.nanos ≤ (settings.strategy.delay retry).nanos ↔
            retry ≤ 2 ^ 31 ∨ settings.exponentialMinMillis = 0 ∨
              ¬ 1 < settings.exponentialFactor) := by
  obtain ⟨coherent, large⟩ := validate_eq_ok_iff.mp accepted
  have cap : settings.mostWait.millis ≤ 2 ^ 53 := by rwa [mostWait, Duration.millis_ofMillis]
  have ordered : settings.leastWait.millis ≤ settings.mostWait.millis := by
    rw [leastWait, mostWait, Duration.millis_ofMillis, Duration.millis_ofMillis]
    exact UInt64.le_iff_toNat_le.mp coherent.bounds
  have none : settings.leastWait.millis = 0 ↔ settings.exponentialMinMillis = 0 := by
    rw [leastWait, Duration.millis_ofMillis, ← UInt64.toNat_inj]
    rfl
  constructor
  · rw [delay_exponential chosen]
    exact Duration.ofMillis_eq_of_millis (Strategy.millis_first cap ordered _)
  · intro retry first last
    have bounds := Strategy.exponentialDelay_bounds cap ordered large
      (show retry - 1 < 2 ^ 32 by omega)
    have counted : retry - 1 < 2 ^ 31 ↔ retry ≤ 2 ^ 31 := by omega
    rw [none, counted] at bounds
    rw [delay_exponential chosen]
    exact ⟨Duration.nanos_le_iff.mpr bounds.1, Duration.nanos_le_iff.trans bounds.2⟩

theorem backoff_bounded_iff_wrapped :
    ({ exponentialFactor := 2 } : Settings).validate = .ok () ∧
      ¬ ({ exponentialFactor := 2 } : Settings).leastWait.nanos ≤
        (({ exponentialFactor := 2 } : Settings).strategy.delay 2147483649).nanos := by
  have accepted : ({ exponentialFactor := 2 } : Settings).validate = .ok () :=
    validate_eq_ok_iff.mpr ⟨coherent_of_factor 2, by decide +kernel⟩
  have bounds := (backoff_bounded_iff accepted rfl (by decide)).2 2147483649 (by decide) (by decide)
  refine ⟨accepted, mt bounds.2.mp ?_⟩
  rintro (early | zero | one)
  · exact absurd early (by decide)
  · exact absurd zero (by decide)
  · exact one (by decide +kernel)

end Settings

end EventRelay

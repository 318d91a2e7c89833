import SmartBandwidth.Lib.Rounding
import Mathlib.Data.Int.Log
import Mathlib.Algebra.Order.Field.Power

/-!
# Double precision

A double has a significand of at most 53 bits, and its last bit is at least `2 ^ -1074`.
Rounding takes the nearest one, a tie the even one: it keeps the order, leaves doubles as they
are, and moves a number by a small part of itself.  The range of doubles is not bounded here.
-/

namespace Binary64

open Rounding

/-- The exponent of the last bit of the doubles next to a number. -/
def lastBit (number : ℚ) : Int :=
  if number = 0 then -1074 else max (-1074) (Int.log 2 |number| - 52)

/-- The distance between the doubles next to a number. -/
def spacing (number : ℚ) : ℚ := 2 ^ lastBit number

/-- The nearest double; a tie goes to the even one. -/
def nearest (number : ℚ) : ℚ := roundHalfEven (number / spacing number) * spacing number

/-- A whole number of units of its last bit. -/
def IsDouble (number : ℚ) : Prop := ∃ units : Int, number = units * spacing number

/-- Half of the spacing at one: the relative error of rounding. -/
def unitRoundoff : ℚ := 1 / 2 ^ 53

/-! ## Spacing -/

section Spacing

variable {number other : ℚ}

theorem spacing_pos (number : ℚ) : 0 < spacing number := zpow_pos two_pos _

theorem le_lastBit (number : ℚ) : -1074 ≤ lastBit number := by
  rw [lastBit]
  split
  next => exact le_rfl
  next => exact le_max_left _ _

theorem lastBit_neg (number : ℚ) : lastBit (-number) = lastBit number := by
  simp only [lastBit, abs_neg, neg_eq_zero]

theorem spacing_neg (number : ℚ) : spacing (-number) = spacing number := by
  rw [spacing, spacing, lastBit_neg]

theorem lastBit_mono (ordered : |number| ≤ |other|) : lastBit number ≤ lastBit other := by
  rw [lastBit]
  split
  next => exact le_lastBit other
  next nonzero =>
    have positive : 0 < |number| := abs_pos.mpr nonzero
    have otherNonzero : other ≠ 0 := abs_pos.mp (positive.trans_le ordered)
    rw [lastBit, if_neg otherNonzero]
    exact max_le_max_left _ (sub_le_sub_right (Int.log_mono_right positive ordered) 52)

/-- Two powers of two, the lower one times a whole number. -/
theorem exists_mul_zpow {low high : Int} (ordered : low ≤ high) :
    ∃ units : Int, (2 : ℚ) ^ high = units * 2 ^ low := by
  refine ⟨2 ^ (high - low).toNat, ?_⟩
  push_cast
  rw [← zpow_natCast, Int.toNat_of_nonneg (sub_nonneg.mpr ordered), ← zpow_add₀ two_ne_zero,
    sub_add_cancel]

/-- A number has fewer than `2 ^ 53` units of its last bit. -/
theorem abs_lt_spacing (number : ℚ) : |number| < 2 ^ 53 * spacing number := by
  by_cases zero : number = 0
  · rw [zero, abs_zero]
    exact mul_pos (by norm_num) (spacing_pos 0)
  · have below : |number| < 2 ^ (Int.log 2 |number| + 1) := Int.lt_zpow_succ_log_self one_lt_two _
    have scaled : (2 : ℚ) ^ 53 * spacing number = 2 ^ (lastBit number + 53) := by
      rw [spacing, zpow_add₀ two_ne_zero, mul_comm]
      rfl
    rw [scaled]
    apply below.trans_le (zpow_le_zpow_right₀ one_le_two _)
    rw [lastBit, if_neg zero]
    omega

/-- Above the smallest spacing it has at least `2 ^ 52` of them. -/
theorem spacing_le_abs (above : -1074 < lastBit number) : 2 ^ 52 * spacing number ≤ |number| := by
  have nonzero : number ≠ 0 := by
    intro zero
    rw [lastBit, if_pos zero] at above
    exact absurd above (lt_irrefl _)
  rw [lastBit, if_neg nonzero, lt_max_iff, or_iff_right (lt_irrefl _)] at above
  have scaled : (2 : ℚ) ^ 52 * spacing number = 2 ^ Int.log 2 |number| := by
    rw [spacing, lastBit, if_neg nonzero, max_eq_right above.le, zpow_sub₀ two_ne_zero]
    exact mul_div_cancel₀ _ (pow_ne_zero 52 two_ne_zero)
  rw [scaled]
  exact Int.zpow_log_le_self one_lt_two (abs_pos.mpr nonzero)

end Spacing

/-! ## Doubles -/

section Doubles

variable {number other : ℚ}

/-- A number is a double if the unit that divides it is not below its last bit. -/
theorem isDouble_of_lastBit_le {units exponent : Int} (coarse : lastBit number ≤ exponent)
    (same : number = units * 2 ^ exponent) : IsDouble number := by
  obtain ⟨factor, scaled⟩ := exists_mul_zpow coarse
  refine ⟨units * factor, ?_⟩
  rw [Int.cast_mul, mul_assoc, spacing, ← scaled]
  exact same

theorem isDouble_of_lt {units exponent : Int} (small : |units| < 2 ^ 53)
    (least : -1074 ≤ exponent) : IsDouble (units * 2 ^ exponent) := by
  apply isDouble_of_lastBit_le _ rfl
  rw [lastBit]
  split
  next => exact least
  next nonzero =>
    apply max_le least
    rw [sub_le_iff_le_add, ← Int.lt_add_one_iff,
      ← Int.lt_zpow_iff_log_lt one_lt_two (abs_pos.mpr nonzero), abs_mul,
      abs_of_pos (zpow_pos two_pos exponent : (0 : ℚ) < _)]
    have bound : (|(units : ℚ)|) < 2 ^ 53 := by exact_mod_cast small
    calc |(units : ℚ)| * 2 ^ exponent
        < 2 ^ 53 * 2 ^ exponent := mul_lt_mul_of_pos_right bound (zpow_pos two_pos exponent)
      _ = 2 ^ (exponent + 52 + 1) := by
          rw [add_assoc, add_comm, zpow_add₀ two_ne_zero]
          rfl

/-- At most `2 ^ 53` units of a bit are a double. -/
theorem isDouble_of_le {units exponent : Int} (small : |units| ≤ 2 ^ 53)
    (least : -1074 ≤ exponent) : IsDouble (units * 2 ^ exponent) := by
  rcases small.lt_or_eq with below | top
  · exact isDouble_of_lt below least
  · obtain ⟨half, below, rfl⟩ : ∃ half : Int, |half| < 2 ^ 53 ∧ units = half * 2 := by
      rcases eq_or_eq_neg_of_abs_eq top with rfl | rfl
      · exact ⟨2 ^ 52, by decide, by decide⟩
      · exact ⟨-2 ^ 52, by decide, by decide⟩
    have scaled : ((half * 2 : Int) : ℚ) * 2 ^ exponent = half * 2 ^ (exponent + 1) := by
      rw [zpow_add_one₀ two_ne_zero, Int.cast_mul, mul_assoc, mul_comm (2 ^ exponent)]
      rfl
    rw [scaled]
    exact isDouble_of_lt below (by omega)

theorem isDouble_intCast {units : Int} (small : |units| ≤ 2 ^ 53) : IsDouble units := by
  have unscaled := isDouble_of_le small (by norm_num : (-1074 : Int) ≤ 0)
  rwa [zpow_zero, mul_one] at unscaled

theorem isDouble_zero : IsDouble 0 := ⟨0, by simp⟩

theorem IsDouble.neg (isDouble : IsDouble number) : IsDouble (-number) := by
  obtain ⟨units, same⟩ := isDouble
  refine ⟨-units, ?_⟩
  rw [Int.cast_neg, neg_mul, spacing_neg, ← same]

end Doubles

/-! ## Rounding -/

section Nearest

variable {number other double : ℚ}

theorem nearest_isDouble (number : ℚ) : IsDouble (nearest number) := by
  apply isDouble_of_le _ (le_lastBit number)
  have positive := spacing_pos number
  have scaled : |number / spacing number| ≤ ((2 ^ 53 : Int) : ℚ) := by
    rw [abs_div, abs_of_pos positive, div_le_iff₀ positive]
    exact (abs_lt_spacing number).le
  rw [abs_le] at scaled
  rw [abs_le, ← roundHalfEven_intCast (2 ^ 53), ← roundHalfEven_intCast (-_)]
  constructor
  · apply roundHalfEven_mono
    rw [roundHalfEven_intCast, Int.cast_neg]
    exact scaled.1
  · exact roundHalfEven_mono scaled.2

theorem IsDouble.nearest_eq (isDouble : IsDouble number) : nearest number = number := by
  obtain ⟨units, same⟩ := isDouble
  have quotient : number / spacing number = units :=
    (div_eq_iff (spacing_pos number).ne').mpr same
  rw [nearest, quotient, roundHalfEven_intCast, ← same]

theorem nearest_neg (number : ℚ) : nearest (-number) = -nearest number := by
  rw [nearest, nearest, spacing_neg, neg_div, roundHalfEven_neg, Int.cast_neg, neg_mul]

@[simp] theorem nearest_zero : nearest 0 = 0 := isDouble_zero.nearest_eq

theorem nearest_mono_of_nonneg (nonneg : 0 ≤ number) (ordered : number ≤ other) :
    nearest number ≤ nearest other := by
  have magnitudes : |number| ≤ |other| := by
    rwa [abs_of_nonneg nonneg, abs_of_nonneg (nonneg.trans ordered)]
  rcases (lastBit_mono magnitudes).eq_or_lt with same | below
  · have spacings : spacing number = spacing other := by rw [spacing, spacing, same]
    rw [nearest, nearest, spacings]
    have quotients := div_le_div_of_nonneg_right ordered (spacing_pos other).le
    exact mul_le_mul_of_nonneg_right (Int.cast_le.mpr (roundHalfEven_mono quotients))
      (spacing_pos other).le
  · -- The binades differ, and the power of two between them is a double of both.
    have low : number ≤ 2 ^ 52 * spacing other := by
      have bound := abs_lt_spacing number
      rw [abs_of_nonneg nonneg] at bound
      apply bound.le.trans
      have spacings : 2 * spacing number ≤ spacing other := by
        rw [spacing, ← zpow_one_add₀ two_ne_zero]
        exact zpow_le_zpow_right₀ one_le_two (by omega)
      linarith
    have high : 2 ^ 52 * spacing other ≤ other := by
      have bound := spacing_le_abs ((le_lastBit number).trans_lt below)
      rwa [abs_of_nonneg (nonneg.trans ordered)] at bound
    obtain ⟨units, scaled⟩ := exists_mul_zpow below.le
    calc nearest number
        ≤ 2 ^ 52 * spacing other := by
          have quotient : number / spacing number ≤ ((2 ^ 52 * units : Int) : ℚ) := by
            rw [div_le_iff₀ (spacing_pos number)]
            push_cast
            rw [mul_assoc, spacing, ← scaled]
            exact low
          have rounded := Int.cast_le (R := ℚ).mpr (roundHalfEven_mono quotient)
          rw [roundHalfEven_intCast] at rounded
          have scaledUp := mul_le_mul_of_nonneg_right rounded (spacing_pos number).le
          rw [Int.cast_mul, mul_assoc, spacing, ← scaled] at scaledUp
          exact_mod_cast scaledUp
      _ ≤ nearest other := by
          have quotient : ((2 ^ 52 : Int) : ℚ) ≤ other / spacing other := by
            rw [le_div_iff₀ (spacing_pos other)]
            push_cast
            exact high
          have rounded := Int.cast_le (R := ℚ).mpr (roundHalfEven_mono quotient)
          rw [roundHalfEven_intCast] at rounded
          exact_mod_cast mul_le_mul_of_nonneg_right rounded (spacing_pos other).le

theorem nearest_nonneg (nonneg : 0 ≤ number) : 0 ≤ nearest number :=
  nearest_zero.symm.trans_le (nearest_mono_of_nonneg le_rfl nonneg)

theorem nearest_mono : Monotone nearest := by
  intro less more ordered
  rcases le_total 0 less with nonneg | nonpos
  · exact nearest_mono_of_nonneg nonneg ordered
  · rcases le_total 0 more with positive | negative
    · have below := nearest_nonneg (neg_nonneg.mpr nonpos)
      rw [nearest_neg] at below
      exact (neg_nonneg.mp below).trans (nearest_nonneg positive)
    · have swapped := nearest_mono_of_nonneg (neg_nonneg.mpr negative) (neg_le_neg ordered)
      rw [nearest_neg, nearest_neg] at swapped
      exact neg_le_neg_iff.mp swapped

/-- A double above a number is above its rounding. -/
theorem IsDouble.nearest_le (isDouble : IsDouble double) (above : number ≤ double) :
    nearest number ≤ double :=
  (nearest_mono above).trans_eq isDouble.nearest_eq

theorem IsDouble.le_nearest (isDouble : IsDouble double) (below : double ≤ number) :
    double ≤ nearest number :=
  isDouble.nearest_eq.symm.trans_le (nearest_mono below)

end Nearest

/-! ## Errors -/

/-- A whole number of the least spacings, which is the one at zero. -/
def IsGrid (number : ℚ) : Prop := ∃ units : Int, number = units * spacing 0

section Errors

variable {number other : ℚ}

theorem IsDouble.isGrid (isDouble : IsDouble number) : IsGrid number := by
  obtain ⟨units, same⟩ := isDouble
  obtain ⟨factor, scaled⟩ := exists_mul_zpow (le_lastBit number)
  have spacings : spacing number = factor * spacing 0 := scaled
  exact ⟨units * factor, by rw [Int.cast_mul, mul_assoc, ← spacings, ← same]⟩

theorem IsGrid.add (left : IsGrid number) (right : IsGrid other) : IsGrid (number + other) := by
  obtain ⟨units, rfl⟩ := left
  obtain ⟨others, rfl⟩ := right
  exact ⟨units + others, by rw [Int.cast_add, add_mul]⟩

theorem IsGrid.sub (left : IsGrid number) (right : IsGrid other) : IsGrid (number - other) := by
  obtain ⟨units, rfl⟩ := left
  obtain ⟨others, rfl⟩ := right
  exact ⟨units - others, by rw [Int.cast_sub, sub_mul]⟩

theorem IsGrid.intCast_mul (isGrid : IsGrid number) (factor : Int) : IsGrid (factor * number) := by
  obtain ⟨units, rfl⟩ := isGrid
  exact ⟨factor * units, by rw [Int.cast_mul, mul_assoc]⟩

theorem isGrid_intCast (units : Int) : IsGrid units := by
  have one := (isDouble_intCast (by decide : |(1 : Int)| ≤ 2 ^ 53)).isGrid.intCast_mul units
  rwa [Int.cast_one, mul_one] at one

theorem abs_nearest_sub_le (number : ℚ) : |nearest number - number| ≤ spacing number / 2 := by
  have positive := spacing_pos number
  have scaled : nearest number - number =
      (roundHalfEven (number / spacing number) - number / spacing number) * spacing number := by
    rw [sub_mul, div_mul_cancel₀ _ positive.ne', nearest]
  rw [scaled, abs_mul, abs_of_pos positive]
  have bound := mul_le_mul_of_nonneg_right
    (abs_roundHalfEven_sub_le (number / spacing number)) positive.le
  linarith

/-- Rounding moves a number on the grid by a small part of itself. -/
theorem IsGrid.abs_nearest_sub_le (isGrid : IsGrid number) :
    |nearest number - number| ≤ unitRoundoff * |number| := by
  rcases (le_lastBit number).eq_or_lt with least | above
  · obtain ⟨units, same⟩ := isGrid
    have isDouble : IsDouble number := isDouble_of_lastBit_le least.ge same
    rw [isDouble.nearest_eq, sub_self, abs_zero]
    exact mul_nonneg (by norm_num [unitRoundoff]) (abs_nonneg number)
  · have bound := spacing_le_abs above
    apply (Binary64.abs_nearest_sub_le number).trans
    rw [unitRoundoff]
    linarith

end Errors

/-! ## Range -/

/-- From here on a number is nearer to `2 ^ 1024` than to the greatest double. -/
def limit : ℚ := 2 ^ 1024 - 2 ^ 970

theorem limit_eq : limit = (2 ^ 54 - 1) * 2 ^ 970 := by
  rw [limit, sub_mul, one_mul, ← pow_add]

theorem lastBit_le_of_lt_limit {number : ℚ} (below : |number| < limit) : lastBit number ≤ 971 := by
  rw [lastBit]
  split
  next => decide
  next nonzero =>
    have small : |number| < 2 ^ (1024 : Int) :=
      below.trans (sub_lt_self _ (pow_pos two_pos 970))
    have log := (Int.lt_zpow_iff_log_lt one_lt_two (abs_pos.mpr nonzero)).mp small
    omega

theorem nearest_lt_limit {number : ℚ} (nonneg : 0 ≤ number) (below : number < limit) :
    nearest number < limit := by
  have positive : (0 : ℚ) < 2 ^ 970 := pow_pos two_pos 970
  have exponent := lastBit_le_of_lt_limit ((abs_of_nonneg nonneg).trans_lt below)
  rw [limit_eq] at below ⊢
  rcases exponent.eq_or_lt with top | lower
  · have step : spacing number = 2 * 2 ^ 970 := by rw [spacing, top, ← pow_succ']; rfl
    have kept : roundHalfEven (number / spacing number) ≤ 2 ^ 53 - 1 := by
      rw [Int.le_sub_one_iff, ← not_le, le_roundHalfEven_iff, step, not_or, not_and_or]
      have quotient : number / (2 * 2 ^ 970) < 2 ^ 53 - 1 / 2 := by
        rw [div_lt_iff₀ (mul_pos two_pos positive)]
        generalize (2 : ℚ) ^ 970 = unit at below
        linarith
      push_cast
      exact ⟨quotient.le.not_gt, .inl quotient.ne'⟩
    have scaled := mul_le_mul_of_nonneg_right (Int.cast_le (R := ℚ).mpr kept)
      (spacing_pos number).le
    rw [nearest]
    apply scaled.trans_lt
    rw [step]
    generalize (2 : ℚ) ^ 970 = unit at positive
    push_cast
    linarith
  · have small := abs_lt_spacing number
    rw [abs_of_nonneg nonneg] at small
    have step : spacing number ≤ 2 ^ 970 :=
      zpow_le_zpow_right₀ one_le_two (show lastBit number ≤ 970 by omega)
    have isDouble : IsDouble (2 ^ 53 * 2 ^ 970) := by
      have scaled := isDouble_of_le (le_refl |(2 ^ 53 : Int)|) (by decide : (-1074 : Int) ≤ 970)
      rwa [Int.cast_pow] at scaled
    have bound := isDouble.nearest_le
      (small.le.trans (mul_le_mul_of_nonneg_left step (pow_nonneg zero_le_two 53)))
    generalize (2 : ℚ) ^ 970 = unit at positive bound
    linarith

theorem abs_nearest_lt_limit {number : ℚ} (below : |number| < limit) :
    |nearest number| < limit := by
  rcases abs_cases number with ⟨same, nonneg⟩ | ⟨same, negative⟩
  · rw [same] at below
    rw [abs_of_nonneg (nearest_nonneg nonneg)]
    exact nearest_lt_limit nonneg below
  · rw [same] at below
    rw [← abs_neg, ← nearest_neg, abs_of_nonneg (nearest_nonneg (neg_nonneg.mpr negative.le))]
    exact nearest_lt_limit (neg_nonneg.mpr negative.le) below

/-! ## Compensation -/

/-- What a rounded sum loses, computed from the larger summand on. -/
def lost (left right : ℚ) : ℚ :=
  let sum := nearest (left + right)
  if |right| ≤ |left| then
    nearest (nearest (left - sum) + right)
  else
    nearest (nearest (right - sum) + left)

section Compensation

variable {large small left right compensation : ℚ}

theorem IsDouble.two_mul (isDouble : IsDouble large) : IsDouble (2 * large) := by
  obtain ⟨units, same⟩ := isDouble
  have size : |(units : ℚ)| < 2 ^ 53 := by
    have bound := abs_lt_spacing large
    rw [same, abs_mul, ← same, abs_of_pos (spacing_pos large)] at bound
    exact lt_of_mul_lt_mul_right bound (spacing_pos large).le
  have doubled := isDouble_of_lt (by exact_mod_cast size : |units| < 2 ^ 53)
    ((le_lastBit large).trans (Int.le_add_one le_rfl))
  rw [zpow_add_one₀ two_ne_zero, mul_comm _ (2 : ℚ), mul_left_comm] at doubled
  rw [same]
  exact doubled

/-- Two doubles of which the one is at most twice the other have an exact difference. -/
theorem IsDouble.sub_of_le (isDouble : IsDouble small) (other : IsDouble large)
    (nonneg : 0 ≤ small) (ordered : small ≤ large) (near : large ≤ 2 * small) :
    IsDouble (large - small) := by
  have magnitudes : |small| ≤ |large| := by
    rwa [abs_of_nonneg nonneg, abs_of_nonneg (nonneg.trans ordered)]
  obtain ⟨units, same⟩ := isDouble
  obtain ⟨others, sameOther⟩ := other
  obtain ⟨factor, scaled⟩ := exists_mul_zpow (lastBit_mono magnitudes)
  have fine : lastBit (large - small) ≤ lastBit small := by
    apply lastBit_mono
    rw [abs_of_nonneg (sub_nonneg.mpr ordered), abs_of_nonneg nonneg]
    linarith
  apply @isDouble_of_lastBit_le _ (others * factor - units) _ fine
  nth_rewrite 1 [same, sameOther]
  rw [spacing, scaled, spacing]
  push_cast
  ring

/-- From the larger summand on, only the loss itself is rounded. -/
theorem nearest_sub_add (isLarge : IsDouble large) (ordered : small ≤ large)
    (nonneg : 0 ≤ small) : nearest (large - nearest (large + small)) + small =
      large + small - nearest (large + small) := by
  have above : large ≤ nearest (large + small) :=
    isLarge.le_nearest (le_add_of_nonneg_right nonneg)
  have near : nearest (large + small) ≤ 2 * large := isLarge.two_mul.nearest_le (by linarith)
  have difference := isLarge.sub_of_le (nearest_isDouble _) (nonneg.trans ordered) above near
  rw [← neg_sub, nearest_neg, difference.nearest_eq]
  ring

theorem lost_eq (isLeft : IsDouble left) (isRight : IsDouble right) (leftNonneg : 0 ≤ left)
    (rightNonneg : 0 ≤ right) :
    lost left right = nearest (left + right - nearest (left + right)) := by
  simp only [lost, abs_of_nonneg leftNonneg, abs_of_nonneg rightNonneg]
  split
  next ordered => rw [nearest_sub_add isLeft ordered rightNonneg]
  next ordered =>
    rw [add_comm left, nearest_sub_add isRight (le_of_not_ge ordered) leftNonneg]

section Step

variable (isLeft : IsDouble left) (isRight : IsDouble right) (leftNonneg : 0 ≤ left)
  (rightNonneg : 0 ≤ right)

include isLeft isRight leftNonneg rightNonneg

/-- The loss is at most the smaller summand, and it takes away at most what the sum has more
than the larger one. -/
theorem lost_bounds :
    max left right - nearest (left + right) ≤ lost left right ∧
      lost left right ≤ min left right := by
  have aboveLeft : left ≤ nearest (left + right) :=
    isLeft.le_nearest (le_add_of_nonneg_right rightNonneg)
  have aboveRight : right ≤ nearest (left + right) :=
    isRight.le_nearest (le_add_of_nonneg_left leftNonneg)
  have isSum : IsDouble (nearest (left + right)) := nearest_isDouble _
  rw [lost_eq isLeft isRight leftNonneg rightNonneg]
  rcases le_total right left with ordered | ordered
  · rw [max_eq_left ordered, min_eq_right ordered]
    have near : nearest (left + right) ≤ 2 * left := isLeft.two_mul.nearest_le (by linarith)
    have difference := isLeft.sub_of_le isSum leftNonneg aboveLeft near
    constructor
    · apply IsDouble.le_nearest
      · rw [← neg_sub]
        exact difference.neg
      · linarith
    · exact isRight.nearest_le (by linarith)
  · rw [max_eq_right ordered, min_eq_left ordered]
    have near : nearest (left + right) ≤ 2 * right := isRight.two_mul.nearest_le (by linarith)
    have difference := isRight.sub_of_le isSum rightNonneg aboveRight near
    constructor
    · apply IsDouble.le_nearest
      · rw [← neg_sub]
        exact difference.neg
      · linarith
    · exact isLeft.nearest_le (by linarith)

variable (within : |compensation| ≤ left)

include within

theorem add_lost_bounds :
    -nearest (left + right) ≤ compensation + lost left right ∧
      compensation + lost left right ≤ left + right := by
  obtain ⟨low, high⟩ := lost_bounds isLeft isRight leftNonneg rightNonneg
  have top := le_max_left left right
  have bottom := min_le_right left right
  rw [abs_le] at within
  constructor <;> linarith

/-- A compensation stays below the sum that it belongs to. -/
theorem abs_compensation_le :
    |nearest (compensation + lost left right)| ≤ nearest (left + right) := by
  obtain ⟨low, high⟩ := add_lost_bounds isLeft isRight leftNonneg rightNonneg within
  rw [abs_le]
  constructor
  · exact (nearest_isDouble _).neg.le_nearest low
  · exact nearest_mono high

/-- What a step of a compensated sum adds to its error. -/
theorem compensated_error (isCompensation : IsDouble compensation) :
    |nearest (left + right) + nearest (compensation + lost left right) -
        (left + compensation + right)| ≤
      (unitRoundoff + 2 * unitRoundoff ^ 2) * (left + right) := by
  obtain ⟨low, high⟩ := add_lost_bounds isLeft isRight leftNonneg rightNonneg within
  have lossEq := lost_eq isLeft isRight leftNonneg rightNonneg
  have sumGrid : IsGrid (left + right) := isLeft.isGrid.add isRight.isGrid
  have sumError := sumGrid.abs_nearest_sub_le
  have lossError := (sumGrid.sub (nearest_isDouble (left + right)).isGrid).abs_nearest_sub_le
  have lostGrid : IsGrid (lost left right) := lossEq ▸ (nearest_isDouble _).isGrid
  have nextError := (isCompensation.isGrid.add lostGrid).abs_nearest_sub_le
  have roundoff : 0 ≤ unitRoundoff := by norm_num [unitRoundoff]
  rw [← lossEq] at lossError
  rw [abs_of_nonneg (add_nonneg leftNonneg rightNonneg)] at sumError
  have size : |compensation + lost left right| ≤ (1 + unitRoundoff) * (left + right) := by
    have scaled := mul_nonneg roundoff (add_nonneg leftNonneg rightNonneg)
    rw [abs_le] at sumError ⊢
    constructor <;> linarith
  have scaledSize := mul_le_mul_of_nonneg_left size roundoff
  rw [abs_sub_comm] at sumError
  have scaledError := mul_le_mul_of_nonneg_left sumError roundoff
  rw [abs_le] at nextError lossError ⊢
  constructor <;> linarith

end Step

end Compensation

end Binary64

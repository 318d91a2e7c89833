import SmartBandwidth.Lib.RoundedFloat
import Mathlib.Algebra.Order.BigOperators.Group.List

/-!
# Sums of a dynamic language

`sum` adds integers exactly and rounds after every addition of floats.  From Python 3.12 on it
also keeps what additions of floats lose, and adds it at the end.  Either way a sum of numbers
that are not negative is off by a small part of itself, which grows with their count.
-/

namespace PyNumber

open Binary64

/-- Conversion to a float, rounded. -/
def toFloatRounded : PyNumber → Except PyFault PyFloat
  | .int value => PyFloat.ofIntRounded value
  | .float value => .ok value

/-- `+`: exact on integers, rounded on floats. -/
def addRounded : PyNumber → PyNumber → Except PyFault PyNumber
  | .int left, .int right => .ok (.int (left + right))
  | left, right => do
      let left ← left.toFloatRounded
      let right ← right.toFloatRounded
      return .float (left.addRounded right)

/-- `round` to a number of decimal digits, rounded. -/
def roundRounded (digits : Nat) : PyNumber → PyNumber
  | .int value => .int value
  | .float value => .float (value.roundRounded digits)

/-- Left to right, from a running total on. -/
def runningSum (total : PyNumber) : List PyNumber → Except PyFault PyNumber
  | [] => .ok total
  | number :: rest => do
      let total ← total.addRounded number
      runningSum total rest

/-- The integers of the C type `long`. -/
def FitsLong (value : Int) : Prop := -2 ^ 63 ≤ value ∧ value < 2 ^ 63

instance (value : Int) : Decidable (FitsLong value) :=
  inferInstanceAs (Decidable (_ ∧ _))

/-- From a float on, with a compensation for what additions of floats lose; a long integer
ends it. -/
def compensatedSum (total compensation : PyFloat) : List PyNumber → Except PyFault PyNumber
  | [] => .ok (.float (total.settle compensation))
  | .float value :: rest =>
      compensatedSum (total.addRounded value) (compensation.addRounded (total.lost value)) rest
  | .int value :: rest => do
      let converted ← PyFloat.ofIntRounded value
      if FitsLong value then
        compensatedSum (total.addRounded converted) compensation rest
      else
        runningSum (.float ((total.settle compensation).addRounded converted)) rest

/-- From an integer on; the first float starts a compensated sum. -/
def compensatedFrom (total : Int) : List PyNumber → Except PyFault PyNumber
  | [] => .ok (.int total)
  | .int value :: rest =>
      if FitsLong value ∧ FitsLong (total + value) then
        compensatedFrom (total + value) rest
      else
        runningSum (.int (total + value)) rest
  | .float value :: rest => do
      let converted ← PyFloat.ofIntRounded total
      compensatedSum (converted.addRounded value) (.finite 0) rest

end PyNumber

/-- How `sum` adds: before Python 3.12, and from there on. -/
inductive PySum where
  | running
  | compensated
  deriving DecidableEq, Repr

/-- `sum`. -/
def PySum.sum : PySum → List PyNumber → Except PyFault PyNumber
  | .running => PyNumber.runningSum (.int 0)
  | .compensated => PyNumber.compensatedFrom 0

namespace PyNumber

open Binary64

/-! ## Accuracy -/

/-- The number is an integer, or a value that floats can have. -/
def IsStored : PyNumber → Prop
  | .int _ => True
  | .float value => value.IsFloat

instance (number : PyNumber) : Decidable number.IsStored :=
  match number with
  | .int _ => isTrue trivial
  | .float value => inferInstanceAs (Decidable value.IsFloat)

/-- The number stands for a rational that is not negative. -/
structure Amount (number : PyNumber) (value : ℚ) : Prop where
  is : number.Is value
  stored : number.IsStored
  nonneg : 0 ≤ value

/-- A total and its compensation are within a growth factor of an exact sum. -/
structure Tracks (growth exact total compensation : ℚ) : Prop where
  large : 1 ≤ growth
  isTotal : IsDouble total
  isCompensation : IsDouble compensation
  within : |compensation| ≤ total
  bounded : total ≤ growth * exact
  near : |total + compensation - exact| ≤ (growth - 1) * exact

/-- A number is within a growth factor of an exact value. -/
structure Near (growth exact : ℚ) (number : PyNumber) (value : ℚ) : Prop where
  amount : number.Amount value
  near : |value - exact| ≤ (growth - 1) * exact

/-- The growth of an addition. -/
def stepGrowth : ℚ := (1 + unitRoundoff) ^ 2

theorem unitRoundoff_nonneg : 0 ≤ unitRoundoff := by norm_num [unitRoundoff]

theorem one_le_stepGrowth : 1 ≤ stepGrowth := by norm_num [stepGrowth, unitRoundoff]

theorem tracks_zero : Tracks 1 0 0 0 where
  large := le_rfl
  isTotal := isDouble_zero
  isCompensation := isDouble_zero
  within := by simp
  bounded := by simp
  near := by simp

namespace Tracks

variable {growth exact total compensation value : ℚ}

theorem total_nonneg (tracks : Tracks growth exact total compensation) : 0 ≤ total :=
  (abs_nonneg compensation).trans tracks.within

theorem exact_nonneg (tracks : Tracks growth exact total compensation) : 0 ≤ exact :=
  nonneg_of_mul_nonneg_right (tracks.total_nonneg.trans tracks.bounded)
    (zero_lt_one.trans_le tracks.large)

/-- An addition of floats that keeps what it loses. -/
theorem add_compensated (tracks : Tracks growth exact total compensation)
    (isValue : IsDouble value) (nonneg : 0 ≤ value) :
    Tracks (growth * stepGrowth) (exact + value) (nearest (total + value))
      (nearest (compensation + Binary64.lost total value)) := by
  have totalNonneg := tracks.total_nonneg
  have sumError := (tracks.isTotal.isGrid.add isValue.isGrid).abs_nearest_sub_le
  have lossError := compensated_error tracks.isTotal isValue totalNonneg nonneg tracks.within
    tracks.isCompensation
  have roundoff := unitRoundoff_nonneg
  have small : unitRoundoff ≤ 1 := by norm_num [unitRoundoff]
  -- Everything is measured by the exact sum with the growth so far.
  obtain ⟨reach, reachEq⟩ : ∃ reach, reach = growth * (exact + value) := ⟨_, rfl⟩
  have valueGrowth := mul_le_mul_of_nonneg_right tracks.large nonneg
  have bounded := tracks.bounded
  have below : total + value ≤ reach := by
    rw [reachEq]
    linarith
  have positive : 0 ≤ total + value := add_nonneg totalNonneg nonneg
  have scaled := mul_le_mul_of_nonneg_left below roundoff
  have scaledTwice := mul_le_mul_of_nonneg_left scaled roundoff
  have shrinks := mul_le_mul_of_nonneg_right small
    (mul_nonneg roundoff (positive.trans below))
  have grown : growth * stepGrowth * (exact + value) =
      reach + 2 * (unitRoundoff * reach) + unitRoundoff * (unitRoundoff * reach) := by
    rw [reachEq, stepGrowth]
    ring
  have squares := mul_nonneg roundoff (mul_nonneg roundoff (positive.trans below))
  have once := mul_nonneg roundoff (positive.trans below)
  rw [abs_of_nonneg positive] at sumError
  have near := tracks.near
  rw [abs_le] at sumError lossError near
  exact {
    large := one_le_mul_of_one_le_of_one_le tracks.large one_le_stepGrowth
    isTotal := nearest_isDouble _
    isCompensation := nearest_isDouble _
    within := abs_compensation_le tracks.isTotal isValue totalNonneg nonneg tracks.within
    bounded := by
      rw [grown]
      linarith
    near := by
      rw [sub_mul, grown, abs_le]
      constructor <;> linarith }

/-- An addition of a number that may have to be rounded first. -/
theorem add (tracks : Tracks growth exact total compensation) (isGrid : IsGrid value)
    (nonneg : 0 ≤ value) :
    Tracks (growth * stepGrowth) (exact + value) (nearest (total + nearest value))
      compensation := by
  have totalNonneg := tracks.total_nonneg
  have converted := isGrid.abs_nearest_sub_le
  have convertedNonneg : 0 ≤ nearest value := nearest_nonneg nonneg
  have sumNonneg : 0 ≤ total + nearest value := add_nonneg totalNonneg convertedNonneg
  have sumError := (tracks.isTotal.isGrid.add (nearest_isDouble value).isGrid).abs_nearest_sub_le
  have roundoff := unitRoundoff_nonneg
  obtain ⟨before, beforeEq⟩ : ∃ before, before = growth * exact := ⟨_, rfl⟩
  obtain ⟨share, shareEq⟩ : ∃ share, share = growth * value := ⟨_, rfl⟩
  have bounded := tracks.bounded
  rw [← beforeEq] at bounded
  have beforeNonneg : 0 ≤ before := totalNonneg.trans bounded
  have valueGrowth : value ≤ share := by
    rw [shareEq]
    exact le_mul_of_one_le_left nonneg tracks.large
  have scaledTotal := mul_le_mul_of_nonneg_left bounded roundoff
  have scaledValue := mul_le_mul_of_nonneg_left valueGrowth roundoff
  have scaledTwice := mul_le_mul_of_nonneg_left scaledValue roundoff
  have once := mul_nonneg roundoff beforeNonneg
  have twice := mul_nonneg roundoff once
  have grown : growth * stepGrowth * (exact + value) = before + share +
      2 * (unitRoundoff * before) + 2 * (unitRoundoff * share) +
      unitRoundoff * (unitRoundoff * before) + unitRoundoff * (unitRoundoff * share) := by
    rw [beforeEq, shareEq, stepGrowth]
    ring
  rw [abs_of_nonneg nonneg, abs_le] at converted
  rw [abs_of_nonneg sumNonneg, abs_le, mul_add] at sumError
  have convertedAbove : nearest value ≤ value + unitRoundoff * value := by linarith
  have scaledConverted := mul_le_mul_of_nonneg_left convertedAbove roundoff
  rw [mul_add] at scaledConverted
  have near := tracks.near
  rw [sub_mul, ← beforeEq, abs_le] at near
  exact {
    large := one_le_mul_of_one_le_of_one_le tracks.large one_le_stepGrowth
    isTotal := nearest_isDouble _
    isCompensation := tracks.isCompensation
    within := tracks.within.trans
      (tracks.isTotal.le_nearest (le_add_of_nonneg_right convertedNonneg))
    bounded := by
      rw [grown]
      linarith
    near := by
      rw [sub_mul, grown, abs_le]
      constructor <;> linarith }

/-- Rounding a number that is near an exact one. -/
theorem round (large : 1 ≤ growth) (isGrid : IsGrid value) (nonneg : 0 ≤ value)
    (near : |value - exact| ≤ (growth - 1) * exact) :
    Tracks (growth * (1 + unitRoundoff)) exact (nearest value) 0 := by
  have error := isGrid.abs_nearest_sub_le
  have roundoff := unitRoundoff_nonneg
  rw [sub_mul, abs_le] at near
  have below : value ≤ growth * exact := by linarith
  have scaled := mul_le_mul_of_nonneg_left below roundoff
  have grown : growth * (1 + unitRoundoff) * exact =
      growth * exact + unitRoundoff * (growth * exact) := by ring
  rw [abs_of_nonneg nonneg, abs_le] at error
  exact {
    large := one_le_mul_of_one_le_of_one_le large (by linarith)
    isTotal := nearest_isDouble _
    isCompensation := isDouble_zero
    within := by
      rw [abs_zero]
      exact nearest_nonneg nonneg
    bounded := by
      rw [grown]
      linarith
    near := by
      rw [add_zero, sub_mul, grown, abs_le]
      constructor <;> linarith }

/-- The compensation is added to the total. -/
theorem settle (tracks : Tracks growth exact total compensation) :
    Tracks (growth * (1 + unitRoundoff)) exact (nearest (total + compensation)) 0 := by
  have within := tracks.within
  rw [abs_le] at within
  have positive : 0 ≤ total + compensation := by linarith
  exact round tracks.large (tracks.isTotal.isGrid.add tracks.isCompensation.isGrid) positive
    tracks.near

/-- What is added stays within the growth. -/
theorem add_le (tracks : Tracks growth exact total compensation) (isGrid : IsGrid value)
    (nonneg : 0 ≤ value) :
    total + nearest value ≤ growth * stepGrowth * (exact + value) := by
  have converted := isGrid.abs_nearest_sub_le
  rw [abs_of_nonneg nonneg, abs_le] at converted
  have step : 1 + unitRoundoff ≤ stepGrowth := by norm_num [stepGrowth, unitRoundoff]
  have first := mul_le_mul_of_nonneg_right step nonneg
  have scaled := mul_nonneg (zero_le_one.trans one_le_stepGrowth) nonneg
  have second := mul_le_mul_of_nonneg_right tracks.large scaled
  have third := mul_le_mul_of_nonneg_right one_le_stepGrowth
    (tracks.total_nonneg.trans tracks.bounded)
  have bounded := tracks.bounded
  linarith

end Tracks

/-! ## Lists -/

/-- The sum of some values from an exact one on stays in the range, however it is rounded. -/
def Fits (growth exact : ℚ) (values : List ℚ) : Prop :=
  growth * stepGrowth ^ values.length * (exact + values.sum) < limit

theorem Fits.tail {growth exact value : ℚ} {values : List ℚ}
    (fits : Fits growth exact (value :: values)) :
    Fits (growth * stepGrowth) (exact + value) values := by
  rw [Fits, List.length_cons, List.sum_cons, ← add_assoc, pow_succ', ← mul_assoc] at fits
  exact fits

theorem Fits.reach {growth exact : ℚ} {values : List ℚ} (fits : Fits growth exact values)
    (growthNonneg : 0 ≤ growth) (exactNonneg : 0 ≤ exact)
    (each : ∀ value ∈ values, 0 ≤ value) : growth * exact < limit := by
  have power : 1 ≤ stepGrowth ^ values.length := one_le_pow₀ one_le_stepGrowth
  have grown := le_mul_of_one_le_right growthNonneg power
  exact (mul_le_mul grown (le_add_of_nonneg_right (List.sum_nonneg each)) exactNonneg
    (growthNonneg.trans grown)).trans_lt fits

theorem Fits.mono {growth more exact : ℚ} {values : List ℚ} (fits : Fits more exact values)
    (ordered : growth ≤ more) (exactNonneg : 0 ≤ exact) (each : ∀ value ∈ values, 0 ≤ value) :
    Fits growth exact values := by
  have power : 0 ≤ stepGrowth ^ values.length :=
    zero_le_one.trans (one_le_pow₀ one_le_stepGrowth)
  have sum := add_nonneg exactNonneg (List.sum_nonneg each)
  exact (mul_le_mul_of_nonneg_right (mul_le_mul_of_nonneg_right ordered power) sum).trans_lt fits

theorem Amount.kinds {number : PyNumber} {value : ℚ} (amount : number.Amount value) :
    (∃ units : Int, number = .int units ∧ value = units) ∨
      (number = .float (.finite value) ∧ IsDouble value) := by
  obtain ⟨is, stored, -⟩ := amount
  cases number with
  | int units => exact .inl ⟨units, rfl, (PyFloat.finite.inj is).symm⟩
  | float float =>
      cases is
      exact .inr ⟨rfl, (PyFloat.isFloat_finite_iff.mp stored).1⟩

theorem Amount.isGrid {number : PyNumber} {value : ℚ} (amount : number.Amount value) :
    IsGrid value := by
  rcases amount.kinds with ⟨units, -, rfl⟩ | ⟨-, isDouble⟩
  · exact isGrid_intCast units
  · exact isDouble.isGrid

/-- The conversion of an amount that is in the range. -/
theorem Amount.toFloatRounded {number : PyNumber} {value : ℚ} (amount : number.Amount value)
    (below : value < limit) :
    number.toFloatRounded = .ok (.finite (nearest value)) := by
  rcases amount.kinds with ⟨units, rfl, rfl⟩ | ⟨rfl, isDouble⟩
  · exact PyFloat.ofIntRounded_eq (by rwa [abs_of_nonneg amount.nonneg])
  · rw [isDouble.nearest_eq]
    rfl

theorem float_addRounded (left : PyFloat) (right : PyNumber) :
    (PyNumber.float left).addRounded right =
      right.toFloatRounded.map fun right => .float (left.addRounded right) := by
  cases right with
  | int right =>
      rw [addRounded, toFloatRounded, toFloatRounded]
      · cases PyFloat.ofIntRounded right <;> rfl
      · intro _ _ same
        cases same
  | float right => rfl

/-- A total that is in the range is near the exact sum. -/
theorem Tracks.near_float {growth exact total : ℚ} (tracks : Tracks growth exact total 0)
    (fits : growth * exact < limit) : Near growth exact (.float (.finite total)) total where
  amount := {
    is := rfl
    stored := PyFloat.isFloat_finite_iff.mpr
      ⟨tracks.isTotal, (abs_of_nonneg tracks.total_nonneg).trans_lt (tracks.bounded.trans_lt fits)⟩
    nonneg := tracks.total_nonneg }
  near := by
    have near := tracks.near
    rwa [add_zero] at near

theorem Near.mono {growth more exact value : ℚ} {number : PyNumber}
    (near : Near growth exact number value) (ordered : growth ≤ more) (nonneg : 0 ≤ exact) :
    Near more exact number value where
  amount := near.amount
  near := near.near.trans (mul_le_mul_of_nonneg_right (sub_le_sub_right ordered 1) nonneg)

theorem Near.le {growth exact value : ℚ} {number : PyNumber}
    (near : Near growth exact number value) : value ≤ growth * exact := by
  have close := near.near
  rw [sub_mul, one_mul, abs_le] at close
  linarith

section Lists

variable {α : Type} {items : List α} {number : α → PyNumber} {value : α → ℚ}
  {growth exact total compensation : ℚ}

theorem amounts_nonneg (each : ∀ item ∈ items, (number item).Amount (value item)) :
    ∀ amount ∈ items.map value, 0 ≤ amount := by
  rw [List.forall_mem_map]
  exact fun item member => (each item member).nonneg

/-- A step of a sum of amounts: the rounded sum is in the range. -/
theorem Tracks.step_lt (tracks : Tracks growth exact total compensation) {amount : PyNumber}
    {first : ℚ} {rest : List ℚ} (isAmount : amount.Amount first)
    (each : ∀ value ∈ rest, 0 ≤ value) (fits : Fits growth exact (first :: rest)) :
    first < limit ∧ total + nearest first < limit := by
  have next := tracks.add isAmount.isGrid isAmount.nonneg
  have reach := fits.tail.reach (zero_le_one.trans next.large) next.exact_nonneg each
  constructor
  · apply lt_of_le_of_lt _ reach
    have grown := le_mul_of_one_le_left next.exact_nonneg next.large
    exact (le_add_of_nonneg_left tracks.exact_nonneg).trans grown
  · exact (tracks.add_le isAmount.isGrid isAmount.nonneg).trans_lt reach

/-- From a float on, left to right. -/
theorem runningSum_near (tracks : Tracks growth exact total 0)
    (each : ∀ item ∈ items, (number item).Amount (value item))
    (fits : Fits growth exact (items.map value)) :
    ∃ result sum, runningSum (.float (.finite total)) (items.map number) = .ok result ∧
      Near (growth * stepGrowth ^ items.length) (exact + (items.map value).sum) result sum := by
  induction items generalizing growth exact total with
  | nil =>
      refine ⟨_, total, rfl, ?_⟩
      rw [List.map_nil, List.sum_nil, List.length_nil, pow_zero, mul_one, add_zero]
      exact tracks.near_float
        (fits.reach (zero_le_one.trans tracks.large) tracks.exact_nonneg (by simp))
  | cons item rest ih =>
      rw [List.forall_mem_cons] at each
      obtain ⟨amount, others⟩ := each
      obtain ⟨below, sumBelow⟩ := tracks.step_lt amount (amounts_nonneg others) fits
      have next := tracks.add amount.isGrid amount.nonneg
      have sumNonneg := add_nonneg tracks.total_nonneg (nearest_nonneg amount.nonneg)
      have adds : (PyNumber.float (.finite total)).addRounded (number item) =
          .ok (.float (.finite (nearest (total + nearest (value item))))) := by
        rw [float_addRounded, amount.toFloatRounded below, Except.map,
          PyFloat.addRounded_eq (by rwa [abs_of_nonneg sumNonneg])]
      obtain ⟨result, sum, sums, near⟩ := ih next others fits.tail
      refine ⟨result, sum, ?_, ?_⟩
      · rw [List.map_cons, runningSum, adds]
        exact sums
      · rw [List.map_cons, List.sum_cons, List.length_cons, pow_succ', ← mul_assoc, ← add_assoc]
        exact near

/-- The total and the compensation together. -/
theorem Tracks.settle_eq (tracks : Tracks growth exact total compensation)
    (fits : growth * exact < limit) :
    (PyFloat.finite total).settle (.finite compensation) =
      .finite (nearest (total + compensation)) := by
  have within := tracks.within
  have near := tracks.near
  rw [abs_le] at within
  rw [sub_mul, abs_le] at near
  have positive : 0 ≤ total + compensation := by linarith
  apply PyFloat.addRounded_eq
  rw [abs_of_nonneg positive]
  linarith

theorem half_le_stepGrowth : 1 + unitRoundoff ≤ stepGrowth := by
  norm_num [stepGrowth, unitRoundoff]

/-- Where one more addition would fit, settling fits. -/
theorem Tracks.settled_fits (tracks : Tracks growth exact total compensation) {values : List ℚ}
    (each : ∀ value ∈ values, 0 ≤ value) (fits : Fits (growth * stepGrowth) exact values) :
    (PyFloat.finite total).settle (.finite compensation) =
        .finite (nearest (total + compensation)) ∧
      Fits (growth * (1 + unitRoundoff)) exact values := by
  have growthNonneg : 0 ≤ growth := zero_le_one.trans tracks.large
  have half := mul_le_mul_of_nonneg_left half_le_stepGrowth growthNonneg
  have whole := fits.mono (le_mul_of_one_le_right growthNonneg one_le_stepGrowth)
    tracks.exact_nonneg each
  exact ⟨tracks.settle_eq (whole.reach growthNonneg tracks.exact_nonneg each),
    fits.mono half tracks.exact_nonneg each⟩

/-- Adding a float adds what is lost to the compensation. -/
theorem Tracks.addRounded_eq {first : ℚ} (tracks : Tracks growth exact total compensation)
    (isDouble : IsDouble first) (nonneg : 0 ≤ first) (below : total + first < limit) :
    (PyFloat.finite total).addRounded (.finite first) = .finite (nearest (total + first)) ∧
      (PyFloat.finite compensation).addRounded ((PyFloat.finite total).lost (.finite first)) =
        .finite (nearest (compensation + Binary64.lost total first)) := by
  have sumNonneg := add_nonneg tracks.total_nonneg nonneg
  constructor
  · exact PyFloat.addRounded_eq (by rwa [abs_of_nonneg sumNonneg])
  · rw [PyFloat.lost_finite tracks.isTotal isDouble tracks.total_nonneg nonneg below]
    apply PyFloat.addRounded_eq
    obtain ⟨low, high⟩ := add_lost_bounds tracks.isTotal isDouble tracks.total_nonneg nonneg
      tracks.within
    have top := nearest_lt_limit sumNonneg below
    rw [abs_lt]
    constructor <;> linarith

/-- Settling and adding a number; from there on the sum goes left to right. -/
theorem settledSum_near (tracks : Tracks growth exact total compensation) {amount : PyNumber}
    {first : ℚ} (isAmount : amount.Amount first)
    (each : ∀ item ∈ items, (number item).Amount (value item))
    (fits : Fits (growth * stepGrowth) exact (first :: items.map value)) :
    ∃ result sum, runningSum (.float (((PyFloat.finite total).settle
        (.finite compensation)).addRounded (.finite (nearest first)))) (items.map number) =
          .ok result ∧
      Near (growth * stepGrowth * stepGrowth ^ (items.length + 1))
        (exact + first + (items.map value).sum) result sum := by
  have nonneg := amounts_nonneg each
  obtain ⟨settles, settledFits⟩ := tracks.settled_fits
    (List.forall_mem_cons.mpr ⟨isAmount.nonneg, nonneg⟩) fits
  have settled := tracks.settle
  obtain ⟨_, below⟩ := settled.step_lt isAmount nonneg settledFits
  have sumNonneg := add_nonneg settled.total_nonneg (nearest_nonneg isAmount.nonneg)
  obtain ⟨result, sum, sums, near⟩ := runningSum_near
    (settled.add isAmount.isGrid isAmount.nonneg) each settledFits.tail
  rw [settles, PyFloat.addRounded_eq (by rwa [abs_of_nonneg sumNonneg])]
  refine ⟨result, sum, sums, near.mono ?_ ?_⟩
  · have growthNonneg : 0 ≤ growth := zero_le_one.trans tracks.large
    have base : 0 ≤ growth * stepGrowth :=
      mul_nonneg growthNonneg (zero_le_one.trans one_le_stepGrowth)
    have power : 0 ≤ stepGrowth ^ items.length :=
      zero_le_one.trans (one_le_pow₀ one_le_stepGrowth)
    rw [pow_succ', ← mul_assoc, mul_right_comm growth]
    exact mul_le_mul_of_nonneg_right (mul_le_mul_of_nonneg_left half_le_stepGrowth base) power
  · exact add_nonneg (add_nonneg tracks.exact_nonneg isAmount.nonneg) (List.sum_nonneg nonneg)

/-- From a float on, with a compensation. -/
theorem compensatedSum_near (tracks : Tracks growth exact total compensation)
    (each : ∀ item ∈ items, (number item).Amount (value item))
    (fits : Fits (growth * stepGrowth) exact (items.map value)) :
    ∃ result sum, compensatedSum (.finite total) (.finite compensation) (items.map number) =
        .ok result ∧
      Near (growth * stepGrowth ^ (items.length + 1)) (exact + (items.map value).sum) result
        sum := by
  induction items generalizing growth exact total compensation with
  | nil =>
      obtain ⟨settles, settledFits⟩ := tracks.settled_fits (amounts_nonneg each) fits
      have settled := tracks.settle
      have reach := settledFits.reach (zero_le_one.trans settled.large) tracks.exact_nonneg
        (by simp)
      have half := mul_le_mul_of_nonneg_left half_le_stepGrowth (zero_le_one.trans tracks.large)
      refine ⟨.float (.finite (nearest (total + compensation))),
        nearest (total + compensation), ?_, ?_⟩
      · rw [List.map_nil, compensatedSum, settles]
      · rw [List.map_nil, List.sum_nil, List.length_nil, zero_add, pow_one, add_zero]
        exact (settled.near_float reach).mono half tracks.exact_nonneg
  | cons item rest ih =>
      rw [List.forall_mem_cons] at each
      obtain ⟨amount, others⟩ := each
      have nonneg := amounts_nonneg others
      have nextFits : Fits (growth * stepGrowth * stepGrowth) (exact + value item)
          (rest.map value) := fits.tail
      have wider := le_mul_of_one_le_right (zero_le_one.trans tracks.large) one_le_stepGrowth
      obtain ⟨below, sumBelow⟩ := tracks.step_lt amount nonneg
        (fits.mono wider tracks.exact_nonneg (List.forall_mem_cons.mpr ⟨amount.nonneg, nonneg⟩))
      have regroup : growth * stepGrowth ^ ((item :: rest).length + 1) =
          growth * stepGrowth * stepGrowth ^ (rest.length + 1) := by
        rw [List.length_cons, pow_succ', mul_assoc]
      rw [List.map_cons, List.map_cons, List.sum_cons, ← add_assoc, regroup]
      rcases amount.kinds with ⟨units, isInt, isUnits⟩ | ⟨isFloat, isDouble⟩
      · have converts : PyFloat.ofIntRounded units = .ok (.finite (nearest (value item))) := by
          have converts := amount.toFloatRounded below
          rwa [isInt] at converts
        rw [isInt, compensatedSum, converts]
        simp only [bind, Except.bind]
        by_cases long : FitsLong units
        · have sumNonneg := add_nonneg tracks.total_nonneg (nearest_nonneg amount.nonneg)
          rw [if_pos long,
            PyFloat.addRounded_eq ((abs_of_nonneg sumNonneg).trans_lt sumBelow)]
          exact ih (tracks.add amount.isGrid amount.nonneg) others nextFits
        · rw [if_neg long]
          exact settledSum_near tracks amount others fits
      · rw [isDouble.nearest_eq] at sumBelow
        obtain ⟨adds, compensates⟩ := tracks.addRounded_eq isDouble amount.nonneg sumBelow
        rw [isFloat, compensatedSum, adds, compensates]
        exact ih (tracks.add_compensated isDouble amount.nonneg) others nextFits

/-- An integer is near itself. -/
theorem near_int {units : Int} (large : 1 ≤ growth) (nonneg : 0 ≤ units) :
    Near growth units (.int units) units where
  amount := {
    is := rfl
    stored := trivial
    nonneg := Int.cast_nonneg_iff.mpr nonneg }
  near := by
    rw [sub_self, abs_zero]
    exact mul_nonneg (sub_nonneg.mpr large) (Int.cast_nonneg_iff.mpr nonneg)

/-- An integer, converted to a float. -/
theorem tracks_int {units : Int} (nonneg : 0 ≤ units) :
    Tracks stepGrowth units (nearest units) 0 := by
  have tracks := tracks_zero.add (isGrid_intCast units) (Int.cast_nonneg_iff.mpr nonneg)
  rwa [one_mul, zero_add, zero_add, (nearest_isDouble _).nearest_eq] at tracks

/-- The first float after some integers. -/
theorem int_step (units : Int) (nonneg : 0 ≤ units) {first : ℚ} {rest : List ℚ}
    (isAmount : (float (.finite first)).Amount first) (each : ∀ value ∈ rest, 0 ≤ value)
    (fits : Fits stepGrowth units (first :: rest)) :
    PyFloat.ofIntRounded units = .ok (.finite (nearest units)) ∧
      (PyFloat.finite (nearest units)).addRounded (.finite first) =
        .finite (nearest (nearest units + nearest first)) := by
  have tracks := tracks_int nonneg
  have unitsNonneg : 0 ≤ (units : ℚ) := Int.cast_nonneg_iff.mpr nonneg
  have reach := fits.reach (zero_le_one.trans one_le_stepGrowth) unitsNonneg
    (List.forall_mem_cons.mpr ⟨isAmount.nonneg, each⟩)
  have below : (units : ℚ) < limit :=
    (le_mul_of_one_le_left unitsNonneg one_le_stepGrowth).trans_lt reach
  obtain ⟨_, sumBelow⟩ := tracks.step_lt isAmount each fits
  have sumNonneg := add_nonneg tracks.total_nonneg (nearest_nonneg isAmount.nonneg)
  have isDouble := (PyFloat.isFloat_finite_iff.mp isAmount.stored).1
  constructor
  · exact PyFloat.ofIntRounded_eq (by rwa [abs_of_nonneg unitsNonneg])
  · rw [isDouble.nearest_eq] at sumBelow sumNonneg ⊢
    exact PyFloat.addRounded_eq (by rwa [abs_of_nonneg sumNonneg])

/-- An integer after some integers. -/
theorem Fits.int_step {rest : List ℚ} {units more : Int}
    (fits : Fits growth units ((more : ℚ) :: rest)) (large : 1 ≤ growth) (nonneg : 0 ≤ units)
    (moreNonneg : 0 ≤ (more : ℚ))
    (each : ∀ value ∈ rest, 0 ≤ value) :
    0 ≤ units + more ∧ Fits growth (units + more : Int) rest := by
  have bothNonneg : 0 ≤ units + more := add_nonneg nonneg (Int.cast_nonneg_iff.mp moreNonneg)
  refine ⟨bothNonneg, ?_⟩
  have tail := fits.tail
  rw [← Int.cast_add] at tail
  exact tail.mono (le_mul_of_one_le_right (zero_le_one.trans large) one_le_stepGrowth)
    (Int.cast_nonneg_iff.mpr bothNonneg) each

/-- From an integer on, left to right. -/
theorem runningSum_int_near (units : Int) (nonneg : 0 ≤ units)
    (each : ∀ item ∈ items, (number item).Amount (value item))
    (fits : Fits stepGrowth units (items.map value)) :
    ∃ result sum, runningSum (.int units) (items.map number) = .ok result ∧
      Near (stepGrowth ^ (items.length + 1)) (units + (items.map value).sum) result sum := by
  induction items generalizing units with
  | nil =>
      refine ⟨.int units, units, rfl, ?_⟩
      rw [List.map_nil, List.sum_nil, add_zero]
      exact near_int (one_le_pow₀ one_le_stepGrowth) nonneg
  | cons item rest ih =>
      rw [List.forall_mem_cons] at each
      obtain ⟨amount, others⟩ := each
      have amountNonneg := amount.nonneg
      have unitsNonneg : 0 ≤ (units : ℚ) := Int.cast_nonneg_iff.mpr nonneg
      rw [List.map_cons, List.map_cons, List.sum_cons, ← add_assoc, List.length_cons]
      rcases amount.kinds with ⟨more, isInt, isUnits⟩ | ⟨isFloat, isDouble⟩
      · rw [isUnits] at amountNonneg
        rw [List.map_cons, isUnits] at fits
        obtain ⟨bothNonneg, tail⟩ := fits.int_step one_le_stepGrowth nonneg amountNonneg
          (amounts_nonneg others)
        have castNonneg : (0 : ℚ) ≤ (units + more : Int) := Int.cast_nonneg_iff.mpr bothNonneg
        have sumNonneg := add_nonneg castNonneg (List.sum_nonneg (amounts_nonneg others))
        obtain ⟨result, sum, sums, near⟩ := ih (units + more) bothNonneg others tail
        rw [isInt, isUnits, ← Int.cast_add]
        exact ⟨result, sum, sums,
          near.mono (pow_le_pow_right₀ one_le_stepGrowth (Nat.le_succ _)) sumNonneg⟩
      · rw [isFloat] at amount
        obtain ⟨converts, adds⟩ := int_step units nonneg amount (amounts_nonneg others) fits
        obtain ⟨result, sum, sums, near⟩ := runningSum_near
          ((tracks_int nonneg).add amount.isGrid amountNonneg) others fits.tail
        refine ⟨result, sum, ?_, ?_⟩
        · rw [isFloat, runningSum, addRounded]
          · simp only [toFloatRounded, converts, bind, Except.bind, pure, Except.pure, adds]
            exact sums
          · intro _ _ _ same
            cases same
        · rw [pow_succ', pow_succ', ← mul_assoc]
          exact near

/-- From an integer on, with a compensation after the first float. -/
theorem compensatedFrom_near (units : Int) (nonneg : 0 ≤ units)
    (each : ∀ item ∈ items, (number item).Amount (value item))
    (fits : Fits (stepGrowth * stepGrowth) units (items.map value)) :
    ∃ result sum, compensatedFrom units (items.map number) = .ok result ∧
      Near (stepGrowth ^ (items.length + 2)) (units + (items.map value).sum) result sum := by
  have stepNonneg : 0 ≤ stepGrowth := zero_le_one.trans one_le_stepGrowth
  induction items generalizing units with
  | nil =>
      refine ⟨.int units, units, rfl, ?_⟩
      rw [List.map_nil, List.sum_nil, add_zero]
      exact near_int (one_le_pow₀ one_le_stepGrowth) nonneg
  | cons item rest ih =>
      rw [List.forall_mem_cons] at each
      obtain ⟨amount, others⟩ := each
      have amountNonneg := amount.nonneg
      have othersNonneg := amounts_nonneg others
      have unitsNonneg : 0 ≤ (units : ℚ) := Int.cast_nonneg_iff.mpr nonneg
      rw [List.map_cons, List.map_cons, List.sum_cons, ← add_assoc, List.length_cons]
      rcases amount.kinds with ⟨more, isInt, isUnits⟩ | ⟨isFloat, isDouble⟩
      · rw [isUnits] at amountNonneg
        rw [List.map_cons, isUnits] at fits
        obtain ⟨bothNonneg, tail⟩ := fits.int_step
          (one_le_mul_of_one_le_of_one_le one_le_stepGrowth one_le_stepGrowth) nonneg amountNonneg
          othersNonneg
        have castNonneg : (0 : ℚ) ≤ (units + more : Int) := Int.cast_nonneg_iff.mpr bothNonneg
        have sumNonneg := add_nonneg castNonneg (List.sum_nonneg othersNonneg)
        rw [isInt, isUnits, ← Int.cast_add, compensatedFrom]
        by_cases long : FitsLong more ∧ FitsLong (units + more)
        · obtain ⟨result, sum, sums, near⟩ := ih (units + more) bothNonneg others tail
          rw [if_pos long]
          exact ⟨result, sum, sums,
            near.mono (pow_le_pow_right₀ one_le_stepGrowth (Nat.le_succ _)) sumNonneg⟩
        · have narrow := tail.mono (le_mul_of_one_le_right stepNonneg one_le_stepGrowth) castNonneg
            othersNonneg
          obtain ⟨result, sum, sums, near⟩ := runningSum_int_near (units + more) bothNonneg others
            narrow
          rw [if_neg long]
          exact ⟨result, sum, sums,
            near.mono (pow_le_pow_right₀ one_le_stepGrowth (by omega)) sumNonneg⟩
      · rw [isFloat] at amount
        have narrow := fits.mono (le_mul_of_one_le_right stepNonneg one_le_stepGrowth) unitsNonneg
          (List.forall_mem_cons.mpr ⟨amountNonneg, othersNonneg⟩)
        obtain ⟨converts, adds⟩ := int_step units nonneg amount othersNonneg narrow
        obtain ⟨result, sum, sums, near⟩ := compensatedSum_near
          ((tracks_int nonneg).add amount.isGrid amountNonneg) others fits.tail
        refine ⟨result, sum, ?_, ?_⟩
        · rw [isFloat, compensatedFrom, converts]
          simp only [bind, Except.bind, adds]
          exact sums
        · rw [pow_succ', pow_succ', ← mul_assoc]
          exact near

end Lists

end PyNumber

/-- By how much a sum of some numbers can grow. -/
def PySum.growth (count : Nat) : ℚ := PyNumber.stepGrowth ^ (count + 2)

theorem PySum.one_le_growth (count : Nat) : 1 ≤ PySum.growth count :=
  one_le_pow₀ PyNumber.one_le_stepGrowth

theorem PySum.growth_mono : Monotone PySum.growth := by
  intro fewer more ordered
  exact pow_le_pow_right₀ PyNumber.one_le_stepGrowth (Nat.add_le_add_right ordered 2)

theorem PySum.growth_succ (count : Nat) :
    PySum.growth count * PyNumber.stepGrowth = PySum.growth (count + 1) := by
  rw [PySum.growth, PySum.growth, ← pow_succ, Nat.add_right_comm]

theorem PySum.growth_mul_le (count : Nat) :
    PySum.growth count * (1 + Binary64.unitRoundoff) ≤ PySum.growth (count + 1) := by
  have scaled := mul_le_mul_of_nonneg_left PyNumber.half_le_stepGrowth
    (zero_le_one.trans (PySum.one_le_growth count))
  exact scaled.trans_eq (PySum.growth_succ count)

/-- A sum of numbers that are not negative is near the exact one, if that one is in the range. -/
theorem PySum.sum_near (python : PySum) {α : Type} {items : List α} {number : α → PyNumber}
    {value : α → ℚ} (each : ∀ item ∈ items, (number item).Amount (value item))
    (fits : PySum.growth items.length * (items.map value).sum < Binary64.limit) :
    ∃ result sum, python.sum (items.map number) = .ok result ∧
      PyNumber.Near (PySum.growth items.length) (items.map value).sum result sum := by
  have sumNonneg := List.sum_nonneg (PyNumber.amounts_nonneg each)
  have stepNonneg := zero_le_one.trans PyNumber.one_le_stepGrowth
  have wide : PyNumber.Fits (PyNumber.stepGrowth * PyNumber.stepGrowth) (0 : Int)
      (items.map value) := by
    rw [PyNumber.Fits, List.length_map, Int.cast_zero, zero_add]
    rw [PySum.growth, pow_succ', pow_succ', ← mul_assoc] at fits
    exact fits
  cases python with
  | running =>
      have narrow := wide.mono (le_mul_of_one_le_right stepNonneg PyNumber.one_le_stepGrowth)
        (by simp) (PyNumber.amounts_nonneg each)
      obtain ⟨result, sum, sums, near⟩ := PyNumber.runningSum_int_near 0 le_rfl each narrow
      refine ⟨result, sum, sums, ?_⟩
      rw [Int.cast_zero, zero_add] at near
      exact near.mono (pow_le_pow_right₀ PyNumber.one_le_stepGrowth (Nat.le_succ _)) sumNonneg
  | compensated =>
      obtain ⟨result, sum, sums, near⟩ := PyNumber.compensatedFrom_near 0 le_rfl each wide
      refine ⟨result, sum, sums, ?_⟩
      rwa [Int.cast_zero, zero_add] at near

/-- A sum that is near an exact one, as a float. -/
theorem PyNumber.Near.toFloatRounded {growth exact value : ℚ} {number : PyNumber}
    (near : PyNumber.Near growth exact number value) (large : 1 ≤ growth)
    (fits : growth * exact < Binary64.limit) :
    number.toFloatRounded = .ok (.finite (Binary64.nearest value)) ∧
      PyNumber.Tracks (growth * (1 + Binary64.unitRoundoff)) exact (Binary64.nearest value) 0 :=
  ⟨near.amount.toFloatRounded (near.le.trans_lt fits),
    .round large near.amount.isGrid near.amount.nonneg near.near⟩

/-! ## Operations on near numbers -/

namespace PyNumber

open Binary64

section Operations

variable {growth exact exactOther total other value : ℚ}

theorem Near.exact_nonneg {number : PyNumber} (near : Near growth exact number value)
    (large : 1 ≤ growth) : 0 ≤ exact :=
  nonneg_of_mul_nonneg_right (near.amount.nonneg.trans near.le) (zero_lt_one.trans_le large)

/-- The rounded sum of two totals. -/
theorem Tracks.join (tracks : Tracks growth exact total 0)
    (tracksOther : Tracks growth exactOther other 0) :
    Tracks (growth * (1 + unitRoundoff)) (exact + exactOther) (nearest (total + other)) 0 := by
  have near := tracks.near
  have nearOther := tracksOther.near
  rw [add_zero, abs_le] at near nearOther
  apply Tracks.round tracks.large (tracks.isTotal.isGrid.add tracksOther.isTotal.isGrid)
    (add_nonneg tracks.total_nonneg tracksOther.total_nonneg)
  rw [mul_add, abs_le]
  constructor <;> linarith

/-- A rounded multiple of a total. -/
theorem Tracks.intCast_mul (tracks : Tracks growth exact total 0) {factor : Int}
    (positive : 0 ≤ factor) :
    Tracks (growth * (1 + unitRoundoff)) (factor * exact) (nearest (factor * total)) 0 := by
  have factorNonneg : (0 : ℚ) ≤ factor := Int.cast_nonneg_iff.mpr positive
  have near := tracks.near
  rw [add_zero] at near
  apply Tracks.round tracks.large (tracks.isTotal.isGrid.intCast_mul factor)
    (mul_nonneg factorNonneg tracks.total_nonneg)
  rw [← mul_sub, abs_mul, abs_of_nonneg factorNonneg, mul_left_comm]
  exact mul_le_mul_of_nonneg_left near factorNonneg

theorem Tracks.mono {more : ℚ} (tracks : Tracks growth exact total 0) (ordered : growth ≤ more) :
    Tracks more exact total 0 where
  large := tracks.large.trans ordered
  isTotal := tracks.isTotal
  isCompensation := tracks.isCompensation
  within := tracks.within
  bounded := tracks.bounded.trans (mul_le_mul_of_nonneg_right ordered tracks.exact_nonneg)
  near := tracks.near.trans
    (mul_le_mul_of_nonneg_right (sub_le_sub_right ordered 1) tracks.exact_nonneg)

/-- The quotient of two totals against that of the exact values. -/
theorem Tracks.quotient (tracks : Tracks growth exact total 0)
    (tracksOther : Tracks growth exactOther other 0) (positive : 0 < other) :
    (2 - growth) * (total / other) * exactOther ≤ growth * exact ∧
      (2 - growth) * exact ≤ growth * (total / other) * exactOther := by
  have near := tracks.near
  have nearOther := tracksOther.near
  rw [add_zero, sub_mul, one_mul, abs_le] at near nearOther
  have quotientNonneg := div_nonneg tracks.total_nonneg positive.le
  have divides : total / other * other = total := div_mul_cancel₀ total positive.ne'
  have low := mul_le_mul_of_nonneg_left nearOther.1 quotientNonneg
  have high := mul_le_mul_of_nonneg_left tracksOther.bounded quotientNonneg
  have bounded := tracks.bounded
  constructor <;> linarith

/-- With a float, numbers are converted before they are added. -/
theorem addRounded_of_float {left right : PyNumber}
    (mixed : (∃ value, left = .float value) ∨ ∃ value, right = .float value) {value other : ℚ}
    (converts : left.toFloatRounded = .ok (.finite value))
    (convertsOther : right.toFloatRounded = .ok (.finite other)) :
    left.addRounded right = .ok (.float ((PyFloat.finite value).addRounded (.finite other))) := by
  have adds : left.addRounded right = (do
      let left ← left.toFloatRounded
      let right ← right.toFloatRounded
      return .float (left.addRounded right)) := by
    cases left with
    | float => cases right <;> rfl
    | int =>
        cases right with
        | float => rfl
        | int =>
            rcases mixed with ⟨_, same⟩ | ⟨_, same⟩
            · cases same
            · cases same
  rw [adds, converts, convertsOther]
  rfl

/-- The rounded sum of two near numbers. -/
theorem Near.addRounded {left right : PyNumber} (large : 1 ≤ growth)
    (near : Near growth exact left value) (nearOther : Near growth exactOther right other)
    (fits : growth * stepGrowth * (exact + exactOther) < limit) :
    ∃ sum total, left.addRounded right = .ok sum ∧
      Near (growth * stepGrowth) (exact + exactOther) sum total := by
  have exactNonneg := near.exact_nonneg large
  have otherNonneg := nearOther.exact_nonneg large
  have sumNonneg := add_nonneg exactNonneg otherNonneg
  have growthNonneg := zero_le_one.trans large
  have wider : growth ≤ growth * stepGrowth :=
    le_mul_of_one_le_right growthNonneg one_le_stepGrowth
  have reach : growth * (exact + exactOther) < limit :=
    (mul_le_mul_of_nonneg_right wider sumNonneg).trans_lt fits
  rw [mul_add] at reach
  obtain ⟨converts, tracks⟩ := near.toFloatRounded large
    (lt_of_le_of_lt (le_add_of_nonneg_right (mul_nonneg growthNonneg otherNonneg)) reach)
  obtain ⟨convertsOther, tracksOther⟩ := nearOther.toFloatRounded large
    (lt_of_le_of_lt (le_add_of_nonneg_left (mul_nonneg growthNonneg exactNonneg)) reach)
  have joined := tracks.join tracksOther
  have steps : growth * (1 + unitRoundoff) * (1 + unitRoundoff) = growth * stepGrowth := by
    rw [stepGrowth]
    ring
  have floats (mixed : (∃ value, left = .float value) ∨ ∃ value, right = .float value) :
      ∃ sum total, left.addRounded right = .ok sum ∧
        Near (growth * stepGrowth) (exact + exactOther) sum total := by
    have below : |nearest value + nearest other| < limit := by
      rw [abs_of_nonneg (add_nonneg tracks.total_nonneg tracksOther.total_nonneg)]
      apply lt_of_le_of_lt _ fits
      have half := mul_le_mul_of_nonneg_left half_le_stepGrowth growthNonneg
      have bounded := mul_le_mul_of_nonneg_right half sumNonneg
      rw [mul_add] at bounded
      exact (add_le_add tracks.bounded tracksOther.bounded).trans bounded
    refine ⟨_, nearest (nearest value + nearest other),
      addRounded_of_float mixed converts convertsOther, ?_⟩
    rw [PyFloat.addRounded_eq below]
    rw [steps] at joined
    exact joined.near_float fits
  rcases near.amount.kinds with ⟨units, isInt, isUnits⟩ | ⟨isFloat, _⟩
  · rcases nearOther.amount.kinds with ⟨others, isIntOther, isOthers⟩ | ⟨isFloat, _⟩
    · refine ⟨.int (units + others), value + other, ?_, ?_⟩
      · rw [isInt, isIntOther]
        rfl
      · have close := near.near
        have closeOther := nearOther.near
        rw [sub_mul, abs_le] at close closeOther
        have grown := mul_le_mul_of_nonneg_right wider sumNonneg
        exact {
          amount := {
            is := by
              rw [isUnits, isOthers, ← Int.cast_add]
              rfl
            stored := trivial
            nonneg := add_nonneg near.amount.nonneg nearOther.amount.nonneg }
          near := by
            rw [sub_mul, abs_le]
            constructor <;> linarith }
    · exact floats (.inr ⟨_, isFloat⟩)
  · exact floats (.inl ⟨_, isFloat⟩)

end Operations

end PyNumber

/-! ## Signs -/

namespace PyNumber

open Binary64

/-- A compensated sum of floats that are not negative: finite with a compensation below it, or
infinite. -/
inductive Sound : PyFloat → PyFloat → Prop where
  | finite {total compensation : ℚ} (isTotal : IsDouble total) (below : total < limit)
      (within : |compensation| ≤ total) : Sound (.finite total) (.finite compensation)
  | infinite (compensation : PyFloat) : Sound (.infinity false) compensation

theorem Sound.settle_nonneg {total compensation : PyFloat} (sound : Sound total compensation) :
    (total.settle compensation).Nonneg := by
  cases sound with
  | @finite total compensation isTotal below within =>
      have positive : 0 ≤ total + compensation := by linarith [(abs_le.mp within).1]
      change (PyFloat.finite (total + compensation)).rounded.Nonneg
      exact PyFloat.rounded_nonneg (PyFloat.nonneg_finite_iff.mpr positive)
  | infinite =>
      cases compensation with
      | finite => rfl
      | infinity => rfl
      | nan => rfl

theorem Sound.add {total compensation value : PyFloat} (sound : Sound total compensation)
    (isFloat : value.IsFloat) (nonneg : value.Nonneg) :
    Sound (total.addRounded value) (compensation.addRounded (total.lost value)) := by
  cases sound with
  | infinite =>
      have stays : (PyFloat.infinity false).addRounded value = .infinity false := by
        cases value with
        | finite => rfl
        | infinity negative =>
            cases negative with
            | false => rfl
            | true => cases nonneg
        | nan => cases nonneg
      rw [stays]
      exact .infinite _
  | @finite total compensation isTotal below within =>
      cases value with
      | nan => cases nonneg
      | infinity negative =>
          cases negative with
          | true => cases nonneg
          | false => exact .infinite _
      | finite value =>
          have totalNonneg : 0 ≤ total := (abs_nonneg compensation).trans within
          have valueNonneg : 0 ≤ value := PyFloat.nonneg_finite_iff.mp nonneg
          have isValue := (PyFloat.isFloat_finite_iff.mp isFloat).1
          have sumNonneg := add_nonneg totalNonneg valueNonneg
          by_cases fits : total + value < limit
          · obtain ⟨low, high⟩ := add_lost_bounds isTotal isValue totalNonneg valueNonneg within
            have top := nearest_lt_limit sumNonneg fits
            have lossBelow : |compensation + Binary64.lost total value| < limit := by
              rw [abs_lt]
              constructor <;> linarith
            rw [PyFloat.lost_finite isTotal isValue totalNonneg valueNonneg fits,
              PyFloat.addRounded_eq lossBelow,
              PyFloat.addRounded_eq (by rwa [abs_of_nonneg sumNonneg])]
            exact .finite (nearest_isDouble _) top
              (abs_compensation_le isTotal isValue totalNonneg valueNonneg within)
          · rw [PyFloat.addRounded_infinite sumNonneg fits]
            exact .infinite _

/-- The first float of a sum. -/
theorem sound_first {value : PyFloat} (isFloat : value.IsFloat) (nonneg : value.Nonneg) :
    Sound value (.finite 0) := by
  cases value with
  | finite value =>
      obtain ⟨isDouble, below⟩ := PyFloat.isFloat_finite_iff.mp isFloat
      have valueNonneg : 0 ≤ value := PyFloat.nonneg_finite_iff.mp nonneg
      rw [abs_of_nonneg valueNonneg] at below
      exact .finite isDouble below (abs_zero.trans_le valueNonneg)
  | infinity negative =>
      cases negative with
      | false => exact .infinite _
      | true => cases nonneg
  | nan => cases nonneg

variable {values : List PyFloat}

theorem compensatedSum_nonneg (each : ∀ value ∈ values, value.IsFloat ∧ value.Nonneg)
    {total compensation : PyFloat} (sound : Sound total compensation) :
    ∃ sum, compensatedSum total compensation (values.map float) = .ok (.float sum) ∧
      sum.Nonneg := by
  induction values generalizing total compensation with
  | nil => exact ⟨_, rfl, sound.settle_nonneg⟩
  | cons value rest ih =>
      rw [List.forall_mem_cons] at each
      exact ih each.2 (sound.add each.1.1 each.1.2)

theorem runningSum_nonneg (each : ∀ value ∈ values, value.IsFloat ∧ value.Nonneg)
    {total : PyFloat} (nonneg : total.Nonneg) :
    ∃ sum, runningSum (.float total) (values.map float) = .ok (.float sum) ∧ sum.Nonneg := by
  induction values generalizing total with
  | nil => exact ⟨total, rfl, nonneg⟩
  | cons value rest ih =>
      rw [List.forall_mem_cons] at each
      exact ih each.2 (PyFloat.addRounded_nonneg nonneg each.1.2)

end PyNumber

/-- A sum of floats that are not negative is not negative. -/
theorem PySum.sum_nonneg (python : PySum) {values : List PyFloat}
    (each : ∀ value ∈ values, value.IsFloat ∧ value.Nonneg) :
    ∃ result sum, python.sum (values.map .float) = .ok result ∧
      result.toFloatRounded = .ok sum ∧ sum.Nonneg := by
  have zero : PyFloat.ofIntRounded 0 = .ok (.finite 0) := by decide +kernel
  cases values with
  | nil =>
      refine ⟨.int 0, .finite 0, ?_, zero, PyFloat.nonneg_finite_iff.mpr le_rfl⟩
      cases python <;> rfl
  | cons value rest =>
      rw [List.forall_mem_cons] at each
      obtain ⟨⟨isFloat, nonneg⟩, others⟩ := each
      have first := PyFloat.zero_addRounded isFloat
      cases python with
      | running =>
          obtain ⟨sum, sums, sumNonneg⟩ := PyNumber.runningSum_nonneg others nonneg
          refine ⟨.float sum, sum, ?_, rfl, sumNonneg⟩
          rw [PySum.sum, List.map_cons, PyNumber.runningSum, PyNumber.addRounded]
          · simp only [PyNumber.toFloatRounded, zero, bind, Except.bind, pure, Except.pure, first]
            exact sums
          · intro _ _ _ same
            cases same
      | compensated =>
          obtain ⟨sum, sums, sumNonneg⟩ :=
            PyNumber.compensatedSum_nonneg others (PyNumber.sound_first isFloat nonneg)
          refine ⟨.float sum, sum, ?_, rfl, sumNonneg⟩
          rw [PySum.sum, List.map_cons, PyNumber.compensatedFrom, zero]
          simp only [bind, Except.bind, first]
          exact sums

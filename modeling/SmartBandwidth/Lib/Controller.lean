import Mathlib.Algebra.Order.Archimedean.Basic
import Mathlib.Algebra.Order.Field.Basic

/-!
# Bounded multiplicative controllers

A controller multiplies a value up to a ceiling while its signal is low, and down to a floor
while its signal is high.  The value stays between floor and ceiling, depends monotonically
on where it started and antitonically on the signals, and reaches either bound after
finitely many signals of one kind.
-/

universe u

/-- The factors, the bounds and the thresholds of a controller; the thresholds may be in any
order. -/
structure Controller (R : Type u) [Field R] [LinearOrder R] where
  increase : R
  decrease : R
  floor : R
  ceiling : R
  low : R
  high : R
  one_le_increase : 1 ≤ increase
  decrease_nonneg : 0 ≤ decrease
  decrease_le_one : decrease ≤ 1
  floor_nonneg : 0 ≤ floor
  floor_le_ceiling : floor ≤ ceiling

namespace Controller

variable {R : Type u} [Field R] [LinearOrder R] (controller : Controller R)

/-- The value after one signal; a signal below the lower threshold is low whatever the other
threshold is. -/
def next (value signal : R) : R :=
  if signal < controller.low then min (value * controller.increase) controller.ceiling
  else if controller.high ≤ signal then max (value * controller.decrease) controller.floor
  else value

/-- The signal makes the controller raise the value. -/
def Low (signal : R) : Prop := signal < controller.low

/-- The signal makes the controller lower the value. -/
def High (signal : R) : Prop := ¬ signal < controller.low ∧ controller.high ≤ signal

/-- The value lies between the bounds. -/
structure Bounded (value : R) : Prop where
  floor_le : controller.floor ≤ value
  le_ceiling : value ≤ controller.ceiling

variable {controller}

theorem Bounded.nonneg {value : R} (bounded : controller.Bounded value) : 0 ≤ value :=
  controller.floor_nonneg.trans bounded.floor_le

theorem next_of_low {value signal : R} (low : controller.Low signal) :
    controller.next value signal = min (value * controller.increase) controller.ceiling :=
  if_pos low

theorem next_of_high {value signal : R} (high : controller.High signal) :
    controller.next value signal = max (value * controller.decrease) controller.floor := by
  rw [next, if_neg high.1, if_pos high.2]

variable [IsStrictOrderedRing R]

/-! ## One signal -/

theorem le_increased {value : R} (bounded : controller.Bounded value) :
    value ≤ min (value * controller.increase) controller.ceiling :=
  le_min (le_mul_of_one_le_right bounded.nonneg controller.one_le_increase) bounded.le_ceiling

theorem decreased_le {value : R} (bounded : controller.Bounded value) :
    max (value * controller.decrease) controller.floor ≤ value :=
  max_le (mul_le_of_le_one_right bounded.nonneg controller.decrease_le_one) bounded.floor_le

theorem next_bounded {value : R} (bounded : controller.Bounded value) (signal : R) :
    controller.Bounded (controller.next value signal) := by
  rw [next]
  split
  next => exact ⟨bounded.floor_le.trans (le_increased bounded), min_le_right _ _⟩
  next =>
    split
    next => exact ⟨le_max_right _ _, (decreased_le bounded).trans bounded.le_ceiling⟩
    next => exact bounded

/-- A value that is no larger ends no larger after a signal that is no lower. -/
theorem next_mono {smaller larger : R} (ordered : smaller ≤ larger)
    (smallerBounded : controller.Bounded smaller) (largerBounded : controller.Bounded larger)
    {better worse : R} (signals : worse ≤ better) :
    controller.next smaller better ≤ controller.next larger worse := by
  have increase : 0 ≤ controller.increase := zero_le_one.trans controller.one_le_increase
  rw [next, next]
  by_cases betterLow : better < controller.low
  · rw [if_pos betterLow, if_pos (signals.trans_lt betterLow)]
    exact min_le_min_right _ (mul_le_mul_of_nonneg_right ordered increase)
  · rw [if_neg betterLow]
    by_cases worseLow : worse < controller.low
    · -- The worse signal raises, the better one does not.
      rw [if_pos worseLow]
      apply le_trans _ (le_increased largerBounded)
      split
      next => exact (decreased_le smallerBounded).trans ordered
      next => exact ordered
    · rw [if_neg worseLow]
      by_cases worseHigh : controller.high ≤ worse
      · rw [if_pos (worseHigh.trans signals), if_pos worseHigh]
        exact max_le_max_right _ (mul_le_mul_of_nonneg_right ordered controller.decrease_nonneg)
      · rw [if_neg worseHigh]
        split
        next => exact (decreased_le smallerBounded).trans ordered
        next => exact ordered

/-! ## Lists of signals -/

/-- The value after a list of signals. -/
def final (controller : Controller R) (value : R) (signals : List R) : R :=
  signals.foldl controller.next value

omit [IsStrictOrderedRing R] in
@[simp] theorem final_cons (value signal : R) (signals : List R) :
    controller.final value (signal :: signals) =
      controller.final (controller.next value signal) signals := rfl

/-- Low signals compound up to the ceiling. -/
theorem final_of_low {value : R} (bounded : controller.Bounded value) {signals : List R}
    (low : ∀ signal ∈ signals, controller.Low signal) :
    controller.final value signals =
      min (value * controller.increase ^ signals.length) controller.ceiling := by
  induction signals generalizing value with
  | nil => simpa [final] using bounded.le_ceiling
  | cons signal rest ih =>
      rw [List.forall_mem_cons] at low
      have ceiling : 0 ≤ controller.ceiling :=
        controller.floor_nonneg.trans controller.floor_le_ceiling
      have power : 1 ≤ controller.increase ^ rest.length :=
        one_le_pow₀ controller.one_le_increase
      have raised : controller.ceiling ≤ controller.ceiling * controller.increase ^ rest.length :=
        le_mul_of_one_le_right ceiling power
      rw [final_cons, ih (next_bounded bounded signal) low.2, next_of_low low.1,
        min_mul_of_nonneg _ _ (zero_le_one.trans power), min_assoc, min_eq_right raised,
        mul_assoc, ← pow_succ', List.length_cons]

/-- High signals compound down to the floor. -/
theorem final_of_high {value : R} (bounded : controller.Bounded value) {signals : List R}
    (high : ∀ signal ∈ signals, controller.High signal) :
    controller.final value signals =
      max (value * controller.decrease ^ signals.length) controller.floor := by
  induction signals generalizing value with
  | nil => simpa [final] using bounded.floor_le
  | cons signal rest ih =>
      rw [List.forall_mem_cons] at high
      have nonneg : 0 ≤ controller.decrease ^ rest.length :=
        pow_nonneg controller.decrease_nonneg _
      have lowered : controller.floor * controller.decrease ^ rest.length ≤ controller.floor :=
        mul_le_of_le_one_right controller.floor_nonneg
          (pow_le_one₀ controller.decrease_nonneg controller.decrease_le_one)
      rw [final_cons, ih (next_bounded bounded signal) high.2, next_of_high high.1,
        max_mul_of_nonneg _ _ nonneg, max_assoc, max_eq_right lowered, mul_assoc, ← pow_succ',
        List.length_cons]

/-! ## Convergence -/

variable [Archimedean R]

/-- From wherever it is, the value reaches the ceiling after enough low signals, and stays. -/
theorem exists_final_eq_ceiling (increase : 1 < controller.increase)
    (floor : 0 < controller.floor) :
    ∃ enough : Nat, ∀ value, controller.Bounded value → ∀ signals : List R,
      (∀ signal ∈ signals, controller.Low signal) → enough ≤ signals.length →
      controller.final value signals = controller.ceiling := by
  obtain ⟨enough, exceeds⟩ :=
    pow_unbounded_of_one_lt (controller.ceiling / controller.floor) increase
  refine ⟨enough, ?_⟩
  intro value bounded signals low long
  rw [final_of_low bounded low]
  apply min_eq_right
  have power : controller.ceiling / controller.floor ≤ controller.increase ^ signals.length :=
    exceeds.le.trans (pow_le_pow_right₀ controller.one_le_increase long)
  calc controller.ceiling
      = controller.floor * (controller.ceiling / controller.floor) := by
        rw [mul_div_cancel₀ _ floor.ne']
    _ ≤ value * controller.increase ^ signals.length :=
        mul_le_mul bounded.floor_le power
          (div_nonneg (floor.le.trans controller.floor_le_ceiling) floor.le) bounded.nonneg

/-- From wherever it is, the value reaches the floor after enough high signals, and stays. -/
theorem exists_final_eq_floor (decrease : controller.decrease < 1)
    (floor : 0 < controller.floor) :
    ∃ enough : Nat, ∀ value, controller.Bounded value → ∀ signals : List R,
      (∀ signal ∈ signals, controller.High signal) → enough ≤ signals.length →
      controller.final value signals = controller.floor := by
  have ceiling : 0 < controller.ceiling := floor.trans_le controller.floor_le_ceiling
  obtain ⟨enough, falls⟩ :=
    exists_pow_lt_of_lt_one (div_pos floor ceiling) decrease
  refine ⟨enough, ?_⟩
  intro value bounded signals high long
  rw [final_of_high bounded high]
  apply max_eq_right
  have power : controller.decrease ^ signals.length ≤ controller.floor / controller.ceiling :=
    (pow_le_pow_of_le_one controller.decrease_nonneg controller.decrease_le_one long).trans
      falls.le
  calc value * controller.decrease ^ signals.length
      ≤ controller.ceiling * (controller.floor / controller.ceiling) :=
        mul_le_mul bounded.le_ceiling power (pow_nonneg controller.decrease_nonneg _) ceiling.le
    _ = controller.floor := mul_div_cancel₀ _ ceiling.ne'

end Controller

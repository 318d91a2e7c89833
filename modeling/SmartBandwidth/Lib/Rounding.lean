import Mathlib.Data.Rat.Floor
import Mathlib.Order.Monotone.Basic
import Mathlib.Tactic.Linarith

/-!
# Decimal rounding

Rounding of exact rationals to a number of decimal digits, ties to the even
neighbour, and the fixed-point text of a rounded number.
-/

namespace Rounding

/-- The nearest integer; a tie goes to the even neighbour. -/
def roundHalfEven (number : ℚ) : Int :=
  let low := ⌊number⌋
  let rest := number - low
  if rest < 1 / 2 then low
  else if 1 / 2 < rest then low + 1
  else if low % 2 = 0 then low
  else low + 1

/-- Round to `digits` decimal digits. -/
def round (number : ℚ) (digits : Nat) : ℚ :=
  roundHalfEven (number * 10 ^ digits) / 10 ^ digits

/-- The text of a non-negative number with two decimal digits. -/
def fixed2 (number : ℚ) : String :=
  let hundredths := (roundHalfEven (number * 100)).toNat
  let fraction := hundredths % 100
  toString (hundredths / 100) ++ "." ++ (if fraction < 10 then "0" else "") ++ toString fraction

/-! ## Bounds -/

/-- An integer is at most the rounded number when the number is past the midpoint below the
integer, or on it and the integer is even. -/
theorem le_roundHalfEven_iff {number : ℚ} {bound : Int} :
    bound ≤ roundHalfEven number ↔
      (bound : ℚ) - 1 / 2 < number ∨ ((bound : ℚ) - 1 / 2 = number ∧ bound % 2 = 0) := by
  have below : (⌊number⌋ : ℚ) ≤ number := Int.floor_le number
  have above : number < ⌊number⌋ + 1 := Int.lt_floor_add_one number
  simp only [roundHalfEven]
  generalize ⌊number⌋ = low at below above
  rcases lt_trichotomy bound (low + 1) with small | rfl | large
  · have kept : bound ≤ low := Int.lt_add_one_iff.mp small
    have kept' : (bound : ℚ) ≤ low := by exact_mod_cast kept
    refine iff_of_true ?_ (.inl (by linarith))
    split_ifs <;> omega
  · push_cast
    split_ifs with lower upper even
    · refine iff_of_false (by omega) ?_
      intro reached
      rcases reached with past | ⟨tie, -⟩ <;> linarith
    · exact iff_of_true le_rfl (.inl (by linarith))
    · refine iff_of_false (by omega) ?_
      intro reached
      rcases reached with past | ⟨-, odd⟩
      · linarith
      · omega
    · exact iff_of_true le_rfl (.inr ⟨by linarith, by omega⟩)
  · have past : low + 2 ≤ bound := by omega
    have past' : (low : ℚ) + 2 ≤ bound := by exact_mod_cast past
    refine iff_of_false (by split_ifs <;> omega) ?_
    intro reached
    rcases reached with past | ⟨tie, -⟩ <;> linarith

theorem roundHalfEven_mono {less more : ℚ} (ordered : less ≤ more) :
    roundHalfEven less ≤ roundHalfEven more := by
  rw [le_roundHalfEven_iff]
  rcases le_roundHalfEven_iff.mp (le_refl (roundHalfEven less)) with past | ⟨tie, even⟩
  · exact .inl (past.trans_le ordered)
  · rcases ordered.eq_or_lt with rfl | later
    · exact .inr ⟨tie, even⟩
    · exact .inl (tie.trans_lt later)

theorem roundHalfEven_intCast (number : Int) : roundHalfEven number = number := by
  simp [roundHalfEven]

/-- Rounding does not prefer a sign. -/
theorem roundHalfEven_neg (number : ℚ) : roundHalfEven (-number) = -roundHalfEven number := by
  apply eq_of_forall_le_iff
  intro bound
  have below : bound ≤ -roundHalfEven number ↔ ¬ -bound + 1 ≤ roundHalfEven number := by omega
  rw [below, le_roundHalfEven_iff, le_roundHalfEven_iff, not_or, not_and]
  push_cast
  constructor
  · intro reached
    rcases reached with past | ⟨tie, even⟩
    · exact ⟨by linarith, fun same => absurd same (by linarith)⟩
    · exact ⟨by linarith, by omega⟩
  · intro stays
    rcases (le_of_not_gt stays.1).lt_or_eq with past | tie
    · exact .inl (by linarith)
    · have odd := stays.2 (by linarith)
      exact .inr ⟨by linarith, by omega⟩

theorem scale_pos (digits : Nat) : (0 : ℚ) < 10 ^ digits := pow_pos (by norm_num) digits

theorem round_mono (digits : Nat) : Monotone fun number => round number digits := by
  intro less more ordered
  have scaled : less * 10 ^ digits ≤ more * 10 ^ digits :=
    mul_le_mul_of_nonneg_right ordered (scale_pos digits).le
  have rounded :
      (roundHalfEven (less * 10 ^ digits) : ℚ) ≤ roundHalfEven (more * 10 ^ digits) := by
    exact_mod_cast roundHalfEven_mono scaled
  exact div_le_div_of_nonneg_right rounded (scale_pos digits).le

/-- A whole number is not changed by rounding. -/
theorem round_intCast (number : Int) (digits : Nat) : round number digits = number := by
  have scaled : (number : ℚ) * 10 ^ digits = ((number * 10 ^ digits : Int) : ℚ) := by push_cast; rfl
  rw [round, scaled, roundHalfEven_intCast]
  push_cast
  exact mul_div_cancel_right₀ _ (scale_pos digits).ne'

/-- A number rounds to a positive one past half of the last digit. -/
theorem round_pos_iff {number : ℚ} {digits : Nat} :
    0 < round number digits ↔ 1 / 2 < number * 10 ^ digits := by
  rw [round, div_pos_iff_of_pos_right (scale_pos digits), Int.cast_pos, ← Int.add_one_le_iff,
    zero_add, le_roundHalfEven_iff]
  norm_num

/-- A number rounds to less than a whole one that is even in the last digit, if it is more than
half of the last digit below it. -/
theorem round_lt_iff {number : ℚ} {digits : Nat} {bound : Int}
    (even : bound * 10 ^ digits % 2 = 0) :
    round number digits < bound ↔ number * 10 ^ digits < bound * 10 ^ digits - 1 / 2 := by
  have scaled : (bound : ℚ) * 10 ^ digits = ((bound * 10 ^ digits : Int) : ℚ) := by push_cast; rfl
  rw [round, div_lt_iff₀ (scale_pos digits), scaled, Int.cast_lt, ← not_le, le_roundHalfEven_iff,
    not_or, not_lt, and_iff_left even, lt_iff_le_and_ne, ne_comm]

/-! ## Decimals -/

/-- A whole number of units of the last digit. -/
def IsDecimal (digits : Nat) (number : ℚ) : Prop := ∃ units : Int, number = units / 10 ^ digits

section Decimals

variable {digits : Nat} {number other : ℚ}

theorem round_isDecimal (number : ℚ) (digits : Nat) : IsDecimal digits (round number digits) :=
  ⟨_, rfl⟩

/-- A decimal is not changed by rounding. -/
theorem IsDecimal.round_eq (decimal : IsDecimal digits number) : round number digits = number := by
  obtain ⟨units, rfl⟩ := decimal
  rw [round, div_mul_cancel₀ _ (scale_pos digits).ne', roundHalfEven_intCast]

theorem IsDecimal.add (left : IsDecimal digits number) (right : IsDecimal digits other) :
    IsDecimal digits (number + other) := by
  obtain ⟨units, rfl⟩ := left
  obtain ⟨others, rfl⟩ := right
  refine ⟨units + others, ?_⟩
  rw [Int.cast_add, add_div]

theorem isDecimal_sum {numbers : List ℚ} (each : ∀ number ∈ numbers, IsDecimal digits number) :
    IsDecimal digits numbers.sum := by
  induction numbers with
  | nil => exact ⟨0, by simp⟩
  | cons number rest ih =>
      rw [List.forall_mem_cons] at each
      rw [List.sum_cons]
      exact each.1.add (ih each.2)

theorem abs_roundHalfEven_sub_le (number : ℚ) : |(roundHalfEven number : ℚ) - number| ≤ 1 / 2 := by
  have below : (⌊number⌋ : ℚ) ≤ number := Int.floor_le number
  have above : number < ⌊number⌋ + 1 := Int.lt_floor_add_one number
  simp only [roundHalfEven]
  rw [abs_le]
  split_ifs <;> push_cast <;> constructor <;> linarith

/-- Rounding moves a number by at most half of the last digit. -/
theorem abs_round_sub_le (number : ℚ) (digits : Nat) :
    |round number digits - number| ≤ 1 / 2 / 10 ^ digits := by
  have positive := scale_pos digits
  have scaled : round number digits - number =
      (roundHalfEven (number * 10 ^ digits) - number * 10 ^ digits) / 10 ^ digits := by
    rw [round, sub_div, mul_div_cancel_right₀ _ positive.ne']
  rw [scaled, abs_div, abs_of_pos positive]
  exact div_le_div_of_nonneg_right (abs_roundHalfEven_sub_le _) positive.le

/-- The errors of rounded numbers add up. -/
theorem abs_sum_round_sub_le {α : Type*} (items : List α) (number : α → ℚ) (digits : Nat) :
    |(items.map fun item => round (number item) digits).sum - (items.map number).sum| ≤
      items.length * (1 / 2 / 10 ^ digits) := by
  induction items with
  | nil => simp
  | cons item rest ih =>
      have first := abs_round_sub_le (number item) digits
      rw [abs_le] at first ih ⊢
      rw [List.map_cons, List.map_cons, List.sum_cons, List.sum_cons, List.length_cons]
      push_cast
      constructor <;> linarith

end Decimals

end Rounding

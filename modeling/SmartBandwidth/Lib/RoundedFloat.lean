import SmartBandwidth.Lib.PyNumber
import SmartBandwidth.Lib.Binary64

/-!
# Rounded arithmetic on floats

An operation on floats gives the double nearest to its exact result, or an infinity where that
result is out of range.
-/

namespace PyFloat

open Binary64

/-- The float nearest to a number. -/
def ofExact (value : ℚ) : PyFloat :=
  if |value| < limit then .finite (nearest value) else .infinity (value < 0)

/-- The exact result of an operation, rounded. -/
def rounded : PyFloat → PyFloat
  | .finite value => ofExact value
  | .infinity negative => .infinity negative
  | .nan => .nan

/-- A value that floats can have. -/
def IsFloat (number : PyFloat) : Prop := number.rounded = number

instance (number : PyFloat) : Decidable number.IsFloat :=
  inferInstanceAs (Decidable (number.rounded = number))

/-- Unary `-`. -/
def neg : PyFloat → PyFloat
  | .finite value => .finite (-value)
  | .infinity negative => .infinity (!negative)
  | .nan => .nan

/-- `abs`. -/
def magnitude : PyFloat → PyFloat
  | .finite value => .finite |value|
  | .infinity _ => .infinity false
  | .nan => .nan

/-- `+`, rounded. -/
def addRounded (left right : PyFloat) : PyFloat := (left.add right).rounded

/-- `-`, rounded. -/
def subRounded (left right : PyFloat) : PyFloat := left.addRounded right.neg

/-- `*`, rounded. -/
def mulRounded (left right : PyFloat) : PyFloat := (left.mul right).rounded

/-- `/`, rounded. -/
def divRounded (left right : PyFloat) : Except PyFault PyFloat := (left.div right).map rounded

/-- `float` of an integer, rounded. -/
def ofIntRounded (number : Int) : Except PyFault PyFloat := (ofInt number).map rounded

/-- `round` to a number of decimal digits, rounded. -/
def roundRounded (digits : Nat) (number : PyFloat) : PyFloat := (number.round digits).rounded

/-- What a sum of two floats loses, computed from the larger one on. -/
def lost (left right : PyFloat) : PyFloat :=
  let sum := left.addRounded right
  if right.magnitude.le left.magnitude then
    (left.subRounded sum).addRounded right
  else
    (right.subRounded sum).addRounded left

/-- The rational that a finite float stands for. -/
def value : PyFloat → ℚ
  | .finite value => value
  | .infinity _ | .nan => 0

/-- A total with its compensation, which only counts when it is finite. -/
def settle (total compensation : PyFloat) : PyFloat :=
  match compensation with
  | .finite value => total.addRounded (.finite value)
  | .infinity _ | .nan => total

/-! ## Finite results -/

section Finite

variable {left right value : ℚ}

theorem intLimit_eq : (intLimit : ℚ) = limit := by
  have ordered : 2 ^ 970 ≤ 2 ^ 1024 := pow_le_pow_right₀ one_le_two (by decide)
  simp only [intLimit, limit, Nat.cast_sub ordered, Nat.cast_pow, Nat.cast_ofNat]

theorem holds_iff {number : Int} : Holds number ↔ |(number : ℚ)| < limit := by
  rw [Holds, ← intLimit_eq, ← Int.cast_abs, Int.abs_eq_natAbs, Int.cast_natCast, Nat.cast_lt]

theorem ofExact_eq (below : |value| < limit) : ofExact value = .finite (nearest value) :=
  if_pos below

theorem addRounded_eq (below : |left + right| < limit) :
    (finite left).addRounded (.finite right) = .finite (nearest (left + right)) :=
  ofExact_eq below

theorem subRounded_eq (below : |left - right| < limit) :
    (finite left).subRounded (.finite right) = .finite (nearest (left - right)) := by
  rw [sub_eq_add_neg] at below ⊢
  exact addRounded_eq below

theorem ofIntRounded_eq {number : Int} (below : |(number : ℚ)| < limit) :
    ofIntRounded number = .ok (.finite (nearest number)) := by
  rw [ofIntRounded, ofInt, if_pos (holds_iff.mpr below)]
  exact congrArg Except.ok (ofExact_eq below)

theorem divRounded_finite (nonzero : right ≠ 0) :
    (finite left).divRounded (.finite right) = .ok (ofExact (left / right)) := by
  rw [divRounded, div_finite nonzero]
  rfl

theorem rounded_zero : (finite 0).rounded = .finite 0 := by decide +kernel

/-- A sum that is out of the range. -/
theorem addRounded_infinite (nonneg : 0 ≤ left + right) (beyond : ¬ left + right < limit) :
    (finite left).addRounded (.finite right) = .infinity false := by
  rw [addRounded, add, rounded, ofExact, abs_of_nonneg nonneg, if_neg beyond,
    decide_eq_false nonneg.not_gt]

/-- A product that stays in the range has a finite factor. -/
theorem mulRounded_eq_finite {factor : ℚ} (nonzero : factor ≠ 0) {number : PyFloat}
    (inRange : (finite factor).mulRounded number = .finite value) :
    ∃ other, number = .finite other ∧ |factor * other| < limit ∧
      value = nearest (factor * other) := by
  cases number with
  | finite other =>
      change ofExact (factor * other) = .finite value at inRange
      rw [ofExact] at inRange
      split at inRange
      next below => exact ⟨other, rfl, below, (finite.inj inRange).symm⟩
      next => cases inRange
  | infinity =>
      rw [mulRounded, mul, if_neg nonzero] at inRange
      cases inRange
  | nan => cases inRange

/-- The finite floats are the doubles within the range. -/
theorem isFloat_finite_iff : (finite value).IsFloat ↔ IsDouble value ∧ |value| < limit := by
  constructor
  · intro isFloat
    rw [IsFloat, rounded, ofExact] at isFloat
    split at isFloat
    next below =>
      have same : nearest value = value := finite.inj isFloat
      exact ⟨same ▸ nearest_isDouble value, below⟩
    next => cases isFloat
  · rintro ⟨isDouble, below⟩
    rw [IsFloat, rounded, ofExact_eq below, isDouble.nearest_eq]

/-- Zero and a float. -/
theorem zero_addRounded {number : PyFloat} (isFloat : number.IsFloat) :
    (finite 0).addRounded number = number := by
  have same : (finite 0).add number = number := by
    cases number with
    | finite value => exact congrArg finite (zero_add value)
    | infinity => rfl
    | nan => rfl
  rw [addRounded, same, isFloat]

/-- An operation gives a float. -/
theorem rounded_isFloat (number : PyFloat) : number.rounded.IsFloat := by
  cases number with
  | finite value =>
      rw [rounded, ofExact]
      split
      next below =>
        exact isFloat_finite_iff.mpr ⟨nearest_isDouble value, abs_nearest_lt_limit below⟩
      next => rfl
  | infinity => rfl
  | nan => rfl

section Lost

variable (isLeft : IsDouble left) (isRight : IsDouble right) (leftNonneg : 0 ≤ left)
  (rightNonneg : 0 ≤ right) (below : left + right < limit)

include isLeft isRight leftNonneg rightNonneg below

theorem lost_finite : lost (.finite left) (.finite right) = .finite (Binary64.lost left right) := by
  have sumNonneg := add_nonneg leftNonneg rightNonneg
  have sumBelow := nearest_lt_limit sumNonneg below
  have aboveLeft : left ≤ nearest (left + right) :=
    isLeft.le_nearest (le_add_of_nonneg_right rightNonneg)
  have aboveRight : right ≤ nearest (left + right) :=
    isRight.le_nearest (le_add_of_nonneg_left leftNonneg)
  have loss : |left + right - nearest (left + right)| < limit := by
    rw [abs_lt]
    constructor <;> linarith
  have fromLeft : |left - nearest (left + right)| < limit := by
    rw [abs_lt]
    constructor <;> linarith
  have fromRight : |right - nearest (left + right)| < limit := by
    rw [abs_lt]
    constructor <;> linarith
  have sum : (finite left).addRounded (.finite right) = .finite (nearest (left + right)) :=
    addRounded_eq (by rwa [abs_of_nonneg sumNonneg])
  rw [lost, sum, Binary64.lost]
  simp only [magnitude, le_finite_iff]
  split
  next ordered =>
    rw [abs_of_nonneg leftNonneg, abs_of_nonneg rightNonneg] at ordered
    rw [subRounded_eq fromLeft, addRounded_eq]
    rwa [nearest_sub_add isLeft ordered rightNonneg]
  next ordered =>
    rw [abs_of_nonneg leftNonneg, abs_of_nonneg rightNonneg] at ordered
    rw [subRounded_eq fromRight, addRounded_eq]
    rw [add_comm left, nearest_sub_add isRight (le_of_not_ge ordered) leftNonneg]
    rwa [add_comm left] at loss

end Lost

end Finite

/-! ## Signs -/

theorem rounded_nonneg {number : PyFloat} (nonneg : number.Nonneg) : number.rounded.Nonneg := by
  cases number with
  | finite value =>
      have exactNonneg : 0 ≤ value := nonneg_finite_iff.mp nonneg
      rw [rounded, ofExact]
      split
      next => exact nonneg_finite_iff.mpr (nearest_nonneg exactNonneg)
      next =>
        rw [decide_eq_false exactNonneg.not_gt]
        rfl
  | infinity => exact nonneg
  | nan => exact nonneg

theorem add_nonneg_of_nonneg {left right : PyFloat} (leftNonneg : left.Nonneg)
    (rightNonneg : right.Nonneg) : (left.add right).Nonneg := by
  cases left with
  | finite value =>
      cases right with
      | finite other =>
          apply nonneg_finite_iff.mpr
          exact add_nonneg (nonneg_finite_iff.mp leftNonneg) (nonneg_finite_iff.mp rightNonneg)
      | infinity => exact rightNonneg
      | nan => cases rightNonneg
  | infinity negative =>
      cases negative with
      | true => cases leftNonneg
      | false =>
          cases right with
          | finite => rfl
          | infinity negative =>
              cases negative with
              | true => cases rightNonneg
              | false => rfl
          | nan => cases rightNonneg
  | nan => cases leftNonneg

/-- A number that is not negative by a positive one; two infinities have no quotient. -/
theorem divRounded_nonneg {left right : PyFloat} (nonneg : left.Nonneg)
    (positive : (finite 0).lt right = true) :
    ∃ quotient, left.divRounded right = .ok quotient ∧
      (quotient.Nonneg ∨ quotient = .nan) ∧ quotient.IsFloat := by
  have exactly : ∃ quotient, left.div right = .ok quotient ∧
      (quotient.Nonneg ∨ quotient = .nan) := by
    cases right with
    | nan => cases positive
    | infinity negative =>
        cases left with
        | nan => cases nonneg
        | infinity => exact ⟨.nan, rfl, .inr rfl⟩
        | finite value => exact ⟨.finite 0, rfl, .inl (nonneg_finite_iff.mpr le_rfl)⟩
    | finite divisor =>
        have divisorPositive : 0 < divisor := lt_finite_iff.mp positive
        cases left with
        | nan => cases nonneg
        | infinity negative =>
            cases negative with
            | true => cases nonneg
            | false =>
                refine ⟨.infinity false, ?_, .inl rfl⟩
                simp [div, divisorPositive.ne', divisorPositive.not_gt]
        | finite value =>
            refine ⟨_, div_finite divisorPositive.ne', .inl (nonneg_finite_iff.mpr ?_)⟩
            exact div_nonneg (nonneg_finite_iff.mp nonneg) divisorPositive.le
  obtain ⟨quotient, divides, sign⟩ := exactly
  refine ⟨quotient.rounded, ?_, ?_, rounded_isFloat quotient⟩
  · rw [divRounded, divides]
    rfl
  · rcases sign with quotientNonneg | rfl
    · exact .inl (rounded_nonneg quotientNonneg)
    · exact .inr rfl

/-- Rounding keeps the order. -/
theorem ofExact_mono {less more : ℚ} (ordered : less ≤ more) :
    (ofExact less).le (ofExact more) = true := by
  rw [ofExact, ofExact]
  split
  next below =>
    split
    next => exact le_finite_iff.mpr (nearest_mono ordered)
    next above =>
      have positive : 0 ≤ more := by
        by_contra negative
        rw [abs_of_neg (not_le.mp negative), not_lt] at above
        linarith [(abs_lt.mp below).1]
      rw [decide_eq_false positive.not_gt]
      rfl
  next beyond =>
    rcases lt_or_ge less 0 with negative | nonneg
    · rw [decide_eq_true negative]
      split
      next => rfl
      next => cases decide (more < 0) <;> rfl
    · have larger := nonneg.trans ordered
      have above : ¬ |more| < limit := by
        rw [abs_of_nonneg nonneg, not_lt] at beyond
        rw [abs_of_nonneg larger]
        exact (beyond.trans ordered).not_gt
      rw [if_neg above, decide_eq_false nonneg.not_gt, decide_eq_false larger.not_gt]
      rfl

theorem infinity_le_ofExact (value : ℚ) : (infinity true).le (ofExact value) = true := by
  rw [ofExact]
  split <;> rfl

/-- What is below a float is not from a later one on. -/
theorem not_le_of_lt_of_le {number : ℚ} {less more : PyFloat}
    (below : (finite number).lt less = true) (ordered : less.le more = true) :
    more.le (.finite number) = false := by
  cases less with
  | finite less =>
      cases more with
      | finite more =>
          have before : number < more :=
            (lt_finite_iff.mp below).trans_le (le_finite_iff.mp ordered)
          exact decide_eq_false before.not_ge
      | infinity negative => cases negative <;> simp_all [le]
      | nan => rfl
  | infinity negative =>
      cases negative with
      | true => cases below
      | false =>
          cases more with
          | finite => cases ordered
          | infinity negative => cases negative <;> simp_all [le]
          | nan => rfl
  | nan => cases below

theorem addRounded_nonneg {left right : PyFloat} (leftNonneg : left.Nonneg)
    (rightNonneg : right.Nonneg) : (left.addRounded right).Nonneg :=
  rounded_nonneg (add_nonneg_of_nonneg leftNonneg rightNonneg)

end PyFloat

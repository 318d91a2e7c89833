import SmartBandwidth.Lib.Raising
import SmartBandwidth.Lib.Rounding
import Mathlib.Data.Rat.Floor

/-!
# Numbers of a dynamic language

Integers without bound and floats with their infinities and `nan`.  A finite float is the
rational it stands for, so that arithmetic does not round; what can go wrong is kept: an
integer beyond the range of floats cannot be converted, `nan` compares with nothing, and
an infinity has no integer part.
-/

/-- The exceptions that operations on values raise by themselves. -/
inductive PyFault where
  | attributeError
  | typeError
  | valueError
  | unicodeEncodeError
  | overflowError
  | zeroDivisionError
  deriving DecidableEq, Repr

/-- A float. -/
inductive PyFloat where
  | finite (value : ℚ)
  | infinity (negative : Bool)
  | nan
  deriving DecidableEq, Repr

namespace PyFloat

/-- The integers of smaller magnitude round to a finite float: the bound lies halfway
between the largest float and `2 ^ 1024`. -/
def intLimit : Nat := 2 ^ 1024 - 2 ^ 970

/-- Whether an integer converts to a float. -/
def Holds (number : Int) : Prop := number.natAbs < intLimit

instance (number : Int) : Decidable (Holds number) :=
  inferInstanceAs (Decidable (number.natAbs < intLimit))

/-- `float` of an integer. -/
def ofInt (number : Int) : Except PyFault PyFloat :=
  if Holds number then .ok (.finite number) else .error .overflowError

/-- `int` of a float, which drops the fraction. -/
def toInt : PyFloat → Except PyFault Int
  | .finite value => .ok (value.num.tdiv value.den)
  | .infinity _ => .error .overflowError
  | .nan => .error .valueError

/-- `<`. -/
def lt : PyFloat → PyFloat → Bool
  | .finite left, .finite right => left < right
  | .infinity true, .finite _ | .infinity true, .infinity false => true
  | .finite _, .infinity false => true
  | _, _ => false

/-- `<=`. -/
def le : PyFloat → PyFloat → Bool
  | .finite left, .finite right => left ≤ right
  | .nan, _ | _, .nan => false
  | .infinity true, _ | _, .infinity false => true
  | _, _ => false

/-- `+`; infinities of opposite signs have no sum. -/
def add : PyFloat → PyFloat → PyFloat
  | .finite left, .finite right => .finite (left + right)
  | .nan, _ | _, .nan => .nan
  | .infinity left, .infinity right => if left = right then .infinity left else .nan
  | .infinity sign, .finite _ | .finite _, .infinity sign => .infinity sign

/-- `*`; an infinity times zero is no number. -/
def mul : PyFloat → PyFloat → PyFloat
  | .finite left, .finite right => .finite (left * right)
  | .nan, _ | _, .nan => .nan
  | .infinity left, .infinity right => .infinity (left != right)
  | .infinity sign, .finite value | .finite value, .infinity sign =>
      if value = 0 then .nan else .infinity (sign != (value < 0 : Bool))

/-- `max(left, right)`, which keeps the left one unless the right one is greater. -/
def maximum (left right : PyFloat) : PyFloat := if left.lt right then right else left

/-- `min(left, right)`, which keeps the left one unless the right one is smaller. -/
def minimum (left right : PyFloat) : PyFloat := if right.lt left then right else left

/-- The product with a positive finite float. -/
def scale (factor : ℚ) : PyFloat → PyFloat
  | .finite value => .finite (factor * value)
  | other => other

/-- `/`. -/
def div : PyFloat → PyFloat → Except PyFault PyFloat
  | _, .finite 0 => .error .zeroDivisionError
  | .nan, _ | _, .nan | .infinity _, .infinity _ => .ok .nan
  | .finite left, .finite right => .ok (.finite (left / right))
  | .finite _, .infinity _ => .ok (.finite 0)
  | .infinity sign, .finite right => .ok (.infinity (sign != (right < 0 : Bool)))

/-- `round` to a number of decimal digits. -/
def round (digits : Nat) : PyFloat → PyFloat
  | .finite value => .finite (Rounding.round value digits)
  | other => other

@[simp] theorem ofInt_eq_ok {number : Int} {float : PyFloat} :
    ofInt number = .ok float ↔ Holds number ∧ .finite number = float := by
  by_cases holds : Holds number <;> simp [ofInt, holds]

theorem exists_ofInt {number : Int} : (∃ float, ofInt number = .ok float) ↔ Holds number := by
  simp

theorem exists_toInt {float : PyFloat} :
    (∃ number, float.toInt = .ok number) ↔ ∃ value, float = .finite value := by
  cases float <;> simp [toInt]

/-- Only a zero divisor makes a quotient raise. -/
theorem exists_div {left right : PyFloat} :
    (∃ quotient, left.div right = .ok quotient) ↔ right ≠ .finite 0 := by
  constructor
  · rintro ⟨quotient, divides⟩ zero
    subst zero
    cases left <;> cases divides
  · intro nonzero
    fun_cases div left right <;> simp_all

theorem lt_finite_iff {left right : ℚ} :
    (finite left).lt (.finite right) = true ↔ left < right := by
  simp [lt]

theorem le_finite_iff {left right : ℚ} :
    (finite left).le (.finite right) = true ↔ left ≤ right := by
  simp [le]

theorem maximum_finite (left right : ℚ) :
    maximum (.finite left) (.finite right) = .finite (max left right) := by
  rw [maximum, max_def_lt, apply_ite finite]
  simp [lt]

theorem minimum_finite (left right : ℚ) :
    minimum (.finite left) (.finite right) = .finite (min left right) := by
  rw [minimum, min_comm, min_def_lt, apply_ite finite]
  simp [lt]

theorem div_finite {left right : ℚ} (nonzero : right ≠ 0) :
    (finite left).div (.finite right) = .ok (.finite (left / right)) := by
  simp [div, nonzero]

/-- The number is at least 0; `nan` is not. -/
def Nonneg (number : PyFloat) : Prop := (finite 0).le number = true

instance (number : PyFloat) : Decidable number.Nonneg :=
  inferInstanceAs (Decidable ((finite 0).le number = true))

theorem nonneg_finite_iff {value : ℚ} : (finite value).Nonneg ↔ 0 ≤ value := le_finite_iff

/-- Clamping at zero also turns `nan` into zero. -/
theorem maximum_zero_nonneg (number : PyFloat) : (maximum (.finite 0) number).Nonneg := by
  rw [maximum]
  split
  next positive =>
    cases number with
    | finite value =>
        apply nonneg_finite_iff.mpr
        exact le_of_lt (of_decide_eq_true positive)
    | infinity negative =>
        cases negative with
        | false => rfl
        | true => cases positive
    | nan => cases positive
  next => exact nonneg_finite_iff.mpr le_rfl

theorem mul_nonneg {left : ℚ} (positive : 0 < left) {right : PyFloat} (nonneg : right.Nonneg) :
    ((finite left).mul right).Nonneg := by
  cases right with
  | finite value =>
      apply nonneg_finite_iff.mpr
      exact Rat.mul_nonneg (le_of_lt positive) (nonneg_finite_iff.mp nonneg)
  | infinity negative =>
      cases negative with
      | true => cases nonneg
      | false =>
          have product : (finite left).mul (.infinity false) = .infinity false := by
            simp [mul, positive.ne', positive.le]
          rw [product]
          rfl
  | nan => cases nonneg

end PyFloat

/-- A number: an integer or a float. -/
inductive PyNumber where
  | int (value : Int)
  | float (value : PyFloat)
  deriving DecidableEq, Repr

namespace PyNumber

/-- The number as a float of unbounded range, which is how numbers are compared. -/
def exact : PyNumber → PyFloat
  | .int value => .finite value
  | .float value => value

/-- Conversion to a float, as mixed arithmetic does it. -/
def toFloat : PyNumber → Except PyFault PyFloat
  | .int value => PyFloat.ofInt value
  | .float value => .ok value

/-- `<`. -/
def lt (left right : PyNumber) : Bool := left.exact.lt right.exact

/-- `+`: exact on integers, on floats otherwise. -/
def add : PyNumber → PyNumber → Except PyFault PyNumber
  | .int left, .int right => .ok (.int (left + right))
  | left, right => do
      let left ← left.toFloat
      let right ← right.toFloat
      return .float (left.add right)

/-- `round` to a number of decimal digits; an integer stays as it is. -/
def round (digits : Nat) : PyNumber → PyNumber
  | .int value => .int value
  | .float value => .float (value.round digits)

/-- `sum`, from a running total on. -/
def sum (total : PyNumber) : List PyNumber → Except PyFault PyNumber
  | [] => .ok total
  | number :: rest => do
      let total ← total.add number
      sum total rest

/-- Every integer in a list converts to a float. -/
def IntsHold (numbers : List PyNumber) : Prop := ∀ value, .int value ∈ numbers → PyFloat.Holds value

/-- The numbers can be added to an integer: up to the first float the integers are added
exactly; that sum and every later integer are converted. -/
def SumFits (total : Int) : List PyNumber → Prop
  | [] => True
  | .int value :: rest => SumFits (total + value) rest
  | .float _ :: rest => PyFloat.Holds total ∧ IntsHold rest

/-- The sum of a list of integers; there is none when the list has a float. -/
def exactSum? : List PyNumber → Option Int
  | [] => some 0
  | .int value :: rest => (exactSum? rest).map (value + ·)
  | .float _ :: _ => none

@[simp] theorem int_lt_int (left right : Int) :
    (int left).lt (int right) = decide (left < right) := by
  simp [lt, exact, PyFloat.lt]

@[simp] theorem toFloat_float (float : PyFloat) : (PyNumber.float float).toFloat = .ok float := rfl

/-- Mixed arithmetic fails on an integer out of range only. -/
theorem exists_toFloat_int {value : Int} :
    (∃ float, (int value).toFloat = .ok float) ↔ PyFloat.Holds value :=
  PyFloat.exists_ofInt

theorem toFloat_eq_ok {number : PyNumber} {float : PyFloat}
    (converts : number.toFloat = .ok float) : float = number.exact := by
  cases number with
  | int value => exact (PyFloat.ofInt_eq_ok.mp converts).2.symm
  | float value => exact (Except.ok.inj converts).symm

section Sums

variable {numbers : List PyNumber} {total value : Int} {float : PyFloat} {result : PyNumber}

@[simp] theorem add_int_int (left right : Int) :
    (int left).add (int right) = .ok (int (left + right)) := rfl

@[simp] theorem add_float_float (left right : PyFloat) :
    (PyNumber.float left).add (.float right) = .ok (.float (left.add right)) := rfl

theorem add_int_float :
    (int value).add (.float float) =
      (PyFloat.ofInt value).map fun left => .float (left.add float) := by
  simp only [add, toFloat]
  cases PyFloat.ofInt value <;> rfl

theorem add_float_int :
    (PyNumber.float float).add (int value) =
      (PyFloat.ofInt value).map fun right => .float (float.add right) := by
  simp only [add, toFloat]
  cases PyFloat.ofInt value <;> rfl

theorem exists_add_int_float :
    (∃ sum, (int value).add (.float float) = .ok sum) ↔ PyFloat.Holds value := by
  rw [add_int_float, ← PyFloat.exists_ofInt]
  cases PyFloat.ofInt value <;> simp [Except.map]

theorem exists_add_float_int :
    (∃ sum, (PyNumber.float float).add (int value) = .ok sum) ↔ PyFloat.Holds value := by
  rw [add_float_int, ← PyFloat.exists_ofInt]
  cases PyFloat.ofInt value <;> simp [Except.map]

/-- A float makes the sum a float. -/
theorem add_isFloat {left right sum : PyNumber} (adds : left.add right = .ok sum)
    (mixed : (∃ value, left = .float value) ∨ ∃ value, right = .float value) :
    ∃ value, sum = .float value := by
  cases left with
  | int left =>
      cases right with
      | int right => simp at mixed
      | float right =>
          rw [add_int_float] at adds
          cases converts : PyFloat.ofInt left <;> simp_all [Except.map]
          exact ⟨_, adds.symm⟩
  | float left =>
      cases right with
      | int right =>
          rw [add_float_int] at adds
          cases converts : PyFloat.ofInt right <;> simp_all [Except.map]
          exact ⟨_, adds.symm⟩
      | float right => exact ⟨_, (Except.ok.inj adds).symm⟩

theorem intsHold_int_cons :
    IntsHold (.int value :: numbers) ↔ PyFloat.Holds value ∧ IntsHold numbers := by
  simp [IntsHold, or_imp, forall_and]

theorem intsHold_float_cons : IntsHold (.float float :: numbers) ↔ IntsHold numbers := by
  simp [IntsHold]

/-- From a float on, every integer is converted. -/
theorem exists_sum_float :
    (∃ result, sum (.float float) numbers = .ok result) ↔ IntsHold numbers := by
  induction numbers generalizing float with
  | nil => simp [sum, IntsHold]
  | cons number rest ih =>
      cases number with
      | float value => simp [sum, bind, Except.bind, ih, intsHold_float_cons]
      | int value =>
          rw [intsHold_int_cons, sum, add_float_int]
          by_cases holds : PyFloat.Holds value
          · simp [PyFloat.ofInt, holds, Except.map, bind, Except.bind, ih]
          · simp [PyFloat.ofInt, holds, Except.map, bind, Except.bind]

/-- The total of a sum that succeeds. -/
theorem exists_sum_int :
    (∃ result, sum (.int total) numbers = .ok result) ↔ SumFits total numbers := by
  induction numbers generalizing total with
  | nil => simp [sum, SumFits]
  | cons number rest ih =>
      cases number with
      | int value => simp [sum, SumFits, bind, Except.bind, ih]
      | float value =>
          rw [SumFits, sum, add_int_float]
          by_cases holds : PyFloat.Holds total
          · simp [PyFloat.ofInt, holds, Except.map, bind, Except.bind, exists_sum_float]
          · simp [PyFloat.ofInt, holds, Except.map, bind, Except.bind]

/-- A float total stays a float. -/
theorem sum_float (sums : sum (.float float) numbers = .ok result) :
    ∃ value, result = .float value := by
  induction numbers generalizing float with
  | nil => exact ⟨float, (Except.ok.inj sums).symm⟩
  | cons number rest ih =>
      cases number with
      | float value => exact ih sums
      | int value =>
          rw [sum, add_float_int] at sums
          cases converts : PyFloat.ofInt value with
          | error fault => simp [converts, Except.map, bind, Except.bind] at sums
          | ok right =>
              rw [converts] at sums
              exact ih sums

/-- Integers add up to their exact sum, and a list with a float to a float. -/
theorem sum_int (sums : sum (.int total) numbers = .ok result) :
    (∀ exact, exactSum? numbers = some exact → result = .int (total + exact)) ∧
      (exactSum? numbers = none → ∃ value, result = .float value) := by
  induction numbers generalizing total with
  | nil =>
      cases sums
      simp [exactSum?]
  | cons number rest ih =>
      cases number with
      | int value =>
          obtain ⟨exactly, floats⟩ := ih sums
          simp only [exactSum?, Option.map_eq_some_iff, Option.map_eq_none_iff]
          apply And.intro
          · rintro _ ⟨sum, adds, rfl⟩
            rw [exactly sum adds, Int.add_assoc]
          · exact floats
      | float value =>
          rw [sum, add_int_float] at sums
          cases converts : PyFloat.ofInt total with
          | error fault => simp [converts, Except.map, bind, Except.bind] at sums
          | ok left =>
              rw [converts] at sums
              exact ⟨by simp [exactSum?], fun _ => sum_float sums⟩

end Sums

/-! ## Finite numbers -/

/-- The number is finite and stands for a rational. -/
def Is (number : PyNumber) (value : ℚ) : Prop := number.exact = .finite value

theorem Is.lt_eq {left right : PyNumber} {leftValue rightValue : ℚ}
    (isLeft : left.Is leftValue) (isRight : right.Is rightValue) :
    left.lt right = decide (leftValue < rightValue) := by
  rw [lt, isLeft, isRight]
  rfl

end PyNumber

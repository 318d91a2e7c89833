import Mathlib.Logic.Basic

/-!
# Documented exceptions

A function documents the exception it may raise.  Whatever else escapes from it is a
fault of an operation it applied to a value of the wrong shape.  The rules below compute,
for a sequence of operations, when every exception that leaves it is a documented one.
-/

universe u v w

/-- An exception: a documented one, or the fault of an operation. -/
inductive Raised (ε : Type u) (φ : Type v) where
  | documented (error : ε)
  | fault (fault : φ)
  deriving DecidableEq, Repr

/-- A computation that may raise either kind. -/
abbrev Raising (ε : Type u) (φ : Type v) (α : Type w) := Except (Raised ε φ) α

namespace Raising

variable {ε : Type u} {φ : Type v} {α β : Type w}

/-- Nothing but documented exceptions leaves the computation. -/
def Documented (result : Raising ε φ α) : Prop :=
  ∀ fault, result ≠ .error (.fault fault)

/-- Nothing but documented exceptions leaves the computation, and what it returns is good. -/
def Ensures (good : α → Prop) (result : Raising ε φ α) : Prop :=
  Documented result ∧ ∀ value, result = .ok value → good value

/-- The computation returns. -/
def Succeeds (result : Raising ε φ α) : Prop := ∃ value, result = .ok value

/-- Run an operation whose failure is a fault. -/
def lift : Except φ α → Raising ε φ α
  | .ok value => .ok value
  | .error fault => .error (.fault fault)

/-- Raise a documented exception. -/
def fail (error : ε) : Raising ε φ α := .error (.documented error)

/-- Raise a documented exception unless a test holds; composing it may fault. -/
def require (holds : Bool) (error : Except φ ε) : Raising ε φ PUnit :=
  if holds then .ok .unit
  else
    match error with
    | .ok error => .error (.documented error)
    | .error fault => .error (.fault fault)

/-- Put a documented exception in other words. -/
def relabel {ε' : Type u} (rename : ε → ε') : Raising ε φ α → Raising ε' φ α
  | .ok value => .ok value
  | .error (.documented error) => .error (.documented (rename error))
  | .error (.fault fault) => .error (.fault fault)

theorem documented_iff {result : Raising ε φ α} :
    Documented result ↔
      Succeeds result ∨ ∃ error, result = .error (.documented error) := by
  cases result with
  | ok value => simp [Documented, Succeeds]
  | error raised => cases raised <;> simp [Documented, Succeeds]

theorem Succeeds.documented {result : Raising ε φ α} (succeeds : Succeeds result) :
    Documented result :=
  documented_iff.mpr (.inl succeeds)

@[simp] theorem succeeds_ok (value : α) : Succeeds (.ok value : Raising ε φ α) := ⟨value, rfl⟩

@[simp] theorem succeeds_pure (value : α) : Succeeds (pure value : Raising ε φ α) := ⟨value, rfl⟩

@[simp] theorem not_succeeds_fail (error : ε) : ¬ Succeeds (fail error : Raising ε φ α) := by
  rintro ⟨value, same⟩
  cases same

@[simp] theorem documented_ok (value : α) : Documented (.ok value : Raising ε φ α) := by
  intro fault raised
  cases raised

@[simp] theorem documented_pure (value : α) : Documented (pure value : Raising ε φ α) :=
  documented_ok value

@[simp] theorem documented_fail (error : ε) : Documented (fail error : Raising ε φ α) := by
  intro fault raised
  cases raised

@[simp] theorem not_documented_fault (fault : φ) :
    ¬ Documented (.error (.fault fault) : Raising ε φ α) := by
  intro documented
  exact documented fault rfl

@[simp] theorem fail_ne_ok (error : ε) (value : α) :
    (fail error : Raising ε φ α) = .ok value ↔ False := by
  simp [fail]

@[simp] theorem lift_eq_ok {result : Except φ α} {value : α} :
    (lift result : Raising ε φ α) = .ok value ↔ result = .ok value := by
  cases result <;> simp [lift]

/-- An operation run bare must succeed. -/
theorem documented_lift_iff {result : Except φ α} :
    Documented (lift result : Raising ε φ α) ↔ ∃ value, result = .ok value := by
  cases result <;> simp [lift]

@[simp] theorem require_eq_ok {holds : Bool} {error : Except φ ε} {value : PUnit} :
    (require holds error : Raising ε φ PUnit) = .ok value ↔ holds = true := by
  cases holds <;> cases error <;> simp [require]

/-- A test that fails must be able to say so. -/
theorem documented_require_iff {holds : Bool} {error : Except φ ε} :
    Documented (require holds error : Raising ε φ PUnit) ↔
      (holds = false → ∃ composed, error = .ok composed) := by
  cases holds <;> cases error <;> simp [require, Documented]

theorem bind_eq_ok {first : Except φ α} {next : α → Except φ β} {result : β} :
    (first >>= next) = .ok result ↔ ∃ value, first = .ok value ∧ next value = .ok result := by
  cases first with
  | ok value => simp [bind, Except.bind]
  | error raised => simp [bind, Except.bind]

/-- In a sequence the second part matters only where the first one finished. -/
theorem documented_bind_iff {first : Raising ε φ α} {next : α → Raising ε φ β} :
    Documented (first >>= next) ↔
      Documented first ∧ ∀ value, first = .ok value → Documented (next value) := by
  cases first with
  | ok value => simp [bind, Except.bind]
  | error raised => simp [bind, Except.bind, Documented]

/-- The rule for a part whose result does not decide how the rest ends. -/
theorem documented_bind {first : Raising ε φ α} {next : α → Raising ε φ β} {rest : Prop}
    (continues : ∀ value, first = .ok value → (Documented (next value) ↔ rest)) :
    Documented (first >>= next) ↔ Documented first ∧ (Succeeds first → rest) := by
  rw [documented_bind_iff]
  apply and_congr_right
  intro _
  constructor
  · rintro documented ⟨value, finished⟩
    exact (continues value finished).mp (documented value finished)
  · intro holds value finished
    exact (continues value finished).mpr (holds ⟨value, finished⟩)

theorem succeeds_lift_iff {result : Except φ α} :
    Succeeds (lift result : Raising ε φ α) ↔ ∃ value, result = .ok value := by
  simp [Succeeds]

theorem succeeds_bind_iff {first : Raising ε φ α} {next : α → Raising ε φ β} :
    Succeeds (first >>= next) ↔ ∃ value, first = .ok value ∧ Succeeds (next value) := by
  simp only [Succeeds, bind_eq_ok]
  constructor
  · rintro ⟨result, value, finished, same⟩
    exact ⟨value, finished, result, same⟩
  · rintro ⟨value, finished, result, same⟩
    exact ⟨result, value, finished, same⟩

theorem succeeds_bind {first : Raising ε φ α} {next : α → Raising ε φ β} {rest : Prop}
    (continues : ∀ value, first = .ok value → (Succeeds (next value) ↔ rest)) :
    Succeeds (first >>= next) ↔ Succeeds first ∧ rest := by
  rw [succeeds_bind_iff]
  constructor
  · rintro ⟨value, finished, succeeds⟩
    exact ⟨⟨value, finished⟩, (continues value finished).mp succeeds⟩
  · rintro ⟨⟨value, finished⟩, holds⟩
    exact ⟨value, finished, (continues value finished).mpr holds⟩

/-- The rule for a bare operation. -/
theorem documented_lift_bind_iff {first : Except φ α} {next : α → Raising ε φ β} :
    Documented (lift first >>= next) ↔ ∃ value, first = .ok value ∧ Documented (next value) := by
  cases first with
  | ok value => simp [lift, bind, Except.bind]
  | error fault => simp [lift, bind, Except.bind]

theorem succeeds_lift_bind_iff {first : Except φ α} {next : α → Raising ε φ β} :
    Succeeds (lift first >>= next) ↔ ∃ value, first = .ok value ∧ Succeeds (next value) := by
  simp only [succeeds_bind_iff, lift_eq_ok]

/-- The rule for a bare operation whose result does not decide how the rest ends. -/
theorem documented_lift_bind {first : Except φ α} {next : α → Raising ε φ β}
    {shape rest : Prop} (fits : (∃ value, first = .ok value) ↔ shape)
    (continues : ∀ value, first = .ok value → (Documented (next value) ↔ rest)) :
    Documented (lift first >>= next) ↔ shape ∧ rest := by
  rw [documented_bind fun value finished => continues value (lift_eq_ok.mp finished),
    documented_lift_iff, succeeds_lift_iff, fits]
  exact and_congr_right fun holds => forall_prop_of_true holds

theorem succeeds_lift_bind {first : Except φ α} {next : α → Raising ε φ β}
    {shape rest : Prop} (fits : (∃ value, first = .ok value) ↔ shape)
    (continues : ∀ value, first = .ok value → (Succeeds (next value) ↔ rest)) :
    Succeeds (lift first >>= next) ↔ shape ∧ rest := by
  rw [succeeds_bind fun value finished => continues value (lift_eq_ok.mp finished),
    succeeds_lift_iff, fits]

theorem succeeds_require_bind {holds : Bool} {error : Except φ ε}
    {next : PUnit → Raising ε φ β} :
    Succeeds (require holds error >>= next) ↔ holds = true ∧ Succeeds (next .unit) := by
  rw [succeeds_bind_iff]
  constructor
  · rintro ⟨value, passes, succeeds⟩
    exact ⟨require_eq_ok.mp passes, succeeds⟩
  · rintro ⟨passes, succeeds⟩
    exact ⟨.unit, require_eq_ok.mpr passes, succeeds⟩

/-- The rule for a test. -/
theorem documented_require_bind {holds : Bool} {error : Except φ ε}
    {next : PUnit → Raising ε φ β} :
    Documented (require holds error >>= next) ↔
      (holds = false → ∃ composed, error = .ok composed) ∧
        (holds = true → Documented (next .unit)) := by
  rw [documented_bind_iff, documented_require_iff]
  apply and_congr_right
  intro _
  constructor
  · intro documented passes
    exact documented .unit (require_eq_ok.mpr passes)
  · intro documented value passes
    exact documented (require_eq_ok.mp passes)

/-! ### What a result is good for -/

section Ensures

variable {good : β → Prop}

@[simp] theorem ensures_pure_iff {value : β} :
    Ensures good (pure value : Raising ε φ β) ↔ good value := by
  simp [Ensures, pure, Except.pure]

@[simp] theorem ensures_fail (error : ε) : Ensures good (fail error : Raising ε φ β) := by
  simp [Ensures]

theorem ensures_bind_iff {first : Raising ε φ α} {next : α → Raising ε φ β} :
    Ensures good (first >>= next) ↔
      Documented first ∧ ∀ value, first = .ok value → Ensures good (next value) := by
  cases first with
  | ok value => simp [Ensures, bind, Except.bind]
  | error raised => simp [Ensures, bind, Except.bind, Documented]

theorem ensures_lift_bind_iff {first : Except φ α} {next : α → Raising ε φ β} :
    Ensures good (lift first >>= next) ↔
      ∃ value, first = .ok value ∧ Ensures good (next value) := by
  cases first with
  | ok value => simp [lift, bind, Except.bind]
  | error fault => simp [lift, bind, Except.bind, Ensures]

theorem ensures_lift_bind {first : Except φ α} {next : α → Raising ε φ β} {shape rest : Prop}
    (fits : (∃ value, first = .ok value) ↔ shape)
    (continues : ∀ value, first = .ok value → (Ensures good (next value) ↔ rest)) :
    Ensures good (lift first >>= next) ↔ shape ∧ rest := by
  rw [ensures_lift_bind_iff, ← fits]
  constructor
  · rintro ⟨value, finished, ensures⟩
    exact ⟨⟨value, finished⟩, (continues value finished).mp ensures⟩
  · rintro ⟨⟨value, finished⟩, holds⟩
    exact ⟨value, finished, (continues value finished).mpr holds⟩

theorem ensures_require_bind {holds : Bool} {error : Except φ ε}
    {next : PUnit → Raising ε φ β} :
    Ensures good (require holds error >>= next) ↔
      (holds = false → ∃ composed, error = .ok composed) ∧
        (holds = true → Ensures good (next .unit)) := by
  rw [ensures_bind_iff, documented_require_iff]
  apply and_congr_right
  intro _
  constructor
  · intro ensures passes
    exact ensures .unit (require_eq_ok.mpr passes)
  · intro ensures value passes
    exact ensures (require_eq_ok.mp passes)

end Ensures

/-! ### Bare operations in a row -/

theorem exists_bind_iff {first : Except φ α} {next : α → Except φ β} :
    (∃ result, (first >>= next) = .ok result) ↔
      ∃ value, first = .ok value ∧ ∃ result, next value = .ok result := by
  cases first <;> simp [bind, Except.bind]

/-- Every element of a list goes through an operation exactly when none of them faults. -/
theorem mapM_ok_iff {operation : α → Except φ β} {values : List α} :
    (∃ results, values.mapM operation = .ok results) ↔
      ∀ value ∈ values, ∃ result, operation value = .ok result := by
  induction values with
  | nil => simp [pure, Except.pure]
  | cons value rest ih =>
      rw [List.forall_mem_cons, ← ih, List.mapM_cons]
      cases operation value with
      | error fault => simp [bind, Except.bind]
      | ok result =>
          cases rest.mapM operation with
          | error fault => simp [bind, Except.bind]
          | ok results => simp [bind, Except.bind, pure, Except.pure]

/-- The results come from the elements of the list. -/
theorem mem_of_mapM_ok {operation : α → Except φ β} {values : List α} {results : List β}
    (finished : values.mapM operation = .ok results) {result : β} :
    result ∈ results ↔ ∃ value ∈ values, operation value = .ok result := by
  induction values generalizing results with
  | nil =>
      cases finished
      simp
  | cons value rest ih =>
      rw [List.mapM_cons] at finished
      cases first : operation value with
      | error fault => simp [first, bind, Except.bind] at finished
      | ok head =>
          cases others : rest.mapM operation with
          | error fault => simp [first, others, bind, Except.bind] at finished
          | ok tail =>
              simp only [first, others, bind, Except.bind, pure, Except.pure,
                Except.ok.injEq] at finished
              rw [← finished, List.mem_cons, ih others]
              simp [first, eq_comm]

end Raising

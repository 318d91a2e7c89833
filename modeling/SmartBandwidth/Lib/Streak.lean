import Mathlib.Data.List.Basic

/-!
# Streaks

The length of the run of marked events at the end of a history, as the number a counter
holds that grows with each marked event and restarts with each other one.
-/

namespace Streak

/-- The history ends in exactly `count` marked events. -/
def EndsWith (history : List Bool) (count : Nat) : Prop :=
  ∀ length, List.replicate length true <:+ history ↔ length ≤ count

/-- Somewhere in the history `length` marked events follow each other. -/
def Contains (history : List Bool) (length : Nat) : Prop :=
  List.replicate length true <:+: history

theorem endsWith_nil : EndsWith [] 0 := by
  intro length
  cases length <;> simp

/-- A marked event makes the streak at the end longer by one. -/
theorem EndsWith.marked {history : List Bool} {count : Nat}
    (ends : EndsWith history count) : EndsWith (history ++ [true]) (count + 1) := by
  intro length
  cases length with
  | zero => simp
  | succ length =>
      rw [List.replicate_succ', List.suffix_concat_iff]
      simp [ends length]

/-- Any other event ends the streak. -/
theorem endsWith_unmarked (history : List Bool) : EndsWith (history ++ [false]) 0 := by
  intro length
  cases length with
  | zero => simp
  | succ length =>
      rw [List.replicate_succ', List.suffix_concat_iff]
      simp

/-- One more event completes a streak only at the end. -/
theorem contains_concat {history : List Bool} {event : Bool} {count length : Nat}
    (ends : EndsWith (history ++ [event]) count) :
    Contains (history ++ [event]) length ↔ length ≤ count ∨ Contains history length := by
  rw [Contains, List.infix_concat_iff, ends length]
  rfl

theorem not_contains_nil {length : Nat} (positive : 0 < length) : ¬ Contains [] length := by
  simp [Contains, List.replicate_eq_nil_iff, Nat.ne_of_gt positive]

end Streak

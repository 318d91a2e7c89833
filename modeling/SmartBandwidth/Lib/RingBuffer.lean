import Mathlib.Data.List.DropRight

/-!
# Ring buffers

A ring holds the last items appended to it, up to its limit: the oldest item gives way to a
new one, and a ring of limit zero holds nothing.
-/

universe u

/-- A buffer whose items fit its limit. -/
structure RingBuffer (α : Type u) where
  limit : Nat
  items : List α
  bounded : items.length ≤ limit

namespace RingBuffer

variable {α : Type u}

theorem length_rtake (items : List α) (count : Nat) :
    (items.rtake count).length = min items.length count := by
  rw [List.rtake, List.length_drop]
  omega

/-- The empty ring of a limit. -/
def empty (limit : Nat) : RingBuffer α := ⟨limit, [], Nat.zero_le limit⟩

/-- Append an item; the oldest ones give way if there is no room. -/
def append (ring : RingBuffer α) (item : α) : RingBuffer α where
  limit := ring.limit
  items := (ring.items ++ [item]).rtake ring.limit
  bounded := by
    rw [length_rtake]
    exact min_le_right _ _

/-- Remove all items. -/
def clear (ring : RingBuffer α) : RingBuffer α := .empty ring.limit

/-- The ring holds the last items of a log. -/
def Holds (ring : RingBuffer α) (log : List α) : Prop := ring.items = log.rtake ring.limit

theorem empty_holds (limit : Nat) : (empty limit : RingBuffer α).Holds [] :=
  (List.rtake_nil limit).symm

theorem clear_holds (ring : RingBuffer α) : ring.clear.Holds [] := empty_holds ring.limit

theorem rtake_rtake (log : List α) {less more : Nat} (fewer : less ≤ more) :
    (log.rtake more).rtake less = log.rtake less := by
  rw [List.rtake, length_rtake, List.rtake, List.rtake, List.drop_drop]
  congr 1
  omega

/-- The last items of a log need only the last items of what it extends. -/
theorem rtake_append_singleton (log : List α) (item : α) (limit : Nat) :
    (log.rtake limit ++ [item]).rtake limit = (log ++ [item]).rtake limit := by
  cases limit with
  | zero => simp
  | succ limit =>
      rw [List.rtake_concat_succ, List.rtake_concat_succ, rtake_rtake log (Nat.le_succ limit)]

theorem Holds.append {ring : RingBuffer α} {log : List α} (holds : ring.Holds log) (item : α) :
    (ring.append item).Holds (log ++ [item]) := by
  have extended := rtake_append_singleton log item ring.limit
  rw [← holds] at extended
  exact extended

theorem Holds.suffix {ring : RingBuffer α} {log : List α} (holds : ring.Holds log) :
    ring.items <:+ log := by
  rw [holds]
  exact List.drop_suffix _ _

theorem Holds.length_eq {ring : RingBuffer α} {log : List α} (holds : ring.Holds log) :
    ring.items.length = min log.length ring.limit := by
  rw [holds, length_rtake]

end RingBuffer

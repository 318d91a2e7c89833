import Mathlib.Algebra.Order.Field.Rat
import Mathlib.Tactic.Linarith

/-!
# Counters that are reset

A counter shows the events since its last reset.  Two tallies beside it never fall: the events
counted in all, and those that the resets have erased.  The difference of two readings is the
number of events between them if the resets between erased none, or if there were none.
-/

/-- The tallies of a counter. -/
structure ResetCounter where
  counted : Nat
  erased : Nat
  deriving DecidableEq, Repr

namespace ResetCounter

/-- The tallies at the start. -/
def new : ResetCounter where
  counted := 0
  erased := 0

/-- Some events are counted. -/
def count (counter : ResetCounter) (events : Nat) : ResetCounter :=
  { counter with counted := counter.counted + events }

/-- A reset of the counter while it shows some events. -/
def reset (counter : ResetCounter) (shown : Nat) : ResetCounter :=
  { counter with erased := counter.erased + shown }

/-- The counter shows some events, if it showed `base` at the start. -/
def Shows (counter : ResetCounter) (base shown : Nat) : Prop :=
  shown + counter.erased = base + counter.counted

section Shows

variable {counter : ResetCounter} {base shown : Nat}

theorem new_shows (base : Nat) : new.Shows base base := rfl

theorem Shows.count (given : counter.Shows base shown) (events : Nat) :
    (counter.count events).Shows base (shown + events) := by
  simp only [Shows, ResetCounter.count] at given ⊢
  omega

theorem Shows.reset (given : counter.Shows base shown) :
    (counter.reset shown).Shows base 0 := by
  simp only [Shows, ResetCounter.reset] at given ⊢
  omega

end Shows

/-- The tallies of an earlier and of a later time. -/
structure Before (first second : ResetCounter) : Prop where
  counted : first.counted ≤ second.counted
  erased : first.erased ≤ second.erased

namespace Before

variable {first second third : ResetCounter}

theorem refl (counter : ResetCounter) : counter.Before counter := ⟨le_rfl, le_rfl⟩

theorem trans (firstly : first.Before second) (secondly : second.Before third) :
    first.Before third :=
  ⟨firstly.counted.trans secondly.counted, firstly.erased.trans secondly.erased⟩

theorem count (before : first.Before second) (events : Nat) :
    first.Before (second.count events) :=
  ⟨before.counted.trans (Nat.le_add_right _ _), before.erased⟩

theorem reset (before : first.Before second) (shown : Nat) :
    first.Before (second.reset shown) :=
  ⟨before.counted, before.erased.trans (Nat.le_add_right _ _)⟩

end Before

/-- Between two times the resets erased no event, or there was none. -/
def Unerased (first second : ResetCounter) : Prop :=
  second.erased = first.erased ∨ second.counted = first.counted

instance (first second : ResetCounter) : Decidable (first.Unerased second) :=
  inferInstanceAs (Decidable (_ ∨ _))

/-- The growth of a counter, cut off at zero, is the number of the events between its readings
exactly if they are unerased. -/
theorem growth_iff_unerased {first second : ResetCounter} (before : first.Before second)
    {base shown shown' : Nat} (firstShows : first.Shows base shown)
    (secondShows : second.Shows base shown') :
    max 0 ((shown' : ℚ) - shown) = (second.counted : ℚ) - first.counted ↔
      first.Unerased second := by
  have growth : (shown' : ℚ) - shown =
      ((second.counted : ℚ) - first.counted) - ((second.erased : ℚ) - first.erased) := by
    have earlier : (shown : ℚ) + first.erased = base + first.counted := by
      exact_mod_cast firstShows
    have later : (shown' : ℚ) + second.erased = base + second.counted := by
      exact_mod_cast secondShows
    linarith
  have counted : (first.counted : ℚ) ≤ second.counted := by exact_mod_cast before.counted
  have erased : (first.erased : ℚ) ≤ second.erased := by exact_mod_cast before.erased
  rw [growth, Unerased]
  constructor
  · intro same
    rcases eq_or_lt_of_le before.counted with none | some
    · exact .inr none.symm
    · have some : (first.counted : ℚ) < second.counted := by exact_mod_cast some
      rcases max_choice 0 (((second.counted : ℚ) - first.counted) -
        ((second.erased : ℚ) - first.erased)) with cut | grown
      · linarith
      · have kept : (second.erased : ℚ) = first.erased := by linarith
        exact .inl (by exact_mod_cast kept)
  · intro unerased
    rcases unerased with kept | none
    · rw [kept, sub_self, sub_zero]
      exact max_eq_right (by linarith)
    · rw [none, sub_self, zero_sub]
      exact max_eq_left (by linarith)

end ResetCounter

import SmartBandwidth.Lib.Controller
import Mathlib.Dynamics.FixedPoints.Basic

/-!
# Controllers in a closed loop

Several controllers get one signal, from a plant that their values drive.  The signal rises and
falls with the values, and never falls by a larger factor than they do.  If a single decrease cannot
take a high signal below the low threshold, the loop comes to rest after a number of rounds that
does not depend on the plant.
-/

universe u v

/-- What the values of some controllers bring about, as a signal. -/
structure Plant (ι : Type v) (R : Type u) [Field R] [LinearOrder R] where
  signal : (ι → R) → R
  mono : Monotone signal
  scale : ∀ share values, 0 ≤ share → share ≤ 1 →
    share * signal values ≤ signal fun i => share * values i

/-- Controllers with common thresholds and a common factor of decrease. -/
structure ControllerBank (ι : Type v) (R : Type u) [Field R] [LinearOrder R] where
  controller : ι → Controller R
  decrease : R
  low : R
  high : R
  decrease_nonneg : 0 ≤ decrease
  decrease_le_one : decrease ≤ 1
  decrease_eq : ∀ i, (controller i).decrease = decrease
  low_eq : ∀ i, (controller i).low = low
  high_eq : ∀ i, (controller i).high = high

namespace ControllerBank

variable {ι : Type v} {R : Type u} [Field R] [LinearOrder R]

/-- One round: each controller moves its value by the signal of all values. -/
def round (bank : ControllerBank ι R) (plant : Plant ι R) (values : ι → R) : ι → R :=
  fun i => (bank.controller i).next (values i) (plant.signal values)

/-- Every value lies between the bounds of its controller. -/
def Bounded (bank : ControllerBank ι R) (values : ι → R) : Prop :=
  ∀ i, (bank.controller i).Bounded (values i)

/-- Rounds that take every controller from its floor to its ceiling, and back. -/
structure Spans (bank : ControllerBank ι R) (up down : Nat) : Prop where
  up : ∀ i, (bank.controller i).ceiling ≤
    (bank.controller i).floor * (bank.controller i).increase ^ up
  down : ∀ i, (bank.controller i).ceiling * bank.decrease ^ down ≤ (bank.controller i).floor

variable {bank : ControllerBank ι R} {plant : Plant ι R} {values : ι → R}

/-- Below the low threshold each value has climbed to its ceiling, above the high one it has fallen
to its floor, and between them nothing moves. -/
inductive Settled (bank : ControllerBank ι R) (plant : Plant ι R) (values : ι → R) : Prop where
  | saturated (low : plant.signal values < bank.low)
      (ceiling : ∀ i, values i = (bank.controller i).ceiling)
  | relaxed (high : bank.high ≤ plant.signal values)
      (floor : ∀ i, values i = (bank.controller i).floor)
  | inZone (low : bank.low ≤ plant.signal values) (high : plant.signal values < bank.high)

/-- The value of one controller is its answer to the signals so far. -/
theorem iterate_eq_final (values : ι → R) (rounds : Nat) (i : ι) :
    (bank.round plant)^[rounds] values i =
      (bank.controller i).final (values i)
        ((List.range rounds).map fun k => plant.signal ((bank.round plant)^[k] values)) := by
  induction rounds with
  | zero => rfl
  | succ rounds ih =>
      rw [Controller.final] at ih
      rw [Function.iterate_succ_apply', List.range_succ, List.map_append, Controller.final,
        List.foldl_append, ← ih]
      rfl

theorem round_of_inZone (low : bank.low ≤ plant.signal values)
    (high : plant.signal values < bank.high) : Function.IsFixedPt (bank.round plant) values := by
  funext i
  rw [round, Controller.next, bank.low_eq, bank.high_eq, if_neg low.not_gt, if_neg high.not_ge]

theorem iterate_of_fixed {earlier later : Nat} (ordered : earlier ≤ later)
    (rests : Function.IsFixedPt (bank.round plant) ((bank.round plant)^[earlier] values)) :
    (bank.round plant)^[later] values = (bank.round plant)^[earlier] values := by
  obtain ⟨rest, rfl⟩ := Nat.exists_eq_add_of_le' ordered
  rw [Function.iterate_add_apply]
  exact rests.iterate rest

variable [IsStrictOrderedRing R]

theorem Bounded.iterate (bounded : bank.Bounded values) (rounds : Nat) :
    bank.Bounded ((bank.round plant)^[rounds] values) := by
  induction rounds with
  | zero => exact bounded
  | succ rounds ih =>
      rw [Function.iterate_succ_apply']
      exact fun i => Controller.next_bounded (ih i) _

/-- A signal that is not low stays so, if one decrease of a high signal does not make it low. -/
theorem low_le_signal_round (apart : bank.low ≤ bank.decrease * bank.high)
    (low : bank.low ≤ plant.signal values) :
    bank.low ≤ plant.signal (bank.round plant values) := by
  by_cases high : bank.high ≤ plant.signal values
  · have shrunk : (fun i => bank.decrease * values i) ≤ bank.round plant values := by
      intro i
      rw [round, Controller.next, bank.low_eq, bank.high_eq, if_neg low.not_gt, if_pos high,
        bank.decrease_eq, mul_comm]
      exact le_max_left _ _
    calc bank.low
        ≤ bank.decrease * bank.high := apart
      _ ≤ bank.decrease * plant.signal values :=
          mul_le_mul_of_nonneg_left high bank.decrease_nonneg
      _ ≤ plant.signal fun i => bank.decrease * values i :=
          plant.scale _ _ bank.decrease_nonneg bank.decrease_le_one
      _ ≤ plant.signal (bank.round plant values) := plant.mono shrunk
  · rw [round_of_inZone low (not_le.mp high)]
    exact low

/-- Low signals take every value to its ceiling. -/
theorem iterate_of_low {up down : Nat} (spans : bank.Spans up down) (bounded : bank.Bounded values)
    (low : ∀ k < up, plant.signal ((bank.round plant)^[k] values) < bank.low) (i : ι) :
    (bank.round plant)^[up] values i = (bank.controller i).ceiling := by
  rw [iterate_eq_final, Controller.final_of_low (bounded i)]
  · rw [List.length_map, List.length_range]
    apply min_eq_right
    apply (spans.up i).trans
    exact mul_le_mul_of_nonneg_right (bounded i).floor_le
      (pow_nonneg (zero_le_one.trans (bank.controller i).one_le_increase) up)
  · rw [List.forall_mem_map]
    intro k member
    rw [Controller.Low, bank.low_eq]
    exact low k (List.mem_range.mp member)

/-- High signals take every value to its floor. -/
theorem iterate_of_high {up down : Nat} (spans : bank.Spans up down)
    (bounded : bank.Bounded values)
    (low : ∀ k < down, bank.low ≤ plant.signal ((bank.round plant)^[k] values))
    (high : ∀ k < down, bank.high ≤ plant.signal ((bank.round plant)^[k] values)) (i : ι) :
    (bank.round plant)^[down] values i = (bank.controller i).floor := by
  rw [iterate_eq_final, Controller.final_of_high (bounded i)]
  · rw [List.length_map, List.length_range]
    apply max_eq_right
    apply le_trans _ (spans.down i)
    rw [bank.decrease_eq]
    apply mul_le_mul_of_nonneg_right (bounded i).le_ceiling
    exact pow_nonneg bank.decrease_nonneg down
  · rw [List.forall_mem_map]
    intro k member
    rw [Controller.High, bank.low_eq, bank.high_eq]
    exact ⟨(low k (List.mem_range.mp member)).not_gt, high k (List.mem_range.mp member)⟩

/-- Where the values no longer move, they have settled. -/
theorem settled_of_fixed {up down : Nat} (spans : bank.Spans up down)
    (bounded : bank.Bounded values)
    (rests : Function.IsFixedPt (bank.round plant) values) : bank.Settled plant values := by
  have still (k : Nat) : (bank.round plant)^[k] values = values := rests.iterate k
  by_cases low : plant.signal values < bank.low
  · apply Settled.saturated low
    intro i
    rw [← iterate_of_low spans bounded (fun k _ => by rwa [still k]) i, still]
  · by_cases high : bank.high ≤ plant.signal values
    · apply Settled.relaxed high
      intro i
      rw [← iterate_of_high spans bounded (fun k _ => by rwa [still k, ← not_lt])
        (fun k _ => by rwa [still k]) i, still]
    · exact .inZone (not_lt.mp low) (not_le.mp high)

theorem round_of_ceiling (low : plant.signal values < bank.low) (bounded : bank.Bounded values)
    (ceiling : ∀ i, values i = (bank.controller i).ceiling) :
    Function.IsFixedPt (bank.round plant) values := by
  funext i
  have isLow : (bank.controller i).Low (plant.signal values) := by
    rwa [Controller.Low, bank.low_eq]
  rw [round, Controller.next_of_low isLow]
  apply le_antisymm _ (Controller.le_increased (bounded i))
  rw [ceiling i]
  exact min_le_right _ _

theorem round_of_floor (low : bank.low ≤ plant.signal values) (bounded : bank.Bounded values)
    (floor : ∀ i, values i = (bank.controller i).floor) :
    Function.IsFixedPt (bank.round plant) values := by
  by_cases high : bank.high ≤ plant.signal values
  · funext i
    have isHigh : (bank.controller i).High (plant.signal values) := by
      rw [Controller.High, bank.low_eq, bank.high_eq]
      exact ⟨low.not_gt, high⟩
    rw [round, Controller.next_of_high isHigh]
    apply le_antisymm (Controller.decreased_le (bounded i))
    rw [floor i]
    exact le_max_right _ _
  · exact round_of_inZone low (not_le.mp high)

/-- From a signal that is not low, the loop rests once the values can have fallen to the floor. -/
theorem exists_rest_of_not_low {up down : Nat} (spans : bank.Spans up down)
    (apart : bank.low ≤ bank.decrease * bank.high) (bounded : bank.Bounded values)
    (low : bank.low ≤ plant.signal values) :
    ∃ k ≤ down, Function.IsFixedPt (bank.round plant) ((bank.round plant)^[k] values) := by
  have stays (k : Nat) : bank.low ≤ plant.signal ((bank.round plant)^[k] values) := by
    induction k with
    | zero => exact low
    | succ k ih =>
        rw [Function.iterate_succ_apply']
        exact low_le_signal_round apart ih
  by_cases high : ∀ k < down, bank.high ≤ plant.signal ((bank.round plant)^[k] values)
  · refine ⟨down, le_rfl, round_of_floor (stays down) (bounded.iterate down) ?_⟩
    exact iterate_of_high spans bounded (fun k _ => stays k) high
  · push Not at high
    obtain ⟨k, before, inZone⟩ := high
    exact ⟨k, before.le, round_of_inZone (stays k) inZone⟩

/-- However the plant answers, the loop rests after the rounds that all controllers need from floor
to ceiling and back. -/
theorem comes_to_rest {up down : Nat} (spans : bank.Spans up down)
    (apart : bank.low ≤ bank.decrease * bank.high) (plant : Plant ι R)
    (bounded : bank.Bounded values) :
    ∃ rest, bank.Bounded rest ∧ bank.Settled plant rest ∧
      ∀ rounds ≥ up + down, (bank.round plant)^[rounds] values = rest := by
  obtain ⟨k, within, rests⟩ : ∃ k ≤ up + down,
      Function.IsFixedPt (bank.round plant) ((bank.round plant)^[k] values) := by
    by_cases low : ∀ k < up + 1, plant.signal ((bank.round plant)^[k] values) < bank.low
    · -- The values have climbed to the ceiling and the signal is low there.
      refine ⟨up, Nat.le_add_right up down, ?_⟩
      apply round_of_ceiling (low up (Nat.lt_succ_self up)) (bounded.iterate up)
      exact iterate_of_low spans bounded fun k before => low k (before.trans (Nat.lt_succ_self up))
    · push Not at low
      obtain ⟨climbed, before, notLow⟩ := low
      obtain ⟨fallen, within, rests⟩ :=
        exists_rest_of_not_low spans apart (bounded.iterate climbed) notLow
      rw [← Function.iterate_add_apply] at rests
      exact ⟨fallen + climbed, by omega, rests⟩
  refine ⟨_, bounded.iterate k, settled_of_fixed spans (bounded.iterate k) rests, ?_⟩
  intro rounds enough
  exact iterate_of_fixed (within.trans enough) rests

end ControllerBank

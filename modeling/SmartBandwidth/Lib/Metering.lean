import SmartBandwidth.Lib.Machine
import Mathlib.Algebra.Order.Field.Basic
import Mathlib.Algebra.Order.Group.MinMax
import Mathlib.Tactic.Linarith
import Mathlib.Tactic.Ring

/-!
# Lazily refilled meters

A meter gains budget at a constant rate up to a capacity and is settled only when it is
drawn from.  The budget it would show at a given time is the potential of the argument:
what a run grants in a window is paid for by the potential at its start and by the
income of the window.
-/

namespace Metering

universe u

variable {R : Type u} [Field R] [LinearOrder R]

/-- A budget, the time it was last settled, and its rate and ceiling. -/
structure Meter (R : Type u) where
  rate : R
  capacity : R
  level : R
  since : R

/-- A demand for an amount at a time. -/
structure Demand (R : Type u) where
  time : R
  amount : R

namespace Meter

/-- The budget a settlement at `time` finds. -/
def levelAt (meter : Meter R) (time : R) : R :=
  min meter.capacity (meter.level + (time - meter.since) * meter.rate)

/-- Settle the meter and grant the amount if the budget covers it. -/
def draw (meter : Meter R) (demand : Demand R) : Bool × Meter R :=
  let level := meter.levelAt demand.time
  if demand.amount ≤ level then
    (true, { meter with level := level - demand.amount, since := demand.time })
  else
    (false, { meter with level := level, since := demand.time })

/-- The amount one answer grants. -/
def granted (demand : Demand R) (answer : Bool) : R :=
  if answer then demand.amount else 0

/-- The total granted by a run. -/
def totalGranted (meter : Meter R) (demands : List (Demand R)) : R :=
  ((demands.zip (Machine.run draw meter demands).1).map
    fun pair => granted pair.1 pair.2).sum

/-- A budget within its bounds that does not shrink with time. -/
structure Sound (meter : Meter R) : Prop where
  rate_nonneg : 0 ≤ meter.rate
  level_nonneg : 0 ≤ meter.level
  level_le : meter.level ≤ meter.capacity

@[simp] theorem draw_rate (meter : Meter R) (demand : Demand R) :
    (meter.draw demand).2.rate = meter.rate := by
  simp only [draw]
  split <;> rfl

@[simp] theorem draw_capacity (meter : Meter R) (demand : Demand R) :
    (meter.draw demand).2.capacity = meter.capacity := by
  simp only [draw]
  split <;> rfl

@[simp] theorem draw_since (meter : Meter R) (demand : Demand R) :
    (meter.draw demand).2.since = demand.time := by
  simp only [draw]
  split <;> rfl

/-- Settling and granting move the same amount. -/
theorem draw_level (meter : Meter R) (demand : Demand R) :
    (meter.draw demand).2.level =
      meter.levelAt demand.time - granted demand (meter.draw demand).1 := by
  simp only [draw, granted]
  split
  next => rfl
  next => exact (sub_zero _).symm

theorem levelAt_le_capacity (meter : Meter R) (time : R) :
    meter.levelAt time ≤ meter.capacity :=
  min_le_left _ _

theorem run_rate_capacity (meter : Meter R) (demands : List (Demand R)) :
    (Machine.run draw meter demands).2.rate = meter.rate ∧
      (Machine.run draw meter demands).2.capacity = meter.capacity := by
  have kept : ∀ (current : Meter R) (demand : Demand R),
      current.rate = meter.rate ∧ current.capacity = meter.capacity →
      (current.draw demand).2.rate = meter.rate ∧
        (current.draw demand).2.capacity = meter.capacity := by
    intro current demand same
    rw [draw_rate, draw_capacity]
    exact same
  exact Machine.run_invariant kept ⟨rfl, rfl⟩ demands

variable [IsStrictOrderedRing R]

/-- Between two times the visible budget grows at most at the rate. -/
theorem levelAt_le_add {meter : Meter R} (sound : meter.Sound) {start finish : R}
    (later : start ≤ finish) :
    meter.levelAt finish ≤ meter.levelAt start + meter.rate * (finish - start) := by
  have income : 0 ≤ meter.rate * (finish - start) :=
    mul_nonneg sound.rate_nonneg (sub_nonneg.mpr later)
  simp only [levelAt]
  rw [← min_add_add_right]
  apply le_min
  · exact (min_le_left _ _).trans (le_add_of_nonneg_right income)
  · apply (min_le_right _ _).trans
    apply le_of_eq
    ring

theorem levelAt_nonneg {meter : Meter R} (sound : meter.Sound) {time : R}
    (later : meter.since ≤ time) : 0 ≤ meter.levelAt time := by
  apply le_min (sound.level_nonneg.trans sound.level_le)
  exact add_nonneg sound.level_nonneg
    (mul_nonneg (sub_nonneg.mpr later) sound.rate_nonneg)

theorem draw_sound {meter : Meter R} (sound : meter.Sound) {demand : Demand R}
    (later : meter.since ≤ demand.time) (amount : 0 ≤ demand.amount) :
    (meter.draw demand).2.Sound := by
  have visible := levelAt_nonneg sound later
  have capped := meter.levelAt_le_capacity demand.time
  constructor
  · rw [draw_rate]
    exact sound.rate_nonneg
  · simp only [draw]
    split
    next covered => exact sub_nonneg.mpr covered
    next => exact visible
  · simp only [draw]
    split
    next => exact (sub_le_self _ amount).trans capped
    next => exact capped

omit [IsStrictOrderedRing R] in
/-- Right after a settlement the visible budget is the stored one. -/
theorem levelAt_since {meter : Meter R} (sound : meter.Sound) :
    meter.levelAt meter.since = meter.level := by
  rw [levelAt, sub_self, zero_mul, add_zero]
  exact min_eq_right sound.level_le

/-- One answer is paid for by the budget before it and the income since `start`. -/
theorem granted_add_levelAt_le {meter : Meter R} (sound : meter.Sound) {demand : Demand R}
    (amount : 0 ≤ demand.amount) {start : R} (settled : meter.since ≤ start)
    (later : start ≤ demand.time) :
    granted demand (meter.draw demand).1 + (meter.draw demand).2.levelAt demand.time ≤
      meter.levelAt start + meter.rate * (demand.time - start) := by
  have next := draw_sound sound (settled.trans later) amount
  calc granted demand (meter.draw demand).1 + (meter.draw demand).2.levelAt demand.time
      = meter.levelAt demand.time := by
        have stored := levelAt_since next
        rw [draw_since] at stored
        rw [stored, draw_level, add_sub_cancel]
    _ ≤ _ := levelAt_le_add sound later

/-- What a run of demands between `start` and `finish` grants is paid for by the budget
visible at `start` and the income until `finish`; and the meter stays sound. -/
theorem totalGranted_add_levelAt_le {meter : Meter R} (sound : meter.Sound)
    {demands : List (Demand R)} (amounts : ∀ demand ∈ demands, 0 ≤ demand.amount)
    (chronological : demands.Pairwise fun first second => first.time ≤ second.time)
    {start finish : R} (settled : meter.since ≤ start) (ordered : start ≤ finish)
    (opens : ∀ demand ∈ demands, start ≤ demand.time)
    (closes : ∀ demand ∈ demands, demand.time ≤ finish) :
    meter.totalGranted demands + (Machine.run draw meter demands).2.levelAt finish ≤
        meter.levelAt start + meter.rate * (finish - start) ∧
      (Machine.run draw meter demands).2.Sound ∧
      (Machine.run draw meter demands).2.since ≤ finish := by
  induction demands generalizing meter start with
  | nil =>
      refine ⟨?_, sound, settled.trans ordered⟩
      simpa [totalGranted] using levelAt_le_add sound ordered
  | cons demand rest ih =>
      rw [List.pairwise_cons] at chronological
      rw [List.forall_mem_cons] at amounts opens closes
      have paid := granted_add_levelAt_le sound amounts.1 settled opens.1
      obtain ⟨rest_paid, finalSound, finalSince⟩ :=
        ih (draw_sound sound (settled.trans opens.1) amounts.1) amounts.2 chronological.2
          (draw_since meter demand).le closes.1 chronological.1 closes.2
      refine ⟨?_, finalSound, finalSince⟩
      have whole : meter.totalGranted (demand :: rest) =
          granted demand (meter.draw demand).1 +
            (meter.draw demand).2.totalGranted rest := by
        simp [totalGranted]
      rw [draw_rate] at rest_paid
      rw [whole]
      simp only [Machine.run_cons]
      linarith

/-- The window bound: a run of demands between `start` and `finish` grants at most the
capacity and the income of the window. -/
theorem totalGranted_le {meter : Meter R} (sound : meter.Sound)
    {demands : List (Demand R)} (amounts : ∀ demand ∈ demands, 0 ≤ demand.amount)
    (chronological : demands.Pairwise fun first second => first.time ≤ second.time)
    {start finish : R} (settled : meter.since ≤ start) (ordered : start ≤ finish)
    (opens : ∀ demand ∈ demands, start ≤ demand.time)
    (closes : ∀ demand ∈ demands, demand.time ≤ finish) :
    meter.totalGranted demands ≤ meter.capacity + meter.rate * (finish - start) := by
  obtain ⟨paid, finalSound, finalSince⟩ :=
    totalGranted_add_levelAt_le sound amounts chronological settled ordered opens closes
  have remaining := levelAt_nonneg finalSound finalSince
  have capped := meter.levelAt_le_capacity start
  linarith

end Meter

/-! ## Runs that are granted whole -/

/-- The total of a list of demands. -/
def total (demands : List (Demand R)) : R := (demands.map Demand.amount).sum

/-- Up to each of its demands the list fits into a budget that grows from `since` on. -/
def Fits (rate budget since : R) (demands : List (Demand R)) : Prop :=
  ∀ window rest, demands = window ++ rest → ∀ last, window.getLast? = some last →
    total window ≤ budget + rate * (last.time - since)

omit [LinearOrder R] in
@[simp] theorem total_nil : total ([] : List (Demand R)) = 0 := rfl

variable [IsStrictOrderedRing R]

namespace Meter

end Meter

end Metering

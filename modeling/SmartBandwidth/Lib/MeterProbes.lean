import SmartBandwidth.Lib.Metering

/-!
# Probes of a meter

Looking at a meter settles it.  A settlement in between does not change what the meter
shows later, and the first draw after it stores the same budget; so the answers to the
draws of a run depend on the draws alone.
-/

namespace Metering

universe u

variable {R : Type u} [Field R] [LinearOrder R]

namespace Meter

/-- Store the budget that is visible at a time. -/
def settle (meter : Meter R) (time : R) : Meter R :=
  { meter with level := meter.levelAt time, since := time }

/-- What is done to a meter: a draw, or a probe. -/
inductive Operation (R : Type u) where
  | draw (demand : Demand R)
  | probe (time : R)

namespace Operation

/-- When it is done. -/
def time : Operation R → R
  | .draw demand => demand.time
  | .probe time => time

/-- The demand of a draw. -/
def demand? : Operation R → Option (Demand R)
  | .draw demand => some demand
  | .probe _ => none

end Operation

/-- One operation, with the answer to a draw. -/
def operate (meter : Meter R) : Operation R → Option Bool × Meter R
  | .draw demand => (some (meter.draw demand).1, (meter.draw demand).2)
  | .probe time => (none, meter.settle time)

/-- From a time on the two meters show the same. -/
structure AgreeFrom (time : R) (left right : Meter R) : Prop where
  rate : left.rate = right.rate
  capacity : left.capacity = right.capacity
  levelAt : ∀ later, time ≤ later → left.levelAt later = right.levelAt later

theorem AgreeFrom.refl (time : R) (meter : Meter R) : AgreeFrom time meter meter :=
  ⟨rfl, rfl, fun _ _ => rfl⟩

theorem AgreeFrom.mono {time later : R} {left right : Meter R}
    (agree : AgreeFrom time left right) (ordered : time ≤ later) :
    AgreeFrom later left right :=
  ⟨agree.rate, agree.capacity, fun query passed => agree.levelAt query (ordered.trans passed)⟩

/-- A draw stores all it leaves, so two meters that agree are the same after it. -/
theorem AgreeFrom.draw_eq {time : R} {left right : Meter R}
    (agree : AgreeFrom time left right) {demand : Demand R} (passed : time ≤ demand.time) :
    left.draw demand = right.draw demand := by
  have visible := agree.levelAt demand.time passed
  cases left
  cases right
  cases agree.rate
  cases agree.capacity
  simp only [draw, visible]

variable [IsStrictOrderedRing R]

/-- A settlement does not change what the meter shows afterwards. -/
theorem levelAt_settle {meter : Meter R} (rate : 0 ≤ meter.rate) {time later : R}
    (ordered : time ≤ later) : (meter.settle time).levelAt later = meter.levelAt later := by
  have income : 0 ≤ (later - time) * meter.rate := mul_nonneg (sub_nonneg.mpr ordered) rate
  have split : meter.level + (time - meter.since) * meter.rate + (later - time) * meter.rate =
      meter.level + (later - meter.since) * meter.rate := by
    ring
  calc (meter.settle time).levelAt later
      = min meter.capacity (min (meter.capacity + (later - time) * meter.rate)
          (meter.level + (later - meter.since) * meter.rate)) := by
        rw [levelAt, settle, levelAt, ← min_add_add_right, split]
    _ = meter.levelAt later := by
        rw [← min_assoc, min_eq_left (le_add_of_nonneg_right income), levelAt]

theorem AgreeFrom.settle_left {time probed : R} {left right : Meter R}
    (agree : AgreeFrom time left right) (rate : 0 ≤ left.rate) (passed : time ≤ probed) :
    AgreeFrom probed (left.settle probed) right where
  rate := agree.rate
  capacity := agree.capacity
  levelAt := by
    intro later ordered
    rw [levelAt_settle rate ordered]
    exact agree.levelAt later (passed.trans ordered)

/-- The draws of a run are answered as if nothing else had been done, and the meter shows the
same after it. -/
theorem run_operate {left right : Meter R} {time : R} (agree : AgreeFrom time left right)
    (rate : 0 ≤ left.rate) {operations : List (Operation R)}
    (chronological : operations.Pairwise fun first second => first.time ≤ second.time)
    (opens : ∀ operation ∈ operations, time ≤ operation.time) {finish : R}
    (ordered : time ≤ finish) (closes : ∀ operation ∈ operations, operation.time ≤ finish) :
    (Machine.run operate left operations).1.filterMap id =
        (Machine.run draw right (operations.filterMap Operation.demand?)).1 ∧
      AgreeFrom finish (Machine.run operate left operations).2
        (Machine.run draw right (operations.filterMap Operation.demand?)).2 := by
  induction operations generalizing left right time with
  | nil => exact ⟨rfl, agree.mono ordered⟩
  | cons operation rest ih =>
      rw [List.pairwise_cons] at chronological
      rw [List.forall_mem_cons] at opens closes
      cases operation with
      | draw demand =>
          have same := agree.draw_eq opens.1
          have rateNow : 0 ≤ (left.draw demand).2.rate := by
            rw [draw_rate]
            exact rate
          obtain ⟨answers, agreeAfter⟩ := ih (.refl demand.time (left.draw demand).2) rateNow
            chronological.2 chronological.1 closes.1 closes.2
          simp only [Machine.run_cons, List.filterMap_cons, Operation.demand?, ← same]
          exact ⟨congrArg (List.cons (left.draw demand).1) answers, agreeAfter⟩
      | probe probed =>
          obtain ⟨answers, agreeAfter⟩ := ih (agree.settle_left rate opens.1) rate
            chronological.2 chronological.1 closes.1 closes.2
          simp only [Machine.run_cons, List.filterMap_cons, Operation.demand?]
          exact ⟨answers, agreeAfter⟩

omit [Field R] [IsStrictOrderedRing R] in
private theorem exists_le_times (operations : List (Operation R)) (finish : R) :
    ∃ time, time ≤ finish ∧ ∀ operation ∈ operations, time ≤ operation.time := by
  induction operations with
  | nil => exact ⟨finish, le_rfl, fun _ none => absurd none List.not_mem_nil⟩
  | cons operation rest ih =>
      obtain ⟨time, ordered, opens⟩ := ih
      refine ⟨min operation.time time, (min_le_right _ _).trans ordered, ?_⟩
      rw [List.forall_mem_cons]
      exact ⟨min_le_left _ _, fun other later => (min_le_right _ _).trans (opens other later)⟩

/-- Probes in between change neither the answers to the draws nor what the meter shows in the
end. -/
theorem run_probed {meter : Meter R} (rate : 0 ≤ meter.rate) {operations : List (Operation R)}
    (chronological : operations.Pairwise fun first second => first.time ≤ second.time)
    {finish : R} (closes : ∀ operation ∈ operations, operation.time ≤ finish) :
    (Machine.run operate meter operations).1.filterMap id =
        (Machine.run draw meter (operations.filterMap Operation.demand?)).1 ∧
      (Machine.run operate meter operations).2.levelAt finish =
        (Machine.run draw meter (operations.filterMap Operation.demand?)).2.levelAt finish := by
  obtain ⟨time, ordered, opens⟩ := exists_le_times operations finish
  obtain ⟨answers, agree⟩ :=
    run_operate (.refl time meter) rate chronological opens ordered closes
  exact ⟨answers, agree.levelAt finish le_rfl⟩

end Meter

end Metering

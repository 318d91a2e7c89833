import SmartBandwidth.Value.Coherence
import SmartBandwidth.Lib.Controller

/-!
# The tuner as a controller

Of all that a tuner and its policy keep, the coefficient of one rule depends on one number.
Every call moves this number as a bounded multiplicative controller moves its value, with the
static coefficient as the floor.
-/

namespace SmartBandwidth

open TunedPolicy

/-- The controller that a tuner is for a static coefficient within its bounds. -/
def ValueCoefficientTuner.controller (tuner : ValueCoefficientTuner) {base : ℚ}
    (nonneg : 0 ≤ base) (le_max : base ≤ tuner.maxCoeff) : Controller ℚ where
  increase := tuner.boostFactor
  decrease := tuner.decayFactor
  floor := base
  ceiling := tuner.maxCoeff
  low := tuner.violation
  high := tuner.perfection
  one_le_increase := tuner.one_le_boostFactor
  decrease_nonneg := tuner.decayFactor_nonneg
  decrease_le_one := tuner.decayFactor_le_one
  floor_nonneg := nonneg
  floor_le_ceiling := le_max

/-- The efficiency that a call reports for the rules of a name. -/
def TunerCall.percent? (ruleName : String) : TunerCall → Option ℚ
  | .observe observedName deliveredRate slaMinRate =>
      if observedName = ruleName then
        some (ValueCoefficientTuner.efficiency deliveredRate slaMinRate)
      else
        none
  | .observeContract observedName deliveredRate contract =>
      if observedName = ruleName then
        some (ValueCoefficientTuner.efficiency deliveredRate contract.minValueRatePerSec)
      else
        none
  | .reset _ => none
  | .resetAll => none

namespace ValueCoefficientTuner

/-- The tuner works with the parameters of the controller. -/
structure Runs (controller : Controller ℚ) (tuner : ValueCoefficientTuner) : Prop where
  increase : tuner.boostFactor = controller.increase
  decrease : tuner.decayFactor = controller.decrease
  ceiling : tuner.maxCoeff = controller.ceiling
  low : tuner.violation = controller.low
  high : tuner.perfection = controller.high

/-- The coefficient of the rules of a name is the value of a controller. -/
structure Follows (controller : Controller ℚ) (ruleName : String) (value : ℚ)
    (shared : TunedPolicy) : Prop where
  runs : Runs controller shared.1
  tuned : Tuned shared ruleName controller.floor
  static : shared.2.staticCoefficient ruleName = controller.floor
  live : shared.live ruleName controller.floor = value

variable {controller : Controller ℚ} {ruleName : String} {value : ℚ} {shared : TunedPolicy}

theorem adjust_next {tuner : ValueCoefficientTuner} (runs : Runs controller tuner)
    {state : TunerState} (base : state.baseCoefficient = controller.floor) (percent : ℚ) :
    (tuner.adjust state percent).currentCoefficient =
      controller.next state.currentCoefficient percent := by
  simp only [adjust, Controller.next, runs.low, runs.high, runs.increase, runs.decrease,
    runs.ceiling, base]
  split
  next => rfl
  next =>
    split
    next => rfl
    next => rfl

theorem Runs.withStates {tuner : ValueCoefficientTuner} (runs : Runs controller tuner)
    (states : Dict String TunerState) : Runs controller { tuner with states := states } :=
  ⟨runs.increase, runs.decrease, runs.ceiling, runs.low, runs.high⟩

theorem reset_runs (runs : Runs controller shared.1) (resetName : String) :
    Runs controller (shared.1.reset shared.2 resetName).1 := by
  rw [reset]
  split
  next => exact runs.withStates _
  next => exact runs

theorem observe_runs (runs : Runs controller shared.1) (observedName : String)
    (deliveredRate slaMinRate : ℚ) :
    Runs controller (shared.1.observe shared.2 observedName deliveredRate slaMinRate).2.1 := by
  rw [observe_eq]
  exact runs.withStates _

/-- No call changes a parameter. -/
theorem call_runs (runs : Runs controller shared.1) (call : TunerCall) :
    Runs controller (ValueCoefficientTuner.call shared call).2.1 := by
  cases call with
  | observe observedName deliveredRate slaMinRate =>
      exact observe_runs runs observedName deliveredRate slaMinRate
  | observeContract observedName deliveredRate contract =>
      exact observe_runs runs observedName deliveredRate contract.minValueRatePerSec
  | reset resetName => exact reset_runs runs resetName
  | resetAll =>
      exact resetAll_induction (fun current => Runs controller current.1)
        (fun _ name before => reset_runs before name) runs

/-! ## One call -/

/-- The value after a call: observations of the name signal, resets return to the floor, and
calls on other names do nothing. -/
def track (controller : Controller ℚ) (ruleName : String) (value : ℚ) : TunerCall → ℚ
  | .observe observedName deliveredRate slaMinRate =>
      if observedName = ruleName then
        controller.next value (efficiency deliveredRate slaMinRate)
      else
        value
  | .observeContract observedName deliveredRate contract =>
      if observedName = ruleName then
        controller.next value (efficiency deliveredRate contract.minValueRatePerSec)
      else
        value
  | .reset resetName => if resetName = ruleName then controller.floor else value
  | .resetAll => controller.floor

/-- An observation of the name answers with the next value and leaves it. -/
theorem observe_next (follows : Follows controller ruleName value shared)
    (deliveredRate slaMinRate : ℚ) :
    (shared.1.observe shared.2 ruleName deliveredRate slaMinRate).1 =
        controller.next value (efficiency deliveredRate slaMinRate) ∧
      live (shared.1.observe shared.2 ruleName deliveredRate slaMinRate).2 ruleName
        controller.floor = controller.next value (efficiency deliveredRate slaMinRate) := by
  obtain ⟨baseEq, currentEq⟩ := found_of_tuned follows.tuned follows.static
  have adjusted : (observed shared ruleName deliveredRate slaMinRate).currentCoefficient =
      controller.next value (efficiency deliveredRate slaMinRate) := by
    rw [observed, adjust_next follows.runs baseEq, currentEq, follows.live]
  constructor
  · rw [observe_answer, adjusted]
  · rw [live_observe follows.tuned controller.floor_nonneg follows.static, adjusted]

theorem live_observe_track (follows : Follows controller ruleName value shared)
    (observedName : String) (deliveredRate slaMinRate : ℚ) :
    live (shared.1.observe shared.2 observedName deliveredRate slaMinRate).2 ruleName
      controller.floor =
        if observedName = ruleName then
          controller.next value (efficiency deliveredRate slaMinRate)
        else
          value := by
  split
  next same =>
    subst same
    exact (observe_next follows deliveredRate slaMinRate).2
  next other =>
    have records := observe_sameRecords shared observedName deliveredRate slaMinRate (Ne.symm other)
    rw [live, records.overrides]
    exact follows.live

/-- Every call moves the coefficient as the controller moves its value. -/
theorem call_follows (follows : Follows controller ruleName value shared) (call : TunerCall) :
    Follows controller ruleName (track controller ruleName value call)
      (ValueCoefficientTuner.call shared call).2 where
  runs := call_runs follows.runs call
  tuned := call_tuned follows.tuned controller.floor_nonneg follows.static call
  static := (staticCoefficient_of_sameRules (call_sameRules shared call) ruleName).trans
    follows.static
  live := by
    cases call with
    | observe observedName deliveredRate slaMinRate =>
        exact live_observe_track follows observedName deliveredRate slaMinRate
    | observeContract observedName deliveredRate contract =>
        exact live_observe_track follows observedName deliveredRate contract.minValueRatePerSec
    | reset resetName =>
        rw [track, ValueCoefficientTuner.call]
        split
        next same =>
          subst same
          rw [TunedPolicy.live, reset_overrides follows.tuned, Option.getD_none]
        next other =>
          have records := reset_sameRecords shared resetName (Ne.symm other)
          rw [TunedPolicy.live, records.overrides]
          exact follows.live
    | resetAll =>
        rw [TunedPolicy.live, ValueCoefficientTuner.call, resetAll_overrides follows.tuned]
        rfl

/-! ## Runs -/

theorem run_follows (follows : Follows controller ruleName value shared)
    (calls : List TunerCall) :
    Follows controller ruleName (calls.foldl (track controller ruleName) value)
      (Machine.run ValueCoefficientTuner.call shared calls).2 := by
  induction calls generalizing shared value with
  | nil => exact follows
  | cons call rest ih => exact ih (call_follows follows call)

/-- A fresh tuner follows the controller from the static coefficient on. -/
theorem fresh_follows {tuner : ValueCoefficientTuner} {policy : FlowValuePolicy}
    (unseen : tuner.states = .empty) (unset : policy.overrides = .empty) (ruleName : String)
    (nonneg : 0 ≤ policy.staticCoefficient ruleName)
    (le_max : policy.staticCoefficient ruleName ≤ tuner.maxCoeff) :
    Follows (tuner.controller nonneg le_max) ruleName (policy.staticCoefficient ruleName)
      (tuner, policy) where
  runs := ⟨rfl, rfl, rfl, rfl, rfl⟩
  tuned := tuned_fresh unseen unset le_max ruleName
  static := rfl
  live := by
    rw [TunedPolicy.live, unset]
    rfl

theorem Follows.bounded (follows : Follows controller ruleName value shared) :
    controller.Bounded value where
  floor_le := follows.tuned.base_le.trans_eq follows.live
  le_ceiling := by
    rw [← follows.live, ← follows.runs.ceiling]
    exact follows.tuned.le_max

/-- Packets that match a rule with the static coefficient first get the value. -/
theorem Follows.getCoefficient {rule : PolicyRule}
    (follows : Follows controller rule.name value shared)
    (static : rule.valueCoefficient = controller.floor) (rt : Runtime) {packet : Packet}
    {index : Nat} (first : shared.2.matchingRule rt packet = some (index, rule)) :
    shared.2.getCoefficient rt packet = value := by
  rw [getCoefficient_of_matchingRule rt rfl first, static]
  exact follows.live

end ValueCoefficientTuner

end SmartBandwidth

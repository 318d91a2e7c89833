import SmartBandwidth.Value.FloatCoefficients
import SmartBandwidth.Value.Operator

/-!
# Exact coefficients among the floats

Where every number is finite, the value policy and the tuner over floats do what the exact
ones do: the embedding of the exact state commutes with every call.
-/

namespace SmartBandwidth

/-! ## The embedding -/

/-- A rule whose numbers are finite. -/
def PolicyRule.toFloats (rule : PolicyRule) : LoadedRule where
  name := rule.name
  priority := rule.priority
  ports := rule.ports
  protocols := rule.protocols
  payloadPattern := rule.payloadPattern.map .str
  bandwidthMinPct := .finite rule.bandwidthMinPct
  description := rule.description
  valueCoefficient := .finite rule.valueCoefficient

/-- A value policy whose numbers are finite. -/
def FlowValuePolicy.toFloats (policy : FlowValuePolicy) : FloatValuePolicy where
  rules := policy.rules.map PolicyRule.toFloats
  defaultCoefficient := .finite policy.defaultCoefficient
  overrides := policy.overrides.map .finite

/-- A tuner state whose numbers are finite. -/
def TunerState.toFloats (state : TunerState) : FloatTunerState where
  ruleName := state.ruleName
  baseCoefficient := .finite state.baseCoefficient
  currentCoefficient := .finite state.currentCoefficient
  boostCount := state.boostCount
  decayCount := state.decayCount

/-- A tuner whose numbers are finite. -/
def ValueCoefficientTuner.toFloats (tuner : ValueCoefficientTuner) : FloatTuner where
  boostFactor := .finite tuner.boostFactor
  decayFactor := .finite tuner.decayFactor
  maxCoeff := .finite tuner.maxCoeff
  perfection := .finite tuner.perfection
  violation := .finite tuner.violation
  states := tuner.states.map TunerState.toFloats

/-- A tuner and its policy. -/
def TunedPolicy.toFloats (shared : TunedPolicy) : FloatTuner × FloatValuePolicy :=
  (shared.1.toFloats, shared.2.toFloats)

/-- A call with finite numbers. -/
def CoefficientCall.toFloats : CoefficientCall → FloatCoefficientCall
  | .setOverride ruleName coefficient => .setOverride ruleName (.finite coefficient)
  | .clearOverride ruleName => .clearOverride ruleName
  | .tuner (.observe ruleName deliveredRate slaMinRate) =>
      .observe ruleName (.finite deliveredRate) (.finite slaMinRate)
  | .tuner (.observeContract ruleName deliveredRate contract) =>
      .observe ruleName (.finite deliveredRate) (.finite contract.minValueRatePerSec)
  | .tuner (.reset ruleName) => .reset ruleName
  | .tuner .resetAll => .resetAll

/-! ## The value policy -/

namespace FlowValuePolicy

theorem init_toFloats (rules : List PolicyRule) (defaultCoefficient : ℚ) :
    (init rules defaultCoefficient).toFloats =
      .init (rules.map PolicyRule.toFloats) (.finite defaultCoefficient) := by
  rw [FloatValuePolicy.init, PyFloat.maximum_finite]
  rfl

theorem presetCoefficient_toFloats (revenueScale : ℚ) (preset : TrafficPreset) :
    FloatValuePolicy.presetCoefficient (.finite revenueScale) preset =
      .finite (if max 0 revenueScale = 1 then preset.valueCoefficient
        else preset.valueCoefficient * max 0 revenueScale) := by
  rw [FloatValuePolicy.presetCoefficient, PyFloat.maximum_finite, apply_ite PyFloat.finite]
  simp [PyFloat.mul]

/-- A guide scales every preset; a scale of one changes none. -/
theorem presets_eq (guide : ValueCoefficientsGuide) :
    guide.presets = trafficPresets.map fun preset =>
      { preset with
        valueCoefficient := if guide.scale = 1 then preset.valueCoefficient
          else preset.valueCoefficient * guide.scale } := by
  rw [ValueCoefficientsGuide.presets]
  split
  next => exact (List.map_id _).symm
  next => rfl

/-- The presets give the same policy. -/
theorem fromPresets_toFloats (revenueScale : ℚ) (overrides : Dict String ℚ) :
    (fromPresets revenueScale overrides).toFloats =
      .fromPresets (.finite revenueScale) (overrides.map .finite) := by
  have rules : ((ValueCoefficientsGuide.init revenueScale).presets.map
      (TrafficPreset.toRule overrides)).map PolicyRule.toFloats =
        trafficPresets.map (FloatValuePolicy.presetRule (.finite revenueScale)
          (overrides.map .finite)) := by
    rw [presets_eq, List.map_map, List.map_map]
    apply List.map_congr_left
    intro preset _
    simp only [Function.comp_apply, TrafficPreset.toRule, PolicyRule.toFloats,
      FloatValuePolicy.presetRule, Dict.get?_map, presetCoefficient_toFloats]
    cases overrides.get? preset.name <;> rfl
  rw [fromPresets, init_toFloats, rules]
  rfl

theorem matchingRule_toFloats (rt : Runtime) (policy : FlowValuePolicy) (packet : Packet) :
    policy.toFloats.matchingRule rt packet =
      (policy.matchingRule rt packet).map fun found => (found.1, found.2.toFloats) := by
  rw [FloatValuePolicy.matchingRule, matchingRule]
  exact FirstMatch.firstMatch_map (fun _ => rfl) policy.rules

/-- A packet gets the same coefficient. -/
theorem getCoefficient_toFloats (rt : Runtime) (policy : FlowValuePolicy) (packet : Packet) :
    policy.toFloats.getCoefficient rt packet = .finite (policy.getCoefficient rt packet) := by
  rw [FloatValuePolicy.getCoefficient, matchingRule_toFloats, getCoefficient]
  cases policy.matchingRule rt packet with
  | none => rfl
  | some found =>
      have stored : policy.toFloats.overrides.get? found.2.name =
          (policy.overrides.get? found.2.name).map .finite := Dict.get?_map _ _ _
      simp only [Option.map_some, PolicyRule.toFloats, stored]
      cases policy.overrides.get? found.2.name <;> rfl

theorem setOverride_toFloats (policy : FlowValuePolicy) (ruleName : String) (coefficient : ℚ) :
    (policy.setOverride ruleName coefficient).toFloats =
      policy.toFloats.setOverride ruleName (.finite coefficient) := by
  rw [FloatValuePolicy.setOverride, PyFloat.maximum_finite, setOverride, toFloats, Dict.map_set]
  rfl

theorem clearOverride_toFloats (policy : FlowValuePolicy) (ruleName : String) :
    (policy.clearOverride ruleName).toFloats = policy.toFloats.clearOverride ruleName := by
  rw [FloatValuePolicy.clearOverride, clearOverride, toFloats, Dict.map_erase]
  rfl

theorem staticCoefficient_toFloats (policy : FlowValuePolicy) (ruleName : String) :
    FloatTuner.staticCoefficient policy.toFloats ruleName =
      .finite (policy.staticCoefficient ruleName) := by
  have first : policy.toFloats.rules.find? (fun rule => rule.name = ruleName) =
      (policy.rules.find? fun rule => rule.name = ruleName).map PolicyRule.toFloats :=
    List.find?_map
  rw [FloatTuner.staticCoefficient, staticCoefficient, first]
  cases policy.rules.find? fun rule => rule.name = ruleName <;> rfl

end FlowValuePolicy

/-! ## The tuner -/

namespace ValueCoefficientTuner

theorem init_toFloats (boostFactor decayFactor maxCoefficient perfectionThresholdPct
    violationThresholdPct : ℚ) :
    (init boostFactor decayFactor maxCoefficient perfectionThresholdPct
        violationThresholdPct).toFloats =
      .init (.finite boostFactor) (.finite decayFactor) (.finite maxCoefficient)
        (.finite perfectionThresholdPct) (.finite violationThresholdPct) := by
  simp only [FloatTuner.init, PyFloat.maximum_finite, PyFloat.minimum_finite]
  rfl

theorem createState_toFloats (policy : FlowValuePolicy) (ruleName : String) :
    FloatTuner.createState policy.toFloats ruleName = (createState policy ruleName).toFloats := by
  have stored : policy.toFloats.getOverride ruleName =
      (policy.getOverride ruleName).map .finite := Dict.get?_map _ _ _
  rw [FloatTuner.createState, createState, stored, policy.staticCoefficient_toFloats]
  cases policy.getOverride ruleName with
  | none => rfl
  | some override => simp [TunerState.toFloats, apply_ite PyFloat.finite]

theorem found_toFloats (shared : TunedPolicy) (ruleName : String) :
    shared.1.toFloats.found shared.2.toFloats ruleName = (found shared ruleName).toFloats := by
  rw [FloatTuner.found, createState_toFloats, found, getOrCreateState, toFloats, Dict.get?_map]
  cases shared.1.states.get? ruleName <;> rfl

theorem efficiency_toFloats (deliveredRate slaMinRate : ℚ) :
    FloatTuner.efficiency (.finite deliveredRate) (.finite slaMinRate) =
      .finite (efficiency deliveredRate slaMinRate) := by
  by_cases positive : 0 < slaMinRate
  · rw [FloatTuner.efficiency, if_pos (PyFloat.lt_finite_iff.mpr positive), efficiency,
      if_pos positive, PyFloat.mul, PyFloat.div_finite positive.ne']
    rfl
  · rw [FloatTuner.efficiency, if_neg (mt PyFloat.lt_finite_iff.mp positive), efficiency,
      if_neg positive]

theorem adjust_toFloats (tuner : ValueCoefficientTuner) (state : TunerState) (percent : ℚ) :
    tuner.toFloats.adjust state.toFloats (.finite percent) =
      (tuner.adjust state percent).toFloats := by
  have below : (PyFloat.finite percent).lt tuner.toFloats.violation = true ↔
      percent < tuner.violation := PyFloat.lt_finite_iff
  have above : tuner.toFloats.perfection.le (.finite percent) = true ↔
      tuner.perfection ≤ percent := PyFloat.le_finite_iff
  simp only [FloatTuner.adjust, adjust, below, above]
  split
  next => simp [TunerState.toFloats, toFloats, PyFloat.mul, PyFloat.minimum_finite]
  next =>
    split
    next => simp [TunerState.toFloats, toFloats, PyFloat.mul, PyFloat.maximum_finite]
    next => rfl

theorem setState_toFloats (tuner : ValueCoefficientTuner) (ruleName : String)
    (state : TunerState) :
    { tuner.toFloats with states := tuner.toFloats.states.set ruleName state.toFloats } =
      { tuner with states := tuner.states.set ruleName state }.toFloats := by
  simp only [toFloats, Dict.map_set]

theorem observe_toFloats (shared : TunedPolicy) (ruleName : String)
    (deliveredRate slaMinRate : ℚ) :
    shared.1.toFloats.observe shared.2.toFloats ruleName (.finite deliveredRate)
        (.finite slaMinRate) =
      TunedPolicy.toFloats (shared.1.observe shared.2 ruleName deliveredRate slaMinRate).2 := by
  rw [FloatTuner.observe, found_toFloats, efficiency_toFloats, adjust_toFloats, observe_eq]
  apply Prod.ext
  · exact setState_toFloats shared.1 ruleName (observed shared ruleName deliveredRate slaMinRate)
  · exact (shared.2.setOverride_toFloats ruleName _).symm

theorem reset_toFloats (shared : TunedPolicy) (ruleName : String) :
    shared.1.toFloats.reset shared.2.toFloats ruleName =
      TunedPolicy.toFloats (shared.1.reset shared.2 ruleName) := by
  have stored : shared.1.toFloats.states.get? ruleName =
      (shared.1.states.get? ruleName).map TunerState.toFloats := Dict.get?_map _ _ _
  rw [FloatTuner.reset, reset, stored]
  cases shared.1.states.get? ruleName with
  | none => rfl
  | some state =>
      apply Prod.ext
      · exact setState_toFloats shared.1 ruleName (resetState state)
      · exact (shared.2.clearOverride_toFloats ruleName).symm

theorem resetAll_toFloats (shared : TunedPolicy) :
    shared.1.toFloats.resetAll shared.2.toFloats =
      TunedPolicy.toFloats (shared.1.resetAll shared.2) := by
  have keys : shared.1.toFloats.states.keys = shared.1.states.keys := Dict.keys_map _ _
  rw [FloatTuner.resetAll, resetAll, keys]
  clear keys
  generalize shared.1.states.keys = names
  induction names generalizing shared with
  | nil => rfl
  | cons name names ih =>
      rw [List.foldl_cons, List.foldl_cons, reset_toFloats]
      exact ih (shared.1.reset shared.2 name)

theorem operate_toFloats (shared : TunedPolicy) (call : CoefficientCall) :
    FloatTuner.call shared.toFloats call.toFloats = ((), (operate shared call).2.toFloats) := by
  cases call with
  | setOverride ruleName coefficient =>
      have policies := shared.2.setOverride_toFloats ruleName coefficient
      exact congrArg (fun policy => ((), shared.1.toFloats, policy)) policies.symm
  | clearOverride ruleName =>
      have policies := shared.2.clearOverride_toFloats ruleName
      exact congrArg (fun policy => ((), shared.1.toFloats, policy)) policies.symm
  | tuner call =>
      cases call with
      | observe ruleName deliveredRate slaMinRate =>
          exact congrArg _ (observe_toFloats shared ruleName deliveredRate slaMinRate)
      | observeContract ruleName deliveredRate contract =>
          exact congrArg _
            (observe_toFloats shared ruleName deliveredRate contract.minValueRatePerSec)
      | reset ruleName => exact congrArg _ (reset_toFloats shared ruleName)
      | resetAll => exact congrArg _ (resetAll_toFloats shared)

/-- Calls with finite numbers lead the floats where they lead the exact numbers. -/
theorem run_toFloats (shared : TunedPolicy) (calls : List CoefficientCall) :
    (Machine.run FloatTuner.call shared.toFloats (calls.map CoefficientCall.toFloats)).2 =
      TunedPolicy.toFloats (Machine.run operate shared calls).2 := by
  induction calls generalizing shared with
  | nil => rfl
  | cons call rest ih =>
      rw [List.map_cons, Machine.run_cons, operate_toFloats]
      exact ih (operate shared call).2

end ValueCoefficientTuner

end SmartBandwidth

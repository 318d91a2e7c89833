import SmartBandwidth.Value.Coherence
import SmartBandwidth.Value.Presets
import SmartBandwidth.Policy.Loader

/-!
# Coefficients as floats

A policy file may give a coefficient that is infinite or `nan`, and so may a caller.  This
is the value policy with its tuner over such floats; where every number is finite it does
what the exact one does.
-/

namespace SmartBandwidth

/-- `FlowValuePolicy`, over the rules that the loader makes. -/
structure FloatValuePolicy where
  rules : List LoadedRule
  defaultCoefficient : PyFloat
  overrides : Dict String PyFloat

namespace FloatValuePolicy

/-- `__init__`. -/
def init (rules : List LoadedRule) (defaultCoefficient : PyFloat := .finite 1) :
    FloatValuePolicy where
  rules := rules
  defaultCoefficient := .maximum (.finite 0) defaultCoefficient
  overrides := .empty

/-- `from_policy`. -/
def fromPolicy (policy : LoadedPolicy) (defaultCoefficient : PyFloat := .finite 1) :
    FloatValuePolicy :=
  init policy.rules defaultCoefficient

/-- `_rule_matches`. -/
def ruleMatches (rt : Runtime) (packet : Packet) (rule : LoadedRule) : Bool :=
  headerMatches rt.lower rule.ports rule.protocols packet

/-- The rule whose coefficient a packet gets and its position in the table. -/
def matchingRule (rt : Runtime) (policy : FloatValuePolicy) (packet : Packet) :
    Option (Nat × LoadedRule) :=
  FirstMatch.firstMatch (ruleMatches rt packet) policy.rules

/-- `get_coefficient`. -/
def getCoefficient (rt : Runtime) (policy : FloatValuePolicy) (packet : Packet) : PyFloat :=
  match policy.matchingRule rt packet with
  | some (_, rule) => (policy.overrides.get? rule.name).getD rule.valueCoefficient
  | none => policy.defaultCoefficient

theorem getCoefficient_of_matchingRule {rt : Runtime} {policy : FloatValuePolicy}
    {packet : Packet} {index : Nat} {rule : LoadedRule}
    (first : policy.matchingRule rt packet = some (index, rule)) :
    policy.getCoefficient rt packet =
      (policy.overrides.get? rule.name).getD rule.valueCoefficient := by
  rw [getCoefficient, first]

/-- `set_override`. -/
def setOverride (policy : FloatValuePolicy) (ruleName : String) (coefficient : PyFloat) :
    FloatValuePolicy :=
  { policy with overrides := policy.overrides.set ruleName (.maximum (.finite 0) coefficient) }

/-- `get_override`. -/
def getOverride (policy : FloatValuePolicy) (ruleName : String) : Option PyFloat :=
  policy.overrides.get? ruleName

/-- `clear_override`. -/
def clearOverride (policy : FloatValuePolicy) (ruleName : String) : FloatValuePolicy :=
  { policy with overrides := policy.overrides.erase ruleName }

/-- The coefficients that a guide with this revenue scale gives to a preset. -/
def presetCoefficient (revenueScale : PyFloat) (preset : TrafficPreset) : PyFloat :=
  let scale := PyFloat.maximum (.finite 0) revenueScale
  if scale = .finite 1 then .finite preset.valueCoefficient
  else (PyFloat.finite preset.valueCoefficient).mul scale

/-- The rule `from_presets` makes of a preset. -/
def presetRule (revenueScale : PyFloat) (overrides : Dict String PyFloat)
    (preset : TrafficPreset) : LoadedRule where
  name := preset.name
  priority := preset.priority
  ports := preset.ports
  protocols := preset.protocols
  payloadPattern := none
  bandwidthMinPct := .finite 0
  description := preset.description
  valueCoefficient :=
    (overrides.get? preset.name).getD (presetCoefficient revenueScale preset)

/-- `from_presets`. -/
def fromPresets (revenueScale : PyFloat := .finite 1)
    (overrides : Dict String PyFloat := .empty) : FloatValuePolicy :=
  init (trafficPresets.map (presetRule revenueScale overrides)) (.finite 1)

end FloatValuePolicy

/-- `_TunerState`. -/
structure FloatTunerState where
  ruleName : String
  baseCoefficient : PyFloat
  currentCoefficient : PyFloat
  boostCount : Nat := 0
  decayCount : Nat := 0

/-- `ValueCoefficientTuner`. -/
structure FloatTuner where
  boostFactor : PyFloat
  decayFactor : PyFloat
  maxCoeff : PyFloat
  perfection : PyFloat
  violation : PyFloat
  states : Dict String FloatTunerState

namespace FloatTuner

/-- `__init__`. -/
def init (boostFactor : PyFloat := .finite (6 / 5)) (decayFactor : PyFloat := .finite (95 / 100))
    (maxCoefficient : PyFloat := .finite 10000)
    (perfectionThresholdPct : PyFloat := .finite (995 / 10))
    (violationThresholdPct : PyFloat := .finite 90) : FloatTuner where
  boostFactor := .maximum (.finite 1) boostFactor
  decayFactor := .minimum (.finite 1) (.maximum (.finite 0) decayFactor)
  maxCoeff := .maximum (.finite 0) maxCoefficient
  perfection := .minimum (.finite 100) (.maximum (.finite 0) perfectionThresholdPct)
  violation := .minimum (.finite 100) (.maximum (.finite 0) violationThresholdPct)
  states := .empty

/-- The coefficient `_get_or_create_state` finds for a name. -/
def staticCoefficient (policy : FloatValuePolicy) (ruleName : String) : PyFloat :=
  match policy.rules.find? fun rule => rule.name = ruleName with
  | some rule => rule.valueCoefficient
  | none => .finite 1

/-- The state `_get_or_create_state` creates; `nan` counts as an override, zero does not. -/
def createState (policy : FloatValuePolicy) (ruleName : String) : FloatTunerState :=
  let base := staticCoefficient policy ruleName
  { ruleName := ruleName
    baseCoefficient := base
    currentCoefficient := match policy.getOverride ruleName with
      | some override => if override = .finite 0 then base else override
      | none => base }

/-- The state that a call on a name finds or creates. -/
def found (tuner : FloatTuner) (policy : FloatValuePolicy) (ruleName : String) :
    FloatTunerState :=
  (tuner.states.get? ruleName).getD (createState policy ruleName)

/-- Delivered rate in percent of the agreed one; the divisor is positive. -/
def efficiency (deliveredRate slaMinRate : PyFloat) : PyFloat :=
  if (PyFloat.finite 0).lt slaMinRate then
    (((PyFloat.finite 100).mul deliveredRate).div slaMinRate).toOption.getD .nan
  else
    .finite 100

/-- The adjustment of a state to an efficiency. -/
def adjust (tuner : FloatTuner) (state : FloatTunerState) (efficiency : PyFloat) :
    FloatTunerState :=
  if efficiency.lt tuner.violation then
    { state with
      currentCoefficient :=
        .minimum (state.currentCoefficient.mul tuner.boostFactor) tuner.maxCoeff
      boostCount := state.boostCount + 1 }
  else if tuner.perfection.le efficiency then
    { state with
      currentCoefficient :=
        .maximum (state.currentCoefficient.mul tuner.decayFactor) state.baseCoefficient
      decayCount := state.decayCount + 1 }
  else
    state

/-- `observe`, its answer apart. -/
def observe (tuner : FloatTuner) (policy : FloatValuePolicy) (ruleName : String)
    (deliveredRate slaMinRate : PyFloat) : FloatTuner × FloatValuePolicy :=
  let state := tuner.adjust (tuner.found policy ruleName) (efficiency deliveredRate slaMinRate)
  ({ tuner with states := tuner.states.set ruleName state },
    policy.setOverride ruleName state.currentCoefficient)

/-- `reset`. -/
def reset (tuner : FloatTuner) (policy : FloatValuePolicy) (ruleName : String) :
    FloatTuner × FloatValuePolicy :=
  match tuner.states.get? ruleName with
  | some state =>
      ({ tuner with
          states := tuner.states.set ruleName { state with
            currentCoefficient := state.baseCoefficient
            boostCount := 0
            decayCount := 0 } },
        policy.clearOverride ruleName)
  | none => (tuner, policy)

/-- `reset_all`. -/
def resetAll (tuner : FloatTuner) (policy : FloatValuePolicy) : FloatTuner × FloatValuePolicy :=
  tuner.states.keys.foldl (fun shared ruleName => reset shared.1 shared.2 ruleName)
    (tuner, policy)

end FloatTuner

/-- What changes coefficients while the optimizer runs: the operator and the tuner. -/
inductive FloatCoefficientCall where
  | setOverride (ruleName : String) (coefficient : PyFloat)
  | clearOverride (ruleName : String)
  | observe (ruleName : String) (deliveredRate slaMinRate : PyFloat)
  | reset (ruleName : String)
  | resetAll

/-- One call on a tuner and the policy it shares. -/
def FloatTuner.call (shared : FloatTuner × FloatValuePolicy) :
    FloatCoefficientCall → Unit × (FloatTuner × FloatValuePolicy)
  | .setOverride ruleName coefficient =>
      ((), shared.1, shared.2.setOverride ruleName coefficient)
  | .clearOverride ruleName => ((), shared.1, shared.2.clearOverride ruleName)
  | .observe ruleName deliveredRate slaMinRate =>
      ((), shared.1.observe shared.2 ruleName deliveredRate slaMinRate)
  | .reset ruleName => ((), shared.1.reset shared.2 ruleName)
  | .resetAll => ((), shared.1.resetAll shared.2)

end SmartBandwidth

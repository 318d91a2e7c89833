import SmartBandwidth.Value.FlowValuePolicy
import SmartBandwidth.Lib.Machine
import Mathlib.Algebra.Order.Field.Basic

/-!
# The coefficient tuner

The tuner raises the coefficient of a rule whose agreed rate is missed and lets it fall
back when delivery is perfect.  It keeps the coefficient it has set for each observed rule,
and writes it to the policy as an override; the policy is an object both share.
-/

namespace SmartBandwidth

/-- The agreement of a tenant: the least value rate to be delivered. -/
structure ValueSLAContract where
  minValueRatePerSec : ℚ

/-- What the tuner keeps of an observed rule. -/
structure TunerState where
  ruleName : String
  baseCoefficient : ℚ
  currentCoefficient : ℚ
  boostCount : Nat := 0
  decayCount : Nat := 0
  deriving DecidableEq, Repr

/-- A tuner with its parameters in range. -/
structure ValueCoefficientTuner where
  boostFactor : ℚ
  decayFactor : ℚ
  maxCoeff : ℚ
  perfection : ℚ
  violation : ℚ
  states : Dict String TunerState
  one_le_boostFactor : 1 ≤ boostFactor
  decayFactor_nonneg : 0 ≤ decayFactor
  decayFactor_le_one : decayFactor ≤ 1
  maxCoeff_nonneg : 0 ≤ maxCoeff
  perfection_nonneg : 0 ≤ perfection
  perfection_le : perfection ≤ 100
  violation_nonneg : 0 ≤ violation
  violation_le : violation ≤ 100

namespace ValueCoefficientTuner

private theorem max_zero_nonneg (parameter : ℚ) : 0 ≤ max 0 parameter :=
  le_max_left 0 parameter

/-- `__init__`: parameters out of range are moved to its ends. -/
def init (boostFactor : ℚ := 6 / 5) (decayFactor : ℚ := 95 / 100)
    (maxCoefficient : ℚ := 10000) (perfectionThresholdPct : ℚ := 995 / 10)
    (violationThresholdPct : ℚ := 90) : ValueCoefficientTuner where
  boostFactor := max 1 boostFactor
  decayFactor := min 1 (max 0 decayFactor)
  maxCoeff := max 0 maxCoefficient
  perfection := min 100 (max 0 perfectionThresholdPct)
  violation := min 100 (max 0 violationThresholdPct)
  states := .empty
  one_le_boostFactor := le_max_left 1 boostFactor
  decayFactor_nonneg := le_min zero_le_one (max_zero_nonneg decayFactor)
  decayFactor_le_one := min_le_left 1 (max 0 decayFactor)
  maxCoeff_nonneg := max_zero_nonneg maxCoefficient
  perfection_nonneg := le_min (Nat.ofNat_nonneg 100) (max_zero_nonneg perfectionThresholdPct)
  perfection_le := min_le_left 100 (max 0 perfectionThresholdPct)
  violation_nonneg := le_min (Nat.ofNat_nonneg 100) (max_zero_nonneg violationThresholdPct)
  violation_le := min_le_left 100 (max 0 violationThresholdPct)

end ValueCoefficientTuner

/-- The coefficient `_get_or_create_state` finds for a name: the static one of the first
rule of that name. -/
def FlowValuePolicy.staticCoefficient (policy : FlowValuePolicy) (ruleName : String) : ℚ :=
  match policy.rules.find? fun rule => rule.name = ruleName with
  | some rule => rule.valueCoefficient
  | none => 1

namespace ValueCoefficientTuner

/-- The state `_get_or_create_state` creates; an override of zero counts as none. -/
def createState (policy : FlowValuePolicy) (ruleName : String) : TunerState :=
  let base := policy.staticCoefficient ruleName
  { ruleName := ruleName
    baseCoefficient := base
    currentCoefficient := match policy.getOverride ruleName with
      | some override => if override = 0 then base else override
      | none => base }

/-- `_get_or_create_state`. -/
def getOrCreateState (tuner : ValueCoefficientTuner) (policy : FlowValuePolicy)
    (ruleName : String) : TunerState × ValueCoefficientTuner :=
  match tuner.states.get? ruleName with
  | some state => (state, tuner)
  | none =>
      let state := createState policy ruleName
      (state, { tuner with states := tuner.states.set ruleName state })

/-- Delivered rate in percent of the agreed one. -/
def efficiency (deliveredRate slaMinRate : ℚ) : ℚ :=
  if 0 < slaMinRate then 100 * deliveredRate / slaMinRate else 100

/-- The adjustment of a state to an efficiency. -/
def adjust (tuner : ValueCoefficientTuner) (state : TunerState) (efficiency : ℚ) : TunerState :=
  if efficiency < tuner.violation then
    { state with
      currentCoefficient := min (state.currentCoefficient * tuner.boostFactor) tuner.maxCoeff
      boostCount := state.boostCount + 1 }
  else if tuner.perfection ≤ efficiency then
    { state with
      currentCoefficient := max (state.currentCoefficient * tuner.decayFactor)
        state.baseCoefficient
      decayCount := state.decayCount + 1 }
  else
    state

/-- `observe`; the state object it adjusts is the one the table holds. -/
def observe (tuner : ValueCoefficientTuner) (policy : FlowValuePolicy) (ruleName : String)
    (deliveredRate slaMinRate : ℚ) : ℚ × ValueCoefficientTuner × FlowValuePolicy :=
  let (state, tuner) := tuner.getOrCreateState policy ruleName
  let state := tuner.adjust state (efficiency deliveredRate slaMinRate)
  (state.currentCoefficient,
    { tuner with states := tuner.states.set ruleName state },
    policy.setOverride ruleName state.currentCoefficient)

/-- `observe_contract`. -/
def observeContract (tuner : ValueCoefficientTuner) (policy : FlowValuePolicy)
    (ruleName : String) (deliveredRate : ℚ) (contract : ValueSLAContract) :
    ℚ × ValueCoefficientTuner × FlowValuePolicy :=
  tuner.observe policy ruleName deliveredRate contract.minValueRatePerSec

/-- A state back at its base coefficient. -/
def resetState (state : TunerState) : TunerState :=
  { state with
    currentCoefficient := state.baseCoefficient
    boostCount := 0
    decayCount := 0 }

/-- `reset`. -/
def reset (tuner : ValueCoefficientTuner) (policy : FlowValuePolicy) (ruleName : String) :
    ValueCoefficientTuner × FlowValuePolicy :=
  match tuner.states.get? ruleName with
  | some state =>
      ({ tuner with states := tuner.states.set ruleName (resetState state) },
        policy.clearOverride ruleName)
  | none => (tuner, policy)

/-- `reset_all`: the body of `reset` for each name in the table. -/
def resetAll (tuner : ValueCoefficientTuner) (policy : FlowValuePolicy) :
    ValueCoefficientTuner × FlowValuePolicy :=
  tuner.states.keys.foldl (fun shared ruleName => reset shared.1 shared.2 ruleName)
    (tuner, policy)

end ValueCoefficientTuner

/-- Calls on a tuner. -/
inductive TunerCall where
  | observe (ruleName : String) (deliveredRate slaMinRate : ℚ)
  | observeContract (ruleName : String) (deliveredRate : ℚ) (contract : ValueSLAContract)
  | reset (ruleName : String)
  | resetAll

/-- One call on a tuner and the policy it shares; an observation answers with the new
coefficient. -/
def ValueCoefficientTuner.call (shared : ValueCoefficientTuner × FlowValuePolicy) :
    TunerCall → Option ℚ × (ValueCoefficientTuner × FlowValuePolicy)
  | .observe ruleName deliveredRate slaMinRate =>
      let (coefficient, shared) := shared.1.observe shared.2 ruleName deliveredRate slaMinRate
      (some coefficient, shared)
  | .observeContract ruleName deliveredRate contract =>
      let (coefficient, shared) :=
        shared.1.observeContract shared.2 ruleName deliveredRate contract
      (some coefficient, shared)
  | .reset ruleName => (none, shared.1.reset shared.2 ruleName)
  | .resetAll => (none, shared.1.resetAll shared.2)

end SmartBandwidth

import SmartBandwidth.Value.FloatCoefficients
import SmartBandwidth.Policy.WellFormed

/-!
# Coefficients below zero

A coefficient enters the value policy from a policy file, from the presets, from the
overrides of the presets, from the operator and from the tuner.  The last two doors and the
fallback clamp at zero, the first two give nothing negative but `nan`, and the overrides of
the presets are taken as they are.
-/

namespace SmartBandwidth

namespace FloatValuePolicy

/-! ## The doors that clamp -/

/-- Neither the fallback nor an override is negative. -/
structure Clamped (policy : FloatValuePolicy) : Prop where
  default : policy.defaultCoefficient.Nonneg
  override : ∀ ruleName coefficient,
    policy.overrides.get? ruleName = some coefficient → coefficient.Nonneg

theorem init_clamped (rules : List LoadedRule) (defaultCoefficient : PyFloat) :
    (init rules defaultCoefficient).Clamped where
  default := PyFloat.maximum_zero_nonneg defaultCoefficient
  override := by
    intro ruleName coefficient present
    cases present

theorem setOverride_clamped {policy : FloatValuePolicy} (clamped : policy.Clamped)
    (ruleName : String) (coefficient : PyFloat) :
    (policy.setOverride ruleName coefficient).Clamped where
  default := clamped.default
  override := by
    intro query stored present
    rw [setOverride, Dict.get?_set] at present
    split at present
    next =>
      rw [← Option.some.inj present]
      exact PyFloat.maximum_zero_nonneg coefficient
    next => exact clamped.override query stored present

theorem clearOverride_clamped {policy : FloatValuePolicy} (clamped : policy.Clamped)
    (ruleName : String) : (policy.clearOverride ruleName).Clamped where
  default := clamped.default
  override := by
    intro query stored present
    rw [clearOverride, Dict.get?_erase] at present
    split at present
    next => cases present
    next => exact clamped.override query stored present

/-- The rules are those of the start, and the doors clamp. -/
structure Keeps (rules : List LoadedRule) (shared : FloatTuner × FloatValuePolicy) : Prop where
  rules : shared.2.rules = rules
  clamped : shared.2.Clamped

theorem reset_keeps {rules : List LoadedRule} {shared : FloatTuner × FloatValuePolicy}
    (keeps : Keeps rules shared) (ruleName : String) :
    Keeps rules (shared.1.reset shared.2 ruleName) := by
  rw [FloatTuner.reset]
  split
  next => exact ⟨keeps.rules, clearOverride_clamped keeps.clamped ruleName⟩
  next => exact keeps

theorem resetAll_keeps {rules : List LoadedRule} {shared : FloatTuner × FloatValuePolicy}
    (keeps : Keeps rules shared) : Keeps rules (shared.1.resetAll shared.2) := by
  rw [FloatTuner.resetAll]
  generalize shared.1.states.keys = names
  induction names generalizing shared with
  | nil => exact keeps
  | cons name names ih => exact ih (reset_keeps keeps name)

theorem call_keeps {rules : List LoadedRule} (shared : FloatTuner × FloatValuePolicy)
    (call : FloatCoefficientCall) (keeps : Keeps rules shared) :
    Keeps rules (FloatTuner.call shared call).2 := by
  cases call with
  | setOverride ruleName coefficient =>
      exact ⟨keeps.rules, setOverride_clamped keeps.clamped ruleName coefficient⟩
  | clearOverride ruleName =>
      exact ⟨keeps.rules, clearOverride_clamped keeps.clamped ruleName⟩
  | observe ruleName deliveredRate slaMinRate =>
      exact ⟨keeps.rules, setOverride_clamped keeps.clamped ruleName _⟩
  | reset ruleName => exact reset_keeps keeps ruleName
  | resetAll => exact resetAll_keeps keeps

/-- A packet gets nothing negative unless the rule it matches has a negative coefficient. -/
theorem getCoefficient_nonneg {rt : Runtime} {policy : FloatValuePolicy}
    (clamped : policy.Clamped) {packet : Packet}
    (static : ∀ index rule, policy.matchingRule rt packet = some (index, rule) →
      rule.valueCoefficient.Nonneg) : (policy.getCoefficient rt packet).Nonneg := by
  cases found : policy.matchingRule rt packet with
  | none =>
      rw [getCoefficient, found]
      exact clamped.default
  | some first =>
      obtain ⟨index, rule⟩ := first
      rw [getCoefficient_of_matchingRule found]
      cases stored : policy.overrides.get? rule.name with
      | none => exact static index rule found
      | some coefficient => exact clamped.override rule.name coefficient stored

/-! ## The doors that do not -/

/-- Where the rules of a value policy come from: a file that the loader accepted, or the
presets. -/
inductive Origin where
  | loaded (py : PyText) (data : PyValue) (policy : LoadedPolicy)
      (loads : PolicyLoader.parse py data = .ok policy) (defaultCoefficient : PyFloat)
  | presets (revenueScale : PyFloat) (overrides : Dict String PyFloat)

namespace Origin

/-- The value policy built from them. -/
def policy : Origin → FloatValuePolicy
  | .loaded _ _ policy _ defaultCoefficient => .fromPolicy policy defaultCoefficient
  | .presets revenueScale overrides => .fromPresets revenueScale overrides

/-- What the origin has to say of the coefficient of a rule: a file does not say `nan`, and
an override of a preset is not negative. -/
def Admissible (rule : LoadedRule) : Origin → Prop
  | .loaded .. => rule.valueCoefficient ≠ .nan
  | .presets _ overrides =>
      ∀ coefficient, overrides.get? rule.name = some coefficient → coefficient.Nonneg

theorem policy_clamped (origin : Origin) : origin.policy.Clamped := by
  cases origin with
  | loaded => exact init_clamped _ _
  | presets => exact init_clamped _ _

end Origin

/-- A loaded coefficient is not negative unless it is `nan`. -/
theorem loaded_coefficient_iff {py : PyText} {data : PyValue} {policy : LoadedPolicy}
    (loads : PolicyLoader.parse py data = .ok policy) {rule : LoadedRule}
    (member : rule ∈ policy.rules) :
    rule.valueCoefficient.Nonneg ↔ rule.valueCoefficient ≠ .nan := by
  have parsed := PolicyLoader.parseRules_rulesOf (PolicyLoader.parse_sections loads).1
  have passes := (PolicyLoader.forall_rules_iff parsed fun _ _ related =>
    iff_true_intro related.2).mpr (fun _ _ => trivial) rule member
  cases PolicyLoader.not_lt_zero_iff.mp passes with
  | inl nonneg =>
      rw [PyFloat.Nonneg, iff_true_left nonneg]
      intro isNan
      rw [isNan] at nonneg
      cases nonneg
  | inr isNan =>
      rw [isNan]
      decide

theorem trafficPresets_pos : ∀ preset ∈ trafficPresets, 0 < preset.valueCoefficient := by
  decide +kernel

theorem presetCoefficient_nonneg (revenueScale : PyFloat) {preset : TrafficPreset}
    (member : preset ∈ trafficPresets) : (presetCoefficient revenueScale preset).Nonneg := by
  have positive := trafficPresets_pos preset member
  simp only [presetCoefficient]
  split
  next => exact PyFloat.nonneg_finite_iff.mpr (le_of_lt positive)
  next => exact PyFloat.mul_nonneg positive (PyFloat.maximum_zero_nonneg revenueScale)

theorem presetRule_nonneg_iff (revenueScale : PyFloat) (overrides : Dict String PyFloat)
    {preset : TrafficPreset} (member : preset ∈ trafficPresets) :
    (presetRule revenueScale overrides preset).valueCoefficient.Nonneg ↔
      ∀ coefficient, overrides.get? preset.name = some coefficient → coefficient.Nonneg := by
  rw [presetRule]
  cases stored : overrides.get? preset.name with
  | none => simpa using presetCoefficient_nonneg revenueScale member
  | some coefficient => simp

/-- The coefficient that a rule starts with is not negative exactly when its origin keeps to
what the documents say. -/
theorem Origin.nonneg_iff (origin : Origin) {rule : LoadedRule}
    (member : rule ∈ origin.policy.rules) :
    rule.valueCoefficient.Nonneg ↔ origin.Admissible rule := by
  cases origin with
  | loaded py data policy loads defaultCoefficient => exact loaded_coefficient_iff loads member
  | presets revenueScale overrides =>
      obtain ⟨preset, presetMember, rfl⟩ := List.mem_map.mp member
      exact presetRule_nonneg_iff revenueScale overrides presetMember

/-- Whatever the operator and the tuner do, no packet gets a negative coefficient, exactly
when no rule that some packet matches first was given `nan` by its file or a negative
coefficient by the overrides of the presets. -/
theorem run_nonneg_iff (rt : Runtime) (origin : Origin) (tuner : FloatTuner) :
    (∀ calls packet, ((Machine.run FloatTuner.call (tuner, origin.policy) calls).2.2.getCoefficient
        rt packet).Nonneg) ↔
      ∀ packet index rule, origin.policy.matchingRule rt packet = some (index, rule) →
        origin.Admissible rule := by
  constructor
  · intro nonneg packet index rule found
    have member := List.mem_of_getElem? (FirstMatch.firstMatch_spec found).1
    apply (origin.nonneg_iff member).mp
    have unset : origin.policy.overrides.get? rule.name = none := by cases origin <;> rfl
    have coefficient : (origin.policy.getCoefficient rt packet).Nonneg := nonneg [] packet
    rwa [getCoefficient_of_matchingRule found, unset] at coefficient
  · intro admissible calls packet
    have initial : Keeps origin.policy.rules (tuner, origin.policy) :=
      ⟨rfl, origin.policy_clamped⟩
    have keeps := Machine.run_invariant call_keeps initial calls
    apply getCoefficient_nonneg keeps.clamped
    intro index rule found
    rw [matchingRule, keeps.rules] at found
    have member := List.mem_of_getElem? (FirstMatch.firstMatch_spec found).1
    exact (origin.nonneg_iff member).mpr (admissible packet index rule found)

/-- A negative override of a preset reaches the packets. -/
theorem negative_preset_override :
    ¬ ∀ calls packet, ((Machine.run FloatTuner.call
      (.init, (Origin.presets (.finite 1)
        (Dict.empty.set "voip" (.finite (-5)))).policy) calls).2.2.getCoefficient
          .plain packet).Nonneg := by
  intro nonneg
  exact absurd (nonneg [] { dstPort := 5060 }) (by decide +kernel)

end FloatValuePolicy

end SmartBandwidth

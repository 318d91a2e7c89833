import SmartBandwidth.Value.Operator

/-!
# Observations in the acceptable zone

An observation between the two thresholds leaves the tuner's record of a rule as it is, and
still writes it to the policy.  That changes nothing when the record is what the packets
get; an operator who sets or clears an override does not tell the tuner, and an override of
zero is no coefficient to start a record from.
-/

namespace SmartBandwidth

namespace ValueCoefficientTuner

open TunedPolicy

/-! ## What is never negative -/

/-- No number that the tuner or the policy keeps is negative. -/
structure NonNegative (shared : TunedPolicy) : Prop where
  static : ∀ rule ∈ shared.2.rules, 0 ≤ rule.valueCoefficient
  override : ∀ ruleName coefficient,
    shared.2.overrides.get? ruleName = some coefficient → 0 ≤ coefficient
  base : ∀ ruleName state,
    shared.1.states.get? ruleName = some state → 0 ≤ state.baseCoefficient
  current : ∀ ruleName state,
    shared.1.states.get? ruleName = some state → 0 ≤ state.currentCoefficient

variable {shared : TunedPolicy}

theorem NonNegative.staticCoefficient (nonneg : NonNegative shared) (ruleName : String) :
    0 ≤ shared.2.staticCoefficient ruleName := by
  rw [FlowValuePolicy.staticCoefficient]
  split
  next rule located => exact nonneg.static rule (List.mem_of_find?_eq_some located)
  next => exact zero_le_one

/-- A record that is created has no negative number. -/
theorem NonNegative.found (nonneg : NonNegative shared) (ruleName : String) :
    0 ≤ (found shared ruleName).baseCoefficient ∧
      0 ≤ (found shared ruleName).currentCoefficient := by
  rw [ValueCoefficientTuner.found, getOrCreateState]
  split
  next state present =>
    exact ⟨nonneg.base ruleName state present, nonneg.current ruleName state present⟩
  next =>
    have static := nonneg.staticCoefficient ruleName
    refine ⟨static, ?_⟩
    simp only [createState]
    split
    next coefficient stored =>
      split
      next => exact static
      next => exact nonneg.override ruleName coefficient stored
    next => exact static

/-- An adjustment keeps a record without negative numbers. -/
theorem adjust_nonneg (tuner : ValueCoefficientTuner) {state : TunerState}
    (base : 0 ≤ state.baseCoefficient) (current : 0 ≤ state.currentCoefficient) (percent : ℚ) :
    (tuner.adjust state percent).baseCoefficient = state.baseCoefficient ∧
      0 ≤ (tuner.adjust state percent).currentCoefficient := by
  simp only [adjust]
  split
  next =>
    have raised := mul_nonneg current (zero_le_one.trans tuner.one_le_boostFactor)
    exact ⟨rfl, le_min raised tuner.maxCoeff_nonneg⟩
  next =>
    split
    next => exact ⟨rfl, base.trans (le_max_right _ _)⟩
    next => exact ⟨rfl, current⟩

theorem observe_nonNegative (nonneg : NonNegative shared) (ruleName : String)
    (deliveredRate slaMinRate : ℚ) :
    NonNegative (shared.1.observe shared.2 ruleName deliveredRate slaMinRate).2 := by
  obtain ⟨base, current⟩ := nonneg.found ruleName
  obtain ⟨baseEq, adjusted⟩ :=
    shared.1.adjust_nonneg base current (efficiency deliveredRate slaMinRate)
  constructor
  · rw [(observe_sameRules shared ruleName deliveredRate slaMinRate).rules]
    exact nonneg.static
  · intro query coefficient stored
    rw [observe_overrides] at stored
    split at stored
    next =>
      rw [← Option.some.inj stored]
      exact le_max_left 0 _
    next => exact nonneg.override query coefficient stored
  · intro query state stored
    rw [observe_states] at stored
    split at stored
    next =>
      rw [← Option.some.inj stored]
      exact base.trans_eq baseEq.symm
    next => exact nonneg.base query state stored
  · intro query state stored
    rw [observe_states] at stored
    split at stored
    next =>
      rw [← Option.some.inj stored]
      exact adjusted
    next => exact nonneg.current query state stored

/-- A record after a reset is one from before or that one back at its base. -/
theorem reset_stored {ruleName query : String} {state : TunerState}
    (stored : (shared.1.reset shared.2 ruleName).1.states.get? query = some state) :
    ∃ name before, shared.1.states.get? name = some before ∧
      (state = before ∨ state = resetState before) := by
  rw [reset_states] at stored
  split at stored
  next =>
    obtain ⟨before, present, same⟩ := Option.map_eq_some_iff.mp stored
    exact ⟨ruleName, before, present, .inr same.symm⟩
  next => exact ⟨query, state, stored, .inl rfl⟩

theorem reset_nonNegative (nonneg : NonNegative shared) (ruleName : String) :
    NonNegative (shared.1.reset shared.2 ruleName) := by
  constructor
  · rw [(reset_sameRules shared ruleName).rules]
    exact nonneg.static
  · intro query coefficient stored
    rw [reset] at stored
    split at stored
    next =>
      rw [FlowValuePolicy.clearOverride, Dict.get?_erase] at stored
      split at stored
      next => cases stored
      next => exact nonneg.override query coefficient stored
    next => exact nonneg.override query coefficient stored
  · intro query state stored
    obtain ⟨name, before, present, rfl | rfl⟩ := reset_stored stored
    · exact nonneg.base name state present
    · exact nonneg.base name before present
  · intro query state stored
    obtain ⟨name, before, present, rfl | rfl⟩ := reset_stored stored
    · exact nonneg.current name state present
    · exact nonneg.base name before present

theorem call_nonNegative (nonneg : NonNegative shared) (call : TunerCall) :
    NonNegative (ValueCoefficientTuner.call shared call).2 := by
  cases call with
  | observe ruleName deliveredRate slaMinRate =>
      exact observe_nonNegative nonneg ruleName deliveredRate slaMinRate
  | observeContract ruleName deliveredRate contract =>
      exact observe_nonNegative nonneg ruleName deliveredRate contract.minValueRatePerSec
  | reset ruleName => exact reset_nonNegative nonneg ruleName
  | resetAll =>
      exact resetAll_induction NonNegative (fun _ name before => reset_nonNegative before name)
        nonneg

theorem operate_nonNegative (shared : TunedPolicy) (call : CoefficientCall)
    (nonneg : NonNegative shared) : NonNegative (operate shared call).2 := by
  cases call with
  | setOverride ruleName coefficient =>
      refine { nonneg with override := ?_ }
      intro query stored present
      rw [operate, FlowValuePolicy.setOverride, Dict.get?_set] at present
      split at present
      next =>
        rw [← Option.some.inj present]
        exact le_max_left 0 coefficient
      next => exact nonneg.override query stored present
  | clearOverride ruleName =>
      refine { nonneg with override := ?_ }
      intro query stored present
      rw [operate, FlowValuePolicy.clearOverride, Dict.get?_erase] at present
      split at present
      next => cases present
      next => exact nonneg.override query stored present
  | tuner call => exact call_nonNegative nonneg call

/-! ## When an observation changes nothing -/

/-- The efficiency lies between the thresholds. -/
def Acceptable (tuner : ValueCoefficientTuner) (percent : ℚ) : Prop :=
  tuner.violation ≤ percent ∧ percent < tuner.perfection

instance (tuner : ValueCoefficientTuner) (percent : ℚ) : Decidable (tuner.Acceptable percent) :=
  inferInstanceAs (Decidable (tuner.violation ≤ percent ∧ percent < tuner.perfection))

/-- The observation leaves the coefficient of every packet as it is. -/
def Unchanged (rt : Runtime) (shared : TunedPolicy) (ruleName : String)
    (deliveredRate slaMinRate : ℚ) : Prop :=
  ∀ packet, (shared.1.observe shared.2 ruleName deliveredRate slaMinRate).2.2.getCoefficient rt
    packet = shared.2.getCoefficient rt packet

/-- The tuner's record of a rule is what packets get, and where there is none yet the override
is not zero, unless the static coefficient is. -/
structure InStep (shared : TunedPolicy) (rule : PolicyRule) : Prop where
  recorded : ∀ state, shared.1.states.get? rule.name = some state →
    state.currentCoefficient = shared.live rule.name rule.valueCoefficient
  unrecorded : shared.1.states.get? rule.name = none →
    shared.2.overrides.get? rule.name = some 0 → rule.valueCoefficient = 0

theorem adjust_acceptable {tuner : ValueCoefficientTuner} {percent : ℚ}
    (acceptable : tuner.Acceptable percent) (state : TunerState) :
    tuner.adjust state percent = state := by
  rw [adjust, if_neg (not_lt.mpr acceptable.1), if_neg (not_le.mpr acceptable.2)]

/-- An observation finds the live coefficient exactly when the records are in step. -/
theorem found_eq_live_iff {rule : PolicyRule}
    (static : shared.2.staticCoefficient rule.name = rule.valueCoefficient) :
    (found shared rule.name).currentCoefficient = shared.live rule.name rule.valueCoefficient ↔
      InStep shared rule := by
  rw [found, getOrCreateState]
  cases stored : shared.1.states.get? rule.name with
  | some state =>
      constructor
      · intro same
        constructor
        · intro other present
          rw [stored] at present
          cases present
          exact same
        · intro absent
          rw [stored] at absent
          cases absent
      · intro inStep
        exact inStep.recorded state stored
  | none =>
      have created : (createState shared.2 rule.name).currentCoefficient =
          shared.live rule.name rule.valueCoefficient ↔
            (shared.2.overrides.get? rule.name = some 0 → rule.valueCoefficient = 0) := by
        simp only [createState, FlowValuePolicy.getOverride, live, static]
        cases shared.2.overrides.get? rule.name with
        | none => simp
        | some coefficient =>
            by_cases zero : coefficient = 0
            · simp [zero]
            · simp [zero]
      rw [created]
      constructor
      · intro zero
        constructor
        · intro state present
          rw [stored] at present
          cases present
        · exact fun _ => zero
      · intro inStep
        exact inStep.unrecorded stored

/-- An observation in the acceptable zone changes nothing exactly when the observed rule, if
packets match it, is in step. -/
theorem unchanged_iff (rt : Runtime) (nonneg : NonNegative shared)
    (distinct : (shared.2.rules.map PolicyRule.name).Nodup) {ruleName : String}
    {deliveredRate slaMinRate : ℚ}
    (acceptable : shared.1.Acceptable (efficiency deliveredRate slaMinRate)) :
    Unchanged rt shared ruleName deliveredRate slaMinRate ↔
      ∀ packet index rule, shared.2.matchingRule rt packet = some (index, rule) →
        rule.name = ruleName → InStep shared rule := by
  have rules := (observe_sameRules shared ruleName deliveredRate slaMinRate).rules
  have written : (observed shared ruleName deliveredRate slaMinRate).currentCoefficient =
      (found shared ruleName).currentCoefficient := by
    rw [observed, adjust_acceptable acceptable]
  have clamped : max 0 (found shared ruleName).currentCoefficient =
      (found shared ruleName).currentCoefficient := max_eq_right (nonneg.found ruleName).2
  have atPacket : ∀ packet index rule, shared.2.matchingRule rt packet = some (index, rule) →
      ((shared.1.observe shared.2 ruleName deliveredRate slaMinRate).2.2.getCoefficient rt packet =
        shared.2.getCoefficient rt packet ↔ (rule.name = ruleName → InStep shared rule)) := by
    intro packet index rule first
    have member : rule ∈ shared.2.rules :=
      List.mem_of_getElem? (FirstMatch.firstMatch_spec first).1
    have static := staticCoefficient_of_mem distinct member
    rw [getCoefficient_of_matchingRule rt rules first, getCoefficient_of_matchingRule rt rfl first,
      live, observe_overrides, written, clamped]
    by_cases same : rule.name = ruleName
    · subst same
      rw [if_pos rfl, Option.getD_some, found_eq_live_iff static]
      simp
    · rw [if_neg same]
      exact iff_of_true rfl fun isSame => absurd isSame same
  constructor
  · intro unchanged packet index rule first
    exact (atPacket packet index rule first).mp (unchanged packet)
  · intro inStep packet
    cases first : shared.2.matchingRule rt packet with
    | some located =>
        apply (atPacket packet located.1 located.2 first).mpr
        exact inStep packet located.1 located.2 first
    | none =>
        have firstNow : (shared.1.observe shared.2 ruleName deliveredRate
            slaMinRate).2.2.matchingRule rt packet = none := by
          rw [FlowValuePolicy.matchingRule, rules]
          exact first
        rw [FlowValuePolicy.getCoefficient, FlowValuePolicy.getCoefficient, firstNow, first]
        rfl

theorem operate_rules (shared : TunedPolicy) (call : CoefficientCall) :
    (operate shared call).2.2.rules = shared.2.rules := by
  cases call with
  | setOverride => rfl
  | clearOverride => rfl
  | tuner call => exact (call_sameRules shared call).rules

section Run

variable (rt : Runtime) (rules : List PolicyRule) (defaultCoefficient boostFactor decayFactor
  maxCoefficient perfectionThresholdPct violationThresholdPct : ℚ)

/-- A fresh tuner on a fresh policy. -/
def fresh : TunedPolicy :=
  (.init boostFactor decayFactor maxCoefficient perfectionThresholdPct violationThresholdPct,
    .init rules defaultCoefficient)

theorem fresh_nonNegative (nonneg : ∀ rule ∈ rules, 0 ≤ rule.valueCoefficient) :
    NonNegative (fresh rules defaultCoefficient boostFactor decayFactor maxCoefficient
      perfectionThresholdPct violationThresholdPct) where
  static := nonneg
  override := by
    intro ruleName coefficient stored
    cases stored
  base := by
    intro ruleName state stored
    cases stored
  current := by
    intro ruleName state stored
    cases stored

/-- In a run of operator and tuner calls, the observations in the acceptable zone change
nothing exactly when each of them finds its rule in step, if packets match the rule. -/
theorem run_unchanged_iff (distinct : (rules.map PolicyRule.name).Nodup)
    (nonneg : ∀ rule ∈ rules, 0 ≤ rule.valueCoefficient) (calls : List CoefficientCall) :
    let reached := fun before : List CoefficientCall =>
      (Machine.run operate (fresh rules defaultCoefficient boostFactor decayFactor maxCoefficient
        perfectionThresholdPct violationThresholdPct) before).2
    (∀ before ruleName deliveredRate slaMinRate after,
        calls = before ++ .tuner (.observe ruleName deliveredRate slaMinRate) :: after →
        (reached before).1.Acceptable (efficiency deliveredRate slaMinRate) →
        Unchanged rt (reached before) ruleName deliveredRate slaMinRate) ↔
      ∀ before ruleName deliveredRate slaMinRate after,
        calls = before ++ .tuner (.observe ruleName deliveredRate slaMinRate) :: after →
        (reached before).1.Acceptable (efficiency deliveredRate slaMinRate) →
        ∀ packet index rule, (reached before).2.matchingRule rt packet = some (index, rule) →
          rule.name = ruleName → InStep (reached before) rule := by
  intro reached
  have kept : ∀ before, NonNegative (reached before) ∧ (reached before).2.rules = rules := by
    intro before
    have initial := fresh_nonNegative rules defaultCoefficient boostFactor decayFactor
      maxCoefficient perfectionThresholdPct violationThresholdPct nonneg
    constructor
    · exact Machine.run_invariant operate_nonNegative initial before
    · exact Machine.run_invariant
        (fun shared call same => (operate_rules shared call).trans same) rfl before
  apply forall₅_congr
  intro before ruleName deliveredRate slaMinRate after
  apply imp_congr_right
  intro _
  apply imp_congr_right
  intro acceptable
  obtain ⟨nonNegative, rulesEq⟩ := kept before
  apply unchanged_iff rt nonNegative _ acceptable
  rw [rulesEq]
  exact distinct

end Run

/-- One rule, for voice. -/
def voiceRules : List PolicyRule :=
  [{ name := "voice", priority := .critical, ports := [5060], valueCoefficient := 10 }]

/-- The default tuner on that rule, after some calls. -/
def voiceAfter (calls : List CoefficientCall) : TunedPolicy :=
  (Machine.run operate (fresh voiceRules 1 (6 / 5) (95 / 100) 10000 (995 / 10) 90) calls).2

/-- The first observation finds its rule in step. -/
theorem voice_unchanged :
    (voiceAfter []).1.Acceptable (efficiency 95 100) ∧
      ∀ before ruleName deliveredRate slaMinRate after,
        [CoefficientCall.tuner (.observe "voice" 95 100)] =
          before ++ .tuner (.observe ruleName deliveredRate slaMinRate) :: after →
        (voiceAfter before).1.Acceptable (efficiency deliveredRate slaMinRate) →
        Unchanged .plain (voiceAfter before) ruleName deliveredRate slaMinRate := by
  refine ⟨by decide +kernel, ?_⟩
  apply (run_unchanged_iff .plain voiceRules 1 (6 / 5) (95 / 100) 10000 (995 / 10) 90 (by decide)
    (by decide +kernel) [.tuner (.observe "voice" 95 100)]).mpr
  intro before ruleName deliveredRate slaMinRate after split _ packet index rule first same
  cases before with
  | cons call before => simp at split
  | nil =>
      constructor
      · intro state stored
        cases stored
      · intro _ overridden
        cases overridden

/-- An operator switches the rule off before the tuner sees it: the observation switches it
on again.  An operator changes an override that the tuner has recorded: the observation
takes the change back. -/
theorem acceptable_overwrites :
    (voiceAfter [.setOverride "voice" 0]).1.Acceptable (efficiency 95 100) ∧
      ¬ Unchanged .plain (voiceAfter [.setOverride "voice" 0]) "voice" 95 100 ∧
      ¬ Unchanged .plain
        (voiceAfter [.tuner (.observe "voice" 95 100), .setOverride "voice" 50])
        "voice" 95 100 := by
  refine ⟨by decide +kernel, ?_, ?_⟩
  · intro unchanged
    exact absurd (unchanged { dstPort := 5060 }) (by decide +kernel)
  · intro unchanged
    exact absurd (unchanged { dstPort := 5060 }) (by decide +kernel)

end ValueCoefficientTuner

end SmartBandwidth

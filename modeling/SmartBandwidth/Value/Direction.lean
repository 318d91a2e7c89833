import SmartBandwidth.Value.Coherence
import SmartBandwidth.Value.Presets

/-!
# The direction of an adjustment

An observation of a missed rate should not lower the coefficient of its rule, one of
perfect delivery should not raise it, and none should leave it below the static one.  The
ceiling, the floor and the base are set independently, so this depends on their order.
-/

namespace SmartBandwidth

/-- A policy as `from_policy` or `from_presets` builds it. -/
inductive FlowValuePolicy.Built : FlowValuePolicy → Prop where
  | fromPolicy (policy : Policy) (defaultCoefficient : ℚ) :
      Built (.fromPolicy policy defaultCoefficient)
  | fromPresets {revenueScale : ℚ} (nonneg : 0 ≤ revenueScale) (overrides : Dict String ℚ) :
      Built (.fromPresets revenueScale overrides)

theorem FlowValuePolicy.Built.unset {policy : FlowValuePolicy} (built : policy.Built) :
    policy.overrides = .empty := by
  cases built <;> rfl

namespace ValueCoefficientTuner

open TunedPolicy

/-- Observations move the coefficient of a rule in the right direction. -/
structure Directed (shared : TunedPolicy) (rule : PolicyRule) : Prop where
  boosts : ∀ deliveredRate slaMinRate,
    efficiency deliveredRate slaMinRate < shared.1.violation →
    shared.live rule.name rule.valueCoefficient ≤
      live (shared.1.observe shared.2 rule.name deliveredRate slaMinRate).2 rule.name
        rule.valueCoefficient
  decays : ∀ deliveredRate slaMinRate,
    ¬ efficiency deliveredRate slaMinRate < shared.1.violation →
    shared.1.perfection ≤ efficiency deliveredRate slaMinRate →
    live (shared.1.observe shared.2 rule.name deliveredRate slaMinRate).2 rule.name
        rule.valueCoefficient ≤
      shared.live rule.name rule.valueCoefficient
  floored : ∀ observedName deliveredRate slaMinRate,
    rule.valueCoefficient ≤
      live (shared.1.observe shared.2 observedName deliveredRate slaMinRate).2 rule.name
        rule.valueCoefficient

/-- A tuned rule moves in the right direction. -/
theorem directed_of_tuned {shared : TunedPolicy} {rule : PolicyRule}
    (tuned : Tuned shared rule.name rule.valueCoefficient) (nonneg : 0 ≤ rule.valueCoefficient)
    (static : shared.2.staticCoefficient rule.name = rule.valueCoefficient) :
    Directed shared rule := by
  obtain ⟨baseEq, currentEq⟩ := found_of_tuned tuned static
  have current : 0 ≤ shared.live rule.name rule.valueCoefficient := nonneg.trans tuned.base_le
  constructor
  · intro deliveredRate slaMinRate violated
    rw [live_observe tuned nonneg static, observed, adjust, if_pos violated]
    apply le_min
    · rw [currentEq]
      exact le_mul_of_one_le_right current shared.1.one_le_boostFactor
    · exact tuned.le_max
  · intro deliveredRate slaMinRate met perfect
    rw [live_observe tuned nonneg static, observed, adjust, if_neg met, if_pos perfect]
    apply max_le
    · rw [currentEq]
      exact mul_le_of_le_one_right current shared.1.decayFactor_le_one
    · rw [baseEq]
      exact tuned.base_le
  · intro observedName deliveredRate slaMinRate
    exact (observe_tuned tuned nonneg static observedName deliveredRate slaMinRate).base_le

/-- The static coefficient of a rule's name is that of a rule of this name. -/
theorem staticCoefficient_spec {policy : FlowValuePolicy} {rule : PolicyRule}
    (member : rule ∈ policy.rules) :
    ∃ first ∈ policy.rules, first.name = rule.name ∧
      first.valueCoefficient = policy.staticCoefficient rule.name := by
  rw [FlowValuePolicy.staticCoefficient]
  split
  next first located =>
    exact ⟨first, List.mem_of_find?_eq_some located, by simpa using List.find?_some located, rfl⟩
  next missing =>
    have absent := List.find?_eq_none.mp missing rule member
    simp at absent

section Fresh

variable {tuner : ValueCoefficientTuner} {policy : FlowValuePolicy}

/-- The first observation of a name leaves the adjusted static coefficient, but not below
zero. -/
theorem live_observe_fresh (unseen : tuner.states = .empty) (rule : PolicyRule)
    (deliveredRate slaMinRate : ℚ) :
    live (tuner.observe policy rule.name deliveredRate slaMinRate).2 rule.name
        rule.valueCoefficient =
      max 0 (tuner.adjust (createState policy rule.name)
        (efficiency deliveredRate slaMinRate)).currentCoefficient := by
  have overrides :=
    observe_overrides (tuner, policy) rule.name deliveredRate slaMinRate rule.name
  rw [if_pos rfl] at overrides
  rw [live, overrides, Option.getD_some, observed, found, getOrCreateState, unseen]
  rfl

theorem createState_fresh (unset : policy.overrides = .empty) (ruleName : String) :
    (createState policy ruleName).baseCoefficient = policy.staticCoefficient ruleName ∧
      (createState policy ruleName).currentCoefficient =
        policy.staticCoefficient ruleName := by
  simp [createState, FlowValuePolicy.getOverride, unset]

/-- The effect of a perfect first observation. -/
theorem live_perfect_fresh (unseen : tuner.states = .empty) (unset : policy.overrides = .empty)
    (rule : PolicyRule) :
    live (tuner.observe policy rule.name 0 0).2 rule.name rule.valueCoefficient =
      max 0 (max (policy.staticCoefficient rule.name * tuner.decayFactor)
        (policy.staticCoefficient rule.name)) := by
  obtain ⟨baseEq, currentEq⟩ := createState_fresh unset rule.name
  have met : ¬ efficiency 0 0 < tuner.violation := not_lt.mpr tuner.violation_le
  have perfect : tuner.perfection ≤ efficiency 0 0 := tuner.perfection_le
  rw [live_observe_fresh unseen, adjust, if_neg met, if_pos perfect, baseEq, currentEq]

/-- A perfect first observation tells that a rule is not negative and has the static
coefficient of its name. -/
theorem static_of_directed (unseen : tuner.states = .empty) (unset : policy.overrides = .empty)
    (directed : ∀ rule ∈ policy.rules, Directed (tuner, policy) rule) {rule : PolicyRule}
    (member : rule ∈ policy.rules) :
    0 ≤ rule.valueCoefficient ∧ policy.staticCoefficient rule.name = rule.valueCoefficient := by
  have lowers : ∀ other ∈ policy.rules,
      max 0 (max (policy.staticCoefficient other.name * tuner.decayFactor)
        (policy.staticCoefficient other.name)) ≤ other.valueCoefficient := by
    intro other otherMember
    have decays := (directed other otherMember).decays 0 0 (not_lt.mpr tuner.violation_le)
      tuner.perfection_le
    rw [live_perfect_fresh unseen unset] at decays
    simpa [live, unset] using decays
  obtain ⟨first, firstMember, firstName, firstEq⟩ := staticCoefficient_spec member
  have nonneg : 0 ≤ policy.staticCoefficient rule.name := by
    rw [← firstEq]
    exact (le_max_left _ _).trans (lowers first firstMember)
  have kept := (directed rule member).floored rule.name 0 0
  rw [live_perfect_fresh unseen unset,
    max_eq_right (mul_le_of_le_one_right nonneg tuner.decayFactor_le_one),
    max_eq_right nonneg] at kept
  have below := lowers rule member
  exact ⟨(le_max_left _ _).trans below,
    le_antisymm (((le_max_right _ _).trans (le_max_right _ _)).trans below) kept⟩

/-- A missed first observation tells that a rule is not above the ceiling. -/
theorem le_max_of_directed (unseen : tuner.states = .empty) (unset : policy.overrides = .empty)
    {rule : PolicyRule} (directed : Directed (tuner, policy) rule) :
    rule.valueCoefficient ≤ tuner.maxCoeff := by
  have violated : efficiency (-1) 1 < tuner.violation := by
    apply lt_of_lt_of_le _ tuner.violation_nonneg
    norm_num [efficiency]
  have boosts := directed.boosts (-1) 1 violated
  rw [live_observe_fresh unseen, adjust, if_pos violated] at boosts
  have before : live (tuner, policy) rule.name rule.valueCoefficient = rule.valueCoefficient := by
    simp [live, unset]
  rw [before] at boosts
  exact boosts.trans (max_le tuner.maxCoeff_nonneg (min_le_right _ _))

/-- The runs of a fresh tuner move every rule in the right direction exactly when no rule is
negative or above the ceiling and rules of one name have one coefficient. -/
theorem run_directed_iff (unseen : tuner.states = .empty) (unset : policy.overrides = .empty) :
    (∀ calls, ∀ rule ∈ policy.rules,
      Directed (Machine.run ValueCoefficientTuner.call (tuner, policy) calls).2 rule) ↔
      ∀ rule ∈ policy.rules, 0 ≤ rule.valueCoefficient ∧ rule.valueCoefficient ≤ tuner.maxCoeff ∧
        ∀ other ∈ policy.rules, other.name = rule.name →
          other.valueCoefficient = rule.valueCoefficient := by
  constructor
  · intro directed rule member
    have initially : ∀ rule ∈ policy.rules, Directed (tuner, policy) rule := directed []
    have static (other : PolicyRule) (otherMember : other ∈ policy.rules) :=
      static_of_directed unseen unset initially otherMember
    refine ⟨(static rule member).1, le_max_of_directed unseen unset (initially rule member), ?_⟩
    intro other otherMember sameName
    rw [← (static other otherMember).2, ← (static rule member).2, sameName]
  · intro ordered calls rule member
    obtain ⟨nonneg, le_max, agree⟩ := ordered rule member
    have static : policy.staticCoefficient rule.name = rule.valueCoefficient := by
      obtain ⟨first, firstMember, firstName, firstEq⟩ := staticCoefficient_spec member
      rw [← firstEq, agree first firstMember firstName]
    have fresh : Tuned (tuner, policy) rule.name rule.valueCoefficient :=
      tuned_fresh unseen unset le_max rule.name
    apply directed_of_tuned (run_tuned fresh nonneg static calls) nonneg
    rw [staticCoefficient_of_sameRules (run_sameRules _ calls), static]

end Fresh

/-- Over a built policy, observations move every rule in the right direction in every state a
fresh tuner reaches exactly when no rule is negative or above the ceiling and rules of one
name have one coefficient. -/
theorem directed_iff {policy : FlowValuePolicy} (built : policy.Built)
    (boostFactor decayFactor maxCoefficient perfectionThresholdPct violationThresholdPct : ℚ) :
    (∀ calls, ∀ rule ∈ policy.rules,
      Directed (Machine.run ValueCoefficientTuner.call
        (.init boostFactor decayFactor maxCoefficient perfectionThresholdPct
          violationThresholdPct, policy) calls).2 rule) ↔
      ∀ rule ∈ policy.rules, 0 ≤ rule.valueCoefficient ∧
        rule.valueCoefficient ≤ max 0 maxCoefficient ∧
        ∀ other ∈ policy.rules, other.name = rule.name →
          other.valueCoefficient = rule.valueCoefficient := by
  have unseen : (init boostFactor decayFactor maxCoefficient perfectionThresholdPct
      violationThresholdPct).states = .empty := rfl
  exact run_directed_iff unseen built.unset

/-- The voice rule of the presets at a revenue scale of 1000. -/
def scaledVoip : PolicyRule where
  name := "voip"
  priority := .critical
  ports := [5060, 5061, 5004, 5005]
  protocols := ["udp", "tcp"]
  description := "VoIP / real-time audio (SIP + RTP)"
  valueCoefficient := 100000

/-- At a revenue scale of 1000 the coefficient of voice is ten times the default ceiling, and
the observation of a rate of 50 where 100 is due lowers it there. -/
theorem scaled_presets_not_directed :
    (FlowValuePolicy.fromPresets 1000).Built ∧
      efficiency 50 100 < ValueCoefficientTuner.init.violation ∧
      live (ValueCoefficientTuner.init, FlowValuePolicy.fromPresets 1000) "voip" 100000 = 100000 ∧
      live (ValueCoefficientTuner.init.observe (FlowValuePolicy.fromPresets 1000) "voip" 50 100).2
        "voip" 100000 = 10000 ∧
      ¬ ∀ calls, ∀ rule ∈ (FlowValuePolicy.fromPresets 1000).rules,
        Directed (Machine.run ValueCoefficientTuner.call
          (.init, FlowValuePolicy.fromPresets 1000) calls).2 rule := by
  have violated : efficiency 50 100 < ValueCoefficientTuner.init.violation := by decide +kernel
  have before : live (ValueCoefficientTuner.init, FlowValuePolicy.fromPresets 1000) "voip" 100000 =
      100000 := by
    decide +kernel
  have after : live (ValueCoefficientTuner.init.observe (FlowValuePolicy.fromPresets 1000) "voip"
      50 100).2 "voip" 100000 = 10000 := by
    decide +kernel
  refine ⟨.fromPresets (by norm_num) .empty, violated, before, after, ?_⟩
  intro directed
  have member : scaledVoip ∈ (FlowValuePolicy.fromPresets 1000).rules := by decide +kernel
  have boosts : live (ValueCoefficientTuner.init, FlowValuePolicy.fromPresets 1000) "voip" 100000 ≤
      live (ValueCoefficientTuner.init.observe (FlowValuePolicy.fromPresets 1000) "voip" 50 100).2
        "voip" 100000 := (directed [] _ member).boosts 50 100 violated
  rw [before, after] at boosts
  exact absurd boosts (by decide +kernel)

/-- The unscaled presets lie below the ceiling. -/
theorem presets_directed :
    FlowValuePolicy.fromPresets.Built ∧
      ∀ calls, ∀ rule ∈ FlowValuePolicy.fromPresets.rules,
        Directed (Machine.run ValueCoefficientTuner.call
          (.init (6 / 5) (95 / 100) 10000 (995 / 10) 90, .fromPresets) calls).2 rule := by
  have built : FlowValuePolicy.fromPresets.Built := .fromPresets zero_le_one .empty
  exact ⟨built, (directed_iff built (6 / 5) (95 / 100) 10000 (995 / 10) 90).mpr
    (by decide +kernel)⟩

end ValueCoefficientTuner

end SmartBandwidth

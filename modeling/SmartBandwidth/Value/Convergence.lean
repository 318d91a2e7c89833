import SmartBandwidth.Value.Monotone

/-!
# Convergence of the tuner

Under violations the coefficient of a rule climbs to the ceiling, and under perfect delivery
it drifts back to the static coefficient.  Both bounds are reached after a number of
observations that does not depend on the calls before them.
-/

namespace SmartBandwidth

namespace ValueCoefficientTuner

open TunedPolicy

/-- The coefficient that the tuner has on record for a rule and that packets get which match
the rule first. -/
structure Effective (shared : TunedPolicy) (rule : PolicyRule) (coefficient : ℚ) : Prop where
  recorded : ∀ state, shared.1.states.get? rule.name = some state →
    state.currentCoefficient = coefficient
  matching : ∀ rt packet index, shared.2.matchingRule rt packet = some (index, rule) →
    shared.2.getCoefficient rt packet = coefficient

variable {controller : Controller ℚ}

theorem Follows.effective {rule : PolicyRule} {value : ℚ} {shared : TunedPolicy}
    (follows : Follows controller rule.name value shared)
    (static : rule.valueCoefficient = controller.floor) : Effective shared rule value where
  recorded := by
    intro state stored
    rw [follows.tuned.state_current state stored]
    exact follows.live
  matching := fun rt _ _ first => follows.getCoefficient static rt first

/-! ## Stretches of one kind of observation -/

/-- Calls without a reset that report only efficiencies of one kind for a name. -/
structure Stretch (ruleName : String) (kind : ℚ → Prop) (calls : List TunerCall) : Prop where
  kept : ∀ call ∈ calls, ¬ call.resets ruleName
  reported : ∀ percent ∈ calls.filterMap (TunerCall.percent? ruleName), kind percent

theorem track_of_percent? {ruleName : String} {call : TunerCall}
    (kept : ¬ call.resets ruleName) (value : ℚ) :
    track controller ruleName value call =
      (call.percent? ruleName).elim value (controller.next value) := by
  cases call with
  | observe observedName deliveredRate slaMinRate =>
      rw [track, TunerCall.percent?]
      split
      next => rfl
      next => rfl
  | observeContract observedName deliveredRate contract =>
      rw [track, TunerCall.percent?]
      split
      next => rfl
      next => rfl
  | reset resetName =>
      have other : resetName ≠ ruleName := kept
      rw [track, if_neg other]
      rfl
  | resetAll => exact absurd trivial kept

/-- Without resets the value depends on the reported efficiencies alone. -/
theorem foldl_track {ruleName : String} {calls : List TunerCall}
    (kept : ∀ call ∈ calls, ¬ call.resets ruleName) (value : ℚ) :
    calls.foldl (track controller ruleName) value =
      controller.final value (calls.filterMap (TunerCall.percent? ruleName)) := by
  induction calls generalizing value with
  | nil => rfl
  | cons call rest ih =>
      rw [List.forall_mem_cons] at kept
      rw [List.foldl_cons, ih kept.2, track_of_percent? kept.1, List.filterMap_cons]
      cases call.percent? ruleName with
      | none => rfl
      | some percent => rfl

/-- After any calls, a stretch takes the value where its efficiencies take the controller. -/
theorem run_stretch {ruleName : String} {value : ℚ} {shared : TunedPolicy}
    (follows : Follows controller ruleName value shared) {kind : ℚ → Prop}
    (before : List TunerCall) {after : List TunerCall} (stretch : Stretch ruleName kind after) :
    ∃ reached, controller.Bounded reached ∧
      Follows controller ruleName
        (controller.final reached (after.filterMap (TunerCall.percent? ruleName)))
        (Machine.run ValueCoefficientTuner.call shared (before ++ after)).2 := by
  have there := run_follows follows before
  refine ⟨before.foldl (track controller ruleName) value, there.bounded, ?_⟩
  have final := run_follows there after
  rw [foldl_track stretch.kept] at final
  rw [Machine.run_append]
  exact final

/-- Where enough signals of a kind take the controller to a bound, enough reports of the kind
make the bound effective. -/
theorem effective_after {rule : PolicyRule} {value : ℚ} {shared : TunedPolicy}
    (follows : Follows controller rule.name value shared)
    (static : rule.valueCoefficient = controller.floor) {kind : ℚ → Prop} {bound : ℚ}
    {enough : Nat}
    (reaches : ∀ value, controller.Bounded value → ∀ signals : List ℚ,
      (∀ signal ∈ signals, kind signal) → enough ≤ signals.length →
      controller.final value signals = bound)
    (before : List TunerCall) {after : List TunerCall}
    (stretch : Stretch rule.name kind after)
    (long : enough ≤ (after.filterMap (TunerCall.percent? rule.name)).length) :
    Effective (Machine.run ValueCoefficientTuner.call shared (before ++ after)).2 rule bound := by
  obtain ⟨reached, bounded, final⟩ := run_stretch follows before stretch
  rw [reaches reached bounded _ stretch.reported long] at final
  exact final.effective static

section Converges

variable (policy : FlowValuePolicy)
  (boostFactor decayFactor maxCoefficient perfectionThresholdPct violationThresholdPct : ℚ)

/-- A rule that has the static coefficient of its name, above 0 and at most the ceiling: from
every state that calls on a fresh tuner and policy reach, violations bring it to the ceiling
and perfect delivery brings it back to the static coefficient. -/
theorem converges (unset : policy.overrides = .empty) (rule : PolicyRule)
    (static : policy.staticCoefficient rule.name = rule.valueCoefficient)
    (positive : 0 < rule.valueCoefficient) (le_max : rule.valueCoefficient ≤ maxCoefficient) :
    let tuner := init boostFactor decayFactor maxCoefficient perfectionThresholdPct
      violationThresholdPct
    let reached := fun calls => (Machine.run ValueCoefficientTuner.call (tuner, policy) calls).2
    let reports := fun calls : List TunerCall =>
      (calls.filterMap (TunerCall.percent? rule.name)).length
    (1 < boostFactor → ∃ enough, ∀ before after,
      Stretch rule.name (fun percent => percent < tuner.violation) after →
      enough ≤ reports after → Effective (reached (before ++ after)) rule maxCoefficient) ∧
    (decayFactor < 1 → ∃ enough, ∀ before after,
      Stretch rule.name
        (fun percent => ¬ percent < tuner.violation ∧ tuner.perfection ≤ percent) after →
      enough ≤ reports after →
      Effective (reached (before ++ after)) rule rule.valueCoefficient) := by
  intro tuner reached reports
  have ceiling : tuner.maxCoeff = maxCoefficient := max_eq_right (positive.le.trans le_max)
  have baseNonneg : 0 ≤ policy.staticCoefficient rule.name := positive.le.trans_eq static.symm
  have base_le : policy.staticCoefficient rule.name ≤ tuner.maxCoeff :=
    (static.trans_le le_max).trans_eq ceiling.symm
  have follows : Follows (tuner.controller baseNonneg base_le) rule.name
      (policy.staticCoefficient rule.name) (tuner, policy) :=
    fresh_follows rfl unset rule.name baseNonneg base_le
  have floor : 0 < (tuner.controller baseNonneg base_le).floor := positive.trans_eq static.symm
  constructor
  · intro boosts
    obtain ⟨enough, reaches⟩ :=
      Controller.exists_final_eq_ceiling (lt_max_of_lt_right boosts) floor
    refine ⟨enough, ?_⟩
    intro before after stretch long
    rw [← ceiling]
    exact effective_after follows static.symm reaches before stretch long
  · intro decays
    have decrease : (tuner.controller baseNonneg base_le).decrease < 1 :=
      min_lt_of_right_lt (max_lt zero_lt_one decays)
    obtain ⟨enough, reaches⟩ := Controller.exists_final_eq_floor decrease floor
    refine ⟨enough, ?_⟩
    intro before after stretch long
    rw [← static]
    exact effective_after follows static.symm reaches before stretch long

end Converges

theorem converges_calls :
    let reached := fun calls =>
      (Machine.run ValueCoefficientTuner.call (init, FlowValuePolicy.init [callRule] 1) calls).2
    let reports := fun calls : List TunerCall =>
      (calls.filterMap (TunerCall.percent? "calls")).length
    ((1 : ℚ) < 6 / 5 → ∃ enough, ∀ before after,
      Stretch "calls" (fun percent => percent < init.violation) after →
      enough ≤ reports after → Effective (reached (before ++ after)) callRule 10000) ∧
    ((95 / 100 : ℚ) < 1 → ∃ enough, ∀ before after,
      Stretch "calls"
        (fun percent => ¬ percent < init.violation ∧ init.perfection ≤ percent) after →
      enough ≤ reports after → Effective (reached (before ++ after)) callRule 10) :=
  converges (.init [callRule] 1) (6 / 5) (95 / 100) 10000 (995 / 10) 90 rfl callRule rfl
    (by decide +kernel) (by decide +kernel)

/-! ## Observations that do not bring the coefficient back -/

/-- After an observation every packet that matches a rule of the name first, whichever it is,
gets the next value. -/
theorem getCoefficient_observe {ruleName : String} {value : ℚ} {shared : TunedPolicy}
    (follows : Follows controller ruleName value shared) {rt : Runtime} {packet : Packet}
    {index : Nat} {rule : PolicyRule} (named : rule.name = ruleName)
    (first : shared.2.matchingRule rt packet = some (index, rule))
    (deliveredRate slaMinRate : ℚ) :
    (shared.1.observe shared.2 ruleName deliveredRate slaMinRate).2.2.getCoefficient rt packet =
      controller.next value (efficiency deliveredRate slaMinRate) := by
  have answer := (observe_next follows deliveredRate slaMinRate).1
  rw [observe_answer] at answer
  have rules := (observe_sameRules shared ruleName deliveredRate slaMinRate).rules
  rw [getCoefficient_of_matchingRule rt rules first, TunedPolicy.live, named, observe_overrides,
    if_pos rfl, Option.getD_some, answer]
  exact max_eq_right (Controller.next_bounded follows.bounded _).nonneg

/-- Equal observations never settle at a coefficient that no next value has. -/
theorem not_settled {ruleName : String} {value : ℚ} {shared : TunedPolicy}
    (follows : Follows controller ruleName value shared) {rt : Runtime} {packet : Packet}
    {index : Nat} {rule : PolicyRule} (named : rule.name = ruleName)
    (first : shared.2.matchingRule rt packet = some (index, rule))
    (deliveredRate slaMinRate : ℚ) {target : ℚ}
    (missed : ∀ reached, controller.Bounded reached →
      controller.next reached (efficiency deliveredRate slaMinRate) ≠ target) :
    ¬ ∃ enough, ∀ count, enough ≤ count →
      (Machine.run ValueCoefficientTuner.call shared (List.replicate count
        (.observe ruleName deliveredRate slaMinRate))).2.2.getCoefficient rt packet = target := by
  intro ⟨enough, settled⟩
  have there := run_follows follows
    (List.replicate enough (.observe ruleName deliveredRate slaMinRate))
  have rules := (run_sameRules shared
    (List.replicate enough (.observe ruleName deliveredRate slaMinRate))).rules
  have firstThere : (Machine.run ValueCoefficientTuner.call shared (List.replicate enough
      (.observe ruleName deliveredRate slaMinRate))).2.2.matchingRule rt packet =
        some (index, rule) := by
    rw [FlowValuePolicy.matchingRule, rules]
    exact first
  have last := settled (enough + 1) (Nat.le_succ enough)
  rw [List.replicate_succ', Machine.run_snoc_final] at last
  apply missed _ there.bounded
  rw [← last]
  exact (getCoefficient_observe there named firstThere deliveredRate slaMinRate).symm

/-- Two rules of one name. -/
def callPolicy : FlowValuePolicy :=
  .init [{ callRule with ports := [5061], valueCoefficient := 70 }, callRule] 1

/-- The default tuner but for a perfection threshold below the violation threshold. -/
def crossedTuner : ValueCoefficientTuner := init (6 / 5) (95 / 100) 10000 50 90

/-- Perfect delivery brings the packets of the second of two rules of one name to the static
coefficient of the first; and delivery between crossed thresholds is a violation to the
tuner. -/
theorem not_back :
    (¬ ∃ enough, ∀ count, enough ≤ count →
      (Machine.run ValueCoefficientTuner.call (init, callPolicy)
        (List.replicate count (.observe "calls" 100 100))).2.2.getCoefficient .plain
          { dstPort := 5060 } = callRule.valueCoefficient) ∧
    ¬ ∃ enough, ∀ count, enough ≤ count →
      (Machine.run ValueCoefficientTuner.call (crossedTuner, .init [callRule] 1)
        (List.replicate count (.observe "calls" 60 100))).2.2.getCoefficient .plain
          { dstPort := 5060 } = callRule.valueCoefficient := by
  constructor
  · have nonneg : 0 ≤ callPolicy.staticCoefficient "calls" := by decide +kernel
    have le_max : callPolicy.staticCoefficient "calls" ≤ init.maxCoeff := by decide +kernel
    have follows : Follows (init.controller nonneg le_max) "calls" _ (init, callPolicy) :=
      fresh_follows rfl rfl "calls" nonneg le_max
    have first : callPolicy.matchingRule .plain { dstPort := 5060 } = some (1, callRule) := by
      decide +kernel
    apply not_settled follows rfl first 100 100
    intro reached bounded same
    have kept := (Controller.next_bounded bounded (efficiency 100 100)).floor_le
    rw [same] at kept
    have below : callPolicy.staticCoefficient "calls" ≤ callRule.valueCoefficient := kept
    exact absurd below (by decide +kernel)
  · have base : (FlowValuePolicy.init [callRule] 1).staticCoefficient "calls" = 10 := by
      decide +kernel
    have le_max : (FlowValuePolicy.init [callRule] 1).staticCoefficient "calls" ≤
        crossedTuner.maxCoeff := by decide +kernel
    have nonneg : 0 ≤ (FlowValuePolicy.init [callRule] 1).staticCoefficient "calls" :=
      base.symm ▸ Nat.ofNat_nonneg 10
    have follows : Follows (crossedTuner.controller nonneg le_max) "calls" _
        (crossedTuner, .init [callRule] 1) := fresh_follows rfl rfl "calls" nonneg le_max
    have first : (FlowValuePolicy.init [callRule] 1).matchingRule .plain { dstPort := 5060 } =
        some (0, callRule) := by
      decide +kernel
    have violates : efficiency 60 100 < crossedTuner.violation := by decide +kernel
    have low : (crossedTuner.controller nonneg le_max).Low (efficiency 60 100) := violates
    have boost : crossedTuner.boostFactor = 6 / 5 := by decide +kernel
    have ceiling : crossedTuner.maxCoeff = 10000 := by decide +kernel
    apply not_settled follows rfl first 60 100
    intro reached bounded same
    have above : (10 : ℚ) ≤ reached := base.symm.trans_le bounded.floor_le
    have boosted : 10 < min (reached * crossedTuner.boostFactor) crossedTuner.maxCoeff := by
      rw [boost, ceiling]
      exact lt_min (by linarith) (by norm_num)
    rw [Controller.next_of_low low] at same
    exact boosted.ne' same

end ValueCoefficientTuner

end SmartBandwidth

import SmartBandwidth.Value.Dynamics
import Mathlib.Data.List.Forall2

/-!
# Worse delivery

Of two tenants with the same agreement the one that gets less should not end with the lower
coefficient.  The tuner finds the static coefficient by the name of the rule, so this is
about rules that have the coefficient of their name.
-/

namespace SmartBandwidth

/-- The numbers of one observation. -/
structure Observation where
  deliveredRate : ℚ
  slaMinRate : ℚ

/-- The first observation reports no more delivery than the second, under the same agreement. -/
structure Observation.Worse (worse better : Observation) : Prop where
  delivered : worse.deliveredRate ≤ better.deliveredRate
  agreed : worse.slaMinRate = better.slaMinRate

namespace ValueCoefficientTuner

open TunedPolicy

/-- `observe` on one rule, as a step of a machine. -/
def observation (ruleName : String) (shared : TunedPolicy) (seen : Observation) :
    ℚ × TunedPolicy :=
  shared.1.observe shared.2 ruleName seen.deliveredRate seen.slaMinRate

theorem efficiency_mono {worse better : Observation} (ordered : worse.Worse better) :
    efficiency worse.deliveredRate worse.slaMinRate ≤
      efficiency better.deliveredRate better.slaMinRate := by
  rw [efficiency, efficiency, ordered.agreed]
  split
  next positive =>
    have hundred : (0 : ℚ) ≤ 100 := Nat.ofNat_nonneg 100
    exact div_le_div_of_nonneg_right (mul_le_mul_of_nonneg_left ordered.delivered hundred)
      positive.le
  next => exact le_rfl

section Coupled

variable {controller : Controller ℚ} {ruleName : String}

theorem observation_follows {value : ℚ} {shared : TunedPolicy}
    (follows : Follows controller ruleName value shared) (seen : Observation) :
    Follows controller ruleName
      (controller.next value (efficiency seen.deliveredRate seen.slaMinRate))
      (observation ruleName shared seen).2 := by
  have moved := call_follows follows (.observe ruleName seen.deliveredRate seen.slaMinRate)
  rwa [track, if_pos rfl] at moved

/-- Observations find the same rule for a packet throughout. -/
theorem run_observation_matchingRule (rt : Runtime) (shared : TunedPolicy)
    (seen : List Observation) (packet : Packet) :
    (Machine.run (observation ruleName) shared seen).2.2.matchingRule rt packet =
      shared.2.matchingRule rt packet := by
  have kept : (Machine.run (observation ruleName) shared seen).2.2.rules = shared.2.rules :=
    Machine.run_invariant
      (fun current next same => (observe_sameRules current ruleName next.deliveredRate
        next.slaMinRate).rules.trans same) rfl seen
  rw [FlowValuePolicy.matchingRule, kept]
  rfl

/-- Two runs, the first on worse delivery: every answer of the first is at least that of the
second, and so is the coefficient in the end. -/
theorem run_coupled {less more : ℚ} {left right : TunedPolicy} (ordered : less ≤ more)
    (leftFollows : Follows controller ruleName more left)
    (rightFollows : Follows controller ruleName less right) {worse better : List Observation}
    (pairs : List.Forall₂ Observation.Worse worse better) :
    List.Forall₂ (fun leftAnswer rightAnswer => rightAnswer ≤ leftAnswer)
        (Machine.run (observation ruleName) left worse).1
        (Machine.run (observation ruleName) right better).1 ∧
      ∃ lessAfter moreAfter, lessAfter ≤ moreAfter ∧
        Follows controller ruleName moreAfter (Machine.run (observation ruleName) left worse).2 ∧
        Follows controller ruleName lessAfter
          (Machine.run (observation ruleName) right better).2 := by
  induction pairs generalizing less more left right with
  | nil => exact ⟨.nil, less, more, ordered, leftFollows, rightFollows⟩
  | @cons worseSeen betterSeen _ _ first _ ih =>
      have next := Controller.next_mono ordered rightFollows.bounded leftFollows.bounded
        (efficiency_mono first)
      obtain ⟨answers, final⟩ := ih next (observation_follows leftFollows worseSeen)
        (observation_follows rightFollows betterSeen)
      have leftAnswer := (observe_next leftFollows worseSeen.deliveredRate
        worseSeen.slaMinRate).1
      have rightAnswer := (observe_next rightFollows betterSeen.deliveredRate
        betterSeen.slaMinRate).1
      rw [Machine.run_cons, Machine.run_cons]
      refine ⟨.cons ?_ answers, final⟩
      rw [observation, observation, leftAnswer, rightAnswer]
      exact next

end Coupled

/-- Every observation of a name leaves an override under it. -/
theorem run_observation_overrides (ruleName : String) (shared : TunedPolicy) (first : Observation)
    (rest : List Observation) :
    ∃ coefficient, (Machine.run (observation ruleName) shared
      (first :: rest)).2.2.overrides.get? ruleName = some coefficient := by
  have written : ∀ (shared : TunedPolicy) (seen : Observation),
      ∃ coefficient, (observation ruleName shared seen).2.2.overrides.get? ruleName =
        some coefficient := by
    intro shared seen
    exact ⟨_, (observe_overrides shared ruleName seen.deliveredRate seen.slaMinRate
      ruleName).trans (if_pos rfl)⟩
  have stays : ∀ shared seen, (∃ coefficient : ℚ, shared.2.overrides.get? ruleName =
      some coefficient) → ∃ coefficient,
        (observation ruleName shared seen).2.2.overrides.get? ruleName = some coefficient :=
    fun shared seen _ => written shared seen
  rw [Machine.run_cons]
  exact Machine.run_invariant stays (written shared first) rest

/-- An override is what packets of its rules get, whatever their own coefficient. -/
theorem Follows.getCoefficient_of_override {controller : Controller ℚ} {value coefficient : ℚ}
    {shared : TunedPolicy} {rule : PolicyRule} (follows : Follows controller rule.name value shared)
    (stored : shared.2.overrides.get? rule.name = some coefficient) (rt : Runtime)
    {packet : Packet} {index : Nat} (first : shared.2.matchingRule rt packet = some (index, rule)) :
    shared.2.getCoefficient rt packet = value := by
  have live := follows.live
  rw [TunedPolicy.live, stored, Option.getD_some] at live
  rw [getCoefficient_of_matchingRule rt rfl first, TunedPolicy.live, stored, Option.getD_some, live]

/-- Over a fresh tuner and policy, a rule for whose name the tuner finds a static coefficient
between 0 and the ceiling gets after every observation of worse delivery a coefficient at least
as high as after the same observation of better delivery. -/
theorem worse_delivery_le (policy : FlowValuePolicy) (unset : policy.overrides = .empty)
    (boostFactor decayFactor maxCoefficient perfectionThresholdPct violationThresholdPct : ℚ)
    (rule : PolicyRule) (nonneg : 0 ≤ policy.staticCoefficient rule.name)
    (le_max : policy.staticCoefficient rule.name ≤ maxCoefficient)
    (worse better : List Observation) (pairs : List.Forall₂ Observation.Worse worse better) :
    let tuner := init boostFactor decayFactor maxCoefficient perfectionThresholdPct
      violationThresholdPct
    let left := Machine.run (observation rule.name) (tuner, policy) worse
    let right := Machine.run (observation rule.name) (tuner, policy) better
    List.Forall₂ (fun leftAnswer rightAnswer => rightAnswer ≤ leftAnswer) left.1 right.1 ∧
      ∀ rt packet index, policy.matchingRule rt packet = some (index, rule) →
        right.2.2.getCoefficient rt packet ≤ left.2.2.getCoefficient rt packet := by
  intro tuner left right
  have base_le : policy.staticCoefficient rule.name ≤ tuner.maxCoeff :=
    le_max.trans (le_max_right 0 maxCoefficient)
  have follows : Follows (tuner.controller nonneg base_le) rule.name
      (policy.staticCoefficient rule.name) (tuner, policy) :=
    fresh_follows rfl unset rule.name nonneg base_le
  obtain ⟨answers, less, more, ordered, leftFollows, rightFollows⟩ :=
    run_coupled le_rfl follows follows pairs
  refine ⟨answers, ?_⟩
  intro rt packet index first
  have leftFirst : left.2.2.matchingRule rt packet = some (index, rule) :=
    (run_observation_matchingRule rt (tuner, policy) worse packet).trans first
  have rightFirst : right.2.2.matchingRule rt packet = some (index, rule) :=
    (run_observation_matchingRule rt (tuner, policy) better packet).trans first
  cases pairs with
  | nil => exact le_rfl
  | cons =>
      obtain ⟨_, leftStored⟩ := run_observation_overrides rule.name (tuner, policy) _ _
      obtain ⟨_, rightStored⟩ := run_observation_overrides rule.name (tuner, policy) _ _
      rw [leftFollows.getCoefficient_of_override leftStored rt leftFirst,
        rightFollows.getCoefficient_of_override rightStored rt rightFirst]
      exact ordered

/-- A rule for calls. -/
def callRule : PolicyRule :=
  { name := "calls", priority := .critical, ports := [5060], valueCoefficient := 10 }

theorem worse_delivery_le_calls :
    let tuner := init
    let left := Machine.run (observation "calls") (tuner, .init [callRule] 1) [⟨50, 100⟩]
    let right := Machine.run (observation "calls") (tuner, .init [callRule] 1) [⟨100, 100⟩]
    List.Forall₂ (fun leftAnswer rightAnswer => rightAnswer ≤ leftAnswer) left.1 right.1 ∧
      ∀ rt packet index,
        (FlowValuePolicy.init [callRule] 1).matchingRule rt packet = some (index, callRule) →
        right.2.2.getCoefficient rt packet ≤ left.2.2.getCoefficient rt packet :=
  worse_delivery_le (.init [callRule] 1) rfl (6 / 5) (95 / 100) 10000 (995 / 10) 90 callRule
    (by decide +kernel) (by decide +kernel) [⟨50, 100⟩] [⟨100, 100⟩]
    (.cons ⟨by decide +kernel, rfl⟩ .nil)

/-- A rule for calls over the ceiling, before another one of the same name within the bounds. -/
def callRules : List PolicyRule :=
  [{ callRule with ports := [5061], valueCoefficient := 20000 }, callRule]

/-- The tuner takes the coefficient of the first rule for both, and worse delivery brings it
down to the ceiling. -/
theorem worse_delivery_lowers :
    let after := fun seen : Observation =>
      Machine.run (observation callRule.name) (init, FlowValuePolicy.init callRules 1) [seen]
    callRule ∈ callRules ∧ 0 ≤ callRule.valueCoefficient ∧ callRule.valueCoefficient ≤ 10000 ∧
      Observation.Worse ⟨50, 100⟩ ⟨100, 100⟩ ∧
      (after ⟨50, 100⟩).1 = [10000] ∧ (after ⟨100, 100⟩).1 = [20000] ∧
      (after ⟨50, 100⟩).2.2.getCoefficient .plain { dstPort := 5060 } = 10000 ∧
      (after ⟨100, 100⟩).2.2.getCoefficient .plain { dstPort := 5060 } = 20000 := by
  refine ⟨by decide, by decide +kernel, by decide +kernel, ⟨by decide +kernel, rfl⟩, ?_⟩
  decide +kernel

end ValueCoefficientTuner

end SmartBandwidth

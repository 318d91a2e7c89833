import SmartBandwidth.Pipeline.TunedBooks

/-!
# How far a tuner moves the books

A tuner keeps every coefficient between the static one and its ceiling.  It drops and forwards the
same packets as the static policy, so the totals that it books lie between those of the static
policy and those of the policy that gives every rule the ceiling.
-/

namespace SmartBandwidth

/-- The policy whose rules all give one coefficient. -/
def FlowValuePolicy.flattened (policy : FlowValuePolicy) (coefficient : ℚ) : FlowValuePolicy :=
  { policy with
    rules := policy.rules.map fun rule => { rule with valueCoefficient := coefficient } }

/-- Calls on the optimizer and on the tuner. -/
def LoopCall.tunes : LoopCall → Bool
  | .forward _ | .control (.tuner _) => true
  | .control (.setOverride ..) | .control (.clearOverride _) => false

/-! ## The coefficients of a tuned policy -/

namespace ValueCoefficientTuner

open TunedPolicy

theorem reset_default (shared : TunedPolicy) (ruleName : String) :
    (shared.1.reset shared.2 ruleName).2.defaultCoefficient = shared.2.defaultCoefficient := by
  rw [reset]
  split <;> rfl

theorem call_default (shared : TunedPolicy) (call : TunerCall) :
    (ValueCoefficientTuner.call shared call).2.2.defaultCoefficient =
      shared.2.defaultCoefficient := by
  cases call with
  | observe | observeContract => rfl
  | reset ruleName => exact reset_default shared ruleName
  | resetAll =>
      exact resetAll_induction
        (fun current => current.2.defaultCoefficient = shared.2.defaultCoefficient)
        (fun current name same => (reset_default current name).trans same) rfl

end ValueCoefficientTuner

/-- The shared policy has the rules of `values`, all tuned between their static coefficients and the
ceiling. -/
structure TunedPolicy.Within (values : FlowValuePolicy) (ceiling : ℚ) (shared : TunedPolicy) :
    Prop where
  rules : shared.2.rules = values.rules
  default : shared.2.defaultCoefficient = values.defaultCoefficient
  ceiling : shared.1.maxCoeff = ceiling
  tuned : ∀ rule ∈ values.rules, TunedPolicy.Tuned shared rule.name rule.valueCoefficient

namespace TunedPolicy.Within

variable {values : FlowValuePolicy} {ceiling : ℚ} {shared : TunedPolicy}

theorem call (within : shared.Within values ceiling)
    (distinct : (values.rules.map PolicyRule.name).Nodup)
    (nonneg : ∀ rule ∈ values.rules, 0 ≤ rule.valueCoefficient) (call : TunerCall) :
    TunedPolicy.Within values ceiling (ValueCoefficientTuner.call shared call).2 := by
  have same := ValueCoefficientTuner.call_sameRules shared call
  have static (rule : PolicyRule) (member : rule ∈ values.rules) :
      shared.2.staticCoefficient rule.name = rule.valueCoefficient := by
    have staticEq := ValueCoefficientTuner.staticCoefficient_of_mem distinct member
    rw [FlowValuePolicy.staticCoefficient] at staticEq ⊢
    rw [within.rules]
    exact staticEq
  exact
    { rules := same.rules.trans within.rules
      default := (ValueCoefficientTuner.call_default shared call).trans within.default
      ceiling := same.maxCoeff.trans within.ceiling
      tuned := by
        intro rule member
        exact ValueCoefficientTuner.call_tuned (within.tuned rule member) (nonneg rule member)
          (static rule member) call }

/-- What a packet gets lies between what it gets statically and at the ceiling. -/
theorem coefficient (within : shared.Within values ceiling) (unset : values.overrides = .empty)
    (rt : Runtime) (packet : Packet) :
    values.getCoefficient rt packet ≤ shared.2.getCoefficient rt packet ∧
      shared.2.getCoefficient rt packet ≤
        (values.flattened ceiling).getCoefficient rt packet := by
  have flattened : (values.flattened ceiling).matchingRule rt packet =
      (values.matchingRule rt packet).map
        fun found => (found.1, { found.2 with valueCoefficient := ceiling }) :=
    FirstMatch.firstMatch_map (fun _ => rfl) values.rules
  have current : shared.2.matchingRule rt packet = values.matchingRule rt packet := by
    rw [FlowValuePolicy.matchingRule, within.rules, FlowValuePolicy.matchingRule]
  cases found : values.matchingRule rt packet with
  | none =>
      rw [found] at flattened current
      rw [FlowValuePolicy.getCoefficient, found, FlowValuePolicy.getCoefficient, current,
        FlowValuePolicy.getCoefficient, flattened]
      exact ⟨within.default.ge, within.default.le⟩
  | some first =>
      obtain ⟨index, rule⟩ := first
      have tuned := within.tuned rule
        (List.mem_of_getElem? (FirstMatch.firstMatch_spec found).1)
      rw [found] at flattened
      rw [ValueCoefficientTuner.getCoefficient_of_matchingRule rt within.rules found,
        FlowValuePolicy.getCoefficient, found, FlowValuePolicy.getCoefficient, flattened]
      have bare : (values.flattened ceiling).overrides = .empty := unset
      simp only [Option.map_some, unset, bare, Dict.get?_empty, Option.getD_none]
      exact ⟨tuned.base_le, tuned.le_max.trans within.ceiling.le⟩

end TunedPolicy.Within

/-! ## Two runs side by side -/

/-- A relation of values that sums keep. -/
structure Additive (related : ℚ → ℚ → Prop) : Prop where
  zero : related 0 0
  add : ∀ {first second third fourth}, related first second → related third fourth →
    related (first + third) (second + fourth)

theorem additive_le : Additive (· ≤ ·) := ⟨le_rfl, add_le_add⟩

theorem additive_ge : Additive (· ≥ ·) := ⟨le_rfl, add_le_add⟩

/-- Both totals are related. -/
def RelatedTotals (related : ℚ → ℚ → Prop) (left right : ℚ × ℚ) : Prop :=
  related left.1 right.1 ∧ related left.2 right.2

theorem Additive.totals_add {related : ℚ → ℚ → Prop} (additive : Additive related)
    {first second third fourth : ℚ × ℚ} (firstly : RelatedTotals related first second)
    (secondly : RelatedTotals related third fourth) :
    RelatedTotals related (first + third) (second + fourth) :=
  ⟨additive.add firstly.1 secondly.1, additive.add firstly.2 secondly.2⟩

/-- Replies of one shape with related worths have related values. -/
theorem OptimizerReply.values_related {related : ℚ → ℚ → Prop} (additive : Additive related)
    {left right : OptimizerReply} (shapes : left.shape = right.shape)
    (worths : ∀ first second, left = .processed (.ok first) → right = .processed (.ok second) →
      related first.worth second.worth) : RelatedTotals related left.values right.values := by
  have nothing : RelatedTotals related 0 0 := ⟨additive.zero, additive.zero⟩
  cases left with
  | packet | packets | done =>
      cases right with
      | processed => cases shapes
      | packet | packets | done => exact nothing
  | processed first =>
      cases right with
      | packet | packets | done => cases shapes
      | processed second =>
          cases first with
          | error =>
              cases second with
              | error => exact nothing
              | ok => cases shapes
          | ok first =>
              cases second with
              | error => cases shapes
              | ok second =>
                  have related := worths first second rfl rfl
                  have results : ShapedReply.processed (.ok first.unvalued) =
                      .processed (.ok second.unvalued) := shapes
                  have unvalued : first.unvalued = second.unvalued :=
                    Except.ok.inj (ShapedReply.processed.inj results)
                  have same : first.unvalued.dropped = second.unvalued.dropped :=
                    congrArg ProcessResult.dropped unvalued
                  replace same : first.dropped = second.dropped := same
                  simp only [values, valueDelivered, valueLost, same]
                  cases second.dropped with
                  | true => exact ⟨additive.zero, related⟩
                  | false => exact ⟨related, additive.zero⟩

namespace BandwidthOptimizer

/-- Only `process` answers with a result, and it is worth the coefficient in force. -/
theorem call_worth {rt : Runtime} {state : BandwidthOptimizer × Store} {values : FlowValuePolicy}
    (policyEq : state.1.engine.flowValuePolicy = some values) {call : OptimizerCall}
    {result : ProcessResult}
    (answers : (BandwidthOptimizer.call rt state call).1 = .processed (.ok result)) :
    ∃ ref readings, call = .process ref readings ∧
      result.worth = values.getCoefficient rt (state.2 ref) := by
  cases call with
  | process ref readings =>
      exact ⟨ref, readings, rfl, worth_of_process policyEq (OptimizerReply.processed.inj answers)⟩
  | dequeue | drain | resetStats => cases answers
  | drainNext =>
      simp only [BandwidthOptimizer.call] at answers
      split at answers
      next => cases answers
      next => cases answers

end BandwidthOptimizer

theorem Packet.SameHeader.of_unvalued {left right : Packet}
    (same : left.unvalued = right.unvalued) : left.SameHeader right where
  srcPort := (congrArg Packet.srcPort same).symm
  dstPort := (congrArg Packet.dstPort same).symm
  protocol := (congrArg Packet.protocol same).symm

/-- A loop whose policy is tuned from `values`, and an optimizer that has had the same calls under
the static policy `other`, with related totals. -/
structure SideBySide (related : ℚ → ℚ → Prop) (config : OptimizerConfig)
    (values other : FlowValuePolicy) (ceiling : ℚ) (loop : FeedbackLoop)
    (static : BandwidthOptimizer × Store) : Prop where
  shapes : loop.shaped = BandwidthOptimizer.shaped static
  configured : static.1.Configured config (some other)
  tuned : ∃ policy, loop.optimizer.Configured config (some policy) ∧
    TunedPolicy.Within values ceiling (loop.tuner, policy)
  totals : RelatedTotals related static.1.engine.valueTotals loop.optimizer.engine.valueTotals

namespace SideBySide

variable {related : ℚ → ℚ → Prop} {config : OptimizerConfig} {values other : FlowValuePolicy}
variable {ceiling : ℚ} {loop : FeedbackLoop} {static : BandwidthOptimizer × Store} {rt : Runtime}

theorem forward (additive : Additive related)
    (covers : ∀ shared, TunedPolicy.Within values ceiling shared → ∀ packet,
      related (other.getCoefficient rt packet) (shared.2.getCoefficient rt packet))
    (side : SideBySide related config values other ceiling loop static) (call : OptimizerCall) :
    (BandwidthOptimizer.call rt (loop.optimizer, loop.store) call).1.shape =
        (BandwidthOptimizer.call rt static call).1.shape ∧
      SideBySide related config values other ceiling
        (FeedbackLoop.call rt loop (.forward call)).2
        (BandwidthOptimizer.call rt static call).2 := by
  obtain ⟨policy, configured, within⟩ := side.tuned
  have shapes := (BandwidthOptimizer.call_shape rt _ configured.positive call).symm.trans
    ((congrArg (Shaper.call rt · call) side.shapes).trans
      (BandwidthOptimizer.call_shape rt static side.configured.positive call))
  obtain ⟨replies, states⟩ := Prod.mk.inj shapes
  refine ⟨replies, states, BandwidthOptimizer.call_configured side.configured rt call,
    ⟨policy, BandwidthOptimizer.call_configured configured rt call, within⟩, ?_⟩
  have added := OptimizerReply.values_related additive replies.symm (by
    intro first second answers answers'
    obtain ⟨ref, readings, rfl, worth⟩ :=
      BandwidthOptimizer.call_worth side.configured.policyEq answers
    obtain ⟨_, _, same, worth'⟩ := BandwidthOptimizer.call_worth configured.policyEq answers'
    cases same
    have packets := congrFun (congrArg Prod.snd side.shapes) ref
    have header := Packet.SameHeader.of_unvalued packets
    rw [worth, worth', ← policy.getCoefficient_of_sameHeader rt header]
    exact covers (loop.tuner, policy) within (static.2 ref))
  have staticTotals := BandwidthOptimizer.call_values rt static side.configured.policyEq call
  have loopTotals :=
    BandwidthOptimizer.call_values rt (loop.optimizer, loop.store) configured.policyEq call
  rw [staticTotals]
  change RelatedTotals related _
    (BandwidthOptimizer.call rt (loop.optimizer, loop.store) call).2.1.engine.valueTotals
  rw [loopTotals]
  split
  next => exact ⟨additive.zero, additive.zero⟩
  next => exact additive.totals_add side.totals added

theorem tune (distinct : (values.rules.map PolicyRule.name).Nodup)
    (nonneg : ∀ rule ∈ values.rules, 0 ≤ rule.valueCoefficient)
    (side : SideBySide related config values other ceiling loop static) (call : TunerCall) :
    SideBySide related config values other ceiling (loop.control (.tuner call)) static := by
  obtain ⟨policy, configured, within⟩ := side.tuned
  obtain ⟨scheduler, tracker, engineEq⟩ := configured.pvm
  have totals := side.totals
  have limitEq := configured.limitEq
  rw [engineEq] at totals limitEq
  refine
    { shapes := (FeedbackLoop.control_shaped loop _).trans side.shapes
      configured := side.configured
      tuned := ?_
      totals := ?_ }
  · rw [FeedbackLoop.control_engine engineEq]
    exact ⟨_, ⟨configured.configEq, configured.filterEq, rfl, limitEq⟩,
      within.call distinct nonneg call⟩
  · rw [FeedbackLoop.control_engine engineEq]
    exact totals

theorem run (additive : Additive related)
    (covers : ∀ shared, TunedPolicy.Within values ceiling shared → ∀ packet,
      related (other.getCoefficient rt packet) (shared.2.getCoefficient rt packet))
    (distinct : (values.rules.map PolicyRule.name).Nodup)
    (nonneg : ∀ rule ∈ values.rules, 0 ≤ rule.valueCoefficient)
    (side : SideBySide related config values other ceiling loop static) {calls : List LoopCall}
    (tunes : ∀ call ∈ calls, call.tunes = true) :
    let final := Machine.run (FeedbackLoop.call rt) loop calls
    let final' := Machine.run (BandwidthOptimizer.call rt) static
      (calls.filterMap LoopCall.forwarded)
    final.1.filterMap (Option.map OptimizerReply.shape) = final'.1.map OptimizerReply.shape ∧
      SideBySide related config values other ceiling final.2 final'.2 := by
  apply Machine.run_stuttering (SideBySide related config values other ceiling)
    LoopCall.forwarded (Option.map OptimizerReply.shape) OptimizerReply.shape ?_ ?_ side
  · intro loop static call member side hidden
    cases call with
    | forward => cases hidden
    | control call =>
        cases call with
        | tuner call => exact ⟨rfl, side.tune distinct nonneg call⟩
        | setOverride | clearOverride => cases tunes _ member
  · intro loop static call visible member side forwards
    cases call with
    | control => cases forwards
    | forward =>
        cases forwards
        obtain ⟨replies, next⟩ := side.forward additive covers visible
        exact ⟨congrArg some replies, next⟩

end SideBySide

/-- Whatever is observed, and however it interleaves with the calls on the optimizer: a tuner of a
policy with distinct rule names and coefficients up to its ceiling leaves the answers as they are
under the static policy, and the totals that it books lie between those of the static policy and
those of the policy that gives every rule the ceiling. -/
theorem tuning_bounds_books (rt : Runtime) (config : OptimizerConfig) (values : FlowValuePolicy)
    (distinct : (values.rules.map PolicyRule.name).Nodup)
    (unset : values.overrides = .empty)
    (boostFactor decayFactor maxCoefficient perfectionThresholdPct violationThresholdPct : ℚ)
    (bounded : ∀ rule ∈ values.rules,
      0 ≤ rule.valueCoefficient ∧ rule.valueCoefficient ≤ maxCoefficient)
    (clock : TrafficPriority → ℚ) (fresh saturated : BandwidthOptimizer)
    (constructed : BandwidthOptimizer.init config (some values) clock = .ok fresh)
    (saturates : BandwidthOptimizer.init config
      (some (values.flattened (max 0 maxCoefficient))) clock = .ok saturated)
    (classifier : TrafficClassifier) (store : Store) (calls : List LoopCall)
    (tunes : ∀ call ∈ calls, call.tunes = true) :
    let tuner := ValueCoefficientTuner.init boostFactor decayFactor maxCoefficient
      perfectionThresholdPct violationThresholdPct
    let tuned := Machine.run (FeedbackLoop.call rt)
      ⟨{ fresh with classifier := classifier }, store, tuner⟩ calls
    let untuned (optimizer : BandwidthOptimizer) := Machine.run (BandwidthOptimizer.call rt)
      ({ optimizer with classifier := classifier }, store)
      (calls.filterMap LoopCall.forwarded)
    tuned.1.filterMap (Option.map OptimizerReply.shape) =
        (untuned fresh).1.map OptimizerReply.shape ∧
      (untuned fresh).2.1.engine.valueTotals ≤ tuned.2.optimizer.engine.valueTotals ∧
      tuned.2.optimizer.engine.valueTotals ≤ (untuned saturated).2.1.engine.valueTotals := by
  intro tuner tuned untuned
  have within : TunedPolicy.Within values (max 0 maxCoefficient) (tuner, values) :=
    { rules := rfl
      default := rfl
      ceiling := rfl
      tuned := by
        intro rule member
        apply ValueCoefficientTuner.tuned_fresh rfl unset
        exact (bounded rule member).2.trans (le_max_right 0 maxCoefficient) }
  have configured {policy : FlowValuePolicy} {optimizer : BandwidthOptimizer}
      (built : BandwidthOptimizer.init config (some policy) clock = .ok optimizer) :
      BandwidthOptimizer.Configured config (some policy)
        { optimizer with classifier := classifier } :=
    (BandwidthOptimizer.init_configured built).of_kept rfl rfl ⟨rfl, rfl⟩
  have untouched {policy : FlowValuePolicy} {optimizer : BandwidthOptimizer}
      (built : BandwidthOptimizer.init config (some policy) clock = .ok optimizer) :
      optimizer.engine.valueTotals = 0 := by
    rw [BandwidthOptimizer.init_engine built]
    rfl
  have side {related : ℚ → ℚ → Prop} (additive : Additive related) {other : FlowValuePolicy}
      {optimizer : BandwidthOptimizer}
      (built : BandwidthOptimizer.init config (some other) clock = .ok optimizer) :
      SideBySide related config values other (max 0 maxCoefficient)
        ⟨{ fresh with classifier := classifier }, store, tuner⟩
        ({ optimizer with classifier := classifier }, store) :=
    { shapes := congrArg (fun shaper => (shaper, store.unvalued))
        (BandwidthOptimizer.init_shape constructed built classifier)
      configured := configured built
      tuned := ⟨values, configured constructed, within⟩
      totals := by
        rw [untouched built, untouched constructed]
        exact ⟨additive.zero, additive.zero⟩ }
  have nonneg (rule : PolicyRule) (member : rule ∈ values.rules) : 0 ≤ rule.valueCoefficient :=
    (bounded rule member).1
  obtain ⟨replies, lower⟩ := (side additive_le constructed).run additive_le
    (fun shared within packet => (within.coefficient unset rt packet).1) distinct nonneg tunes
  obtain ⟨_, upper⟩ := (side additive_ge saturates).run additive_ge
    (fun shared within packet => (within.coefficient unset rt packet).2) distinct nonneg tunes
  exact ⟨replies, lower.totals, upper.totals⟩

/-- A tuner that has seen a violation, between two calls that are admitted. -/
theorem tuning_bounds_books_boosted :
    ∃ fresh saturated,
      BandwidthOptimizer.init singleSlot (some callsFirst) (fun _ => 0) = .ok fresh ∧
      BandwidthOptimizer.init singleSlot (some (callsFirst.flattened (max 0 1000)))
        (fun _ => 0) = .ok saturated ∧
      let tuned := Machine.run (FeedbackLoop.call .plain)
        ⟨{ fresh with classifier := {} }, criticalPackets, .init 2 (1 / 2) 1000 99 90⟩
        [.forward (.process 0 (.frozen 0 0)), .control (.tuner (.observe "calls" 1 2)),
          .forward (.process 0 (.frozen 0 0))]
      let untuned (optimizer : BandwidthOptimizer) :=
        Machine.run (BandwidthOptimizer.call .plain)
          ({ optimizer with classifier := {} }, criticalPackets)
          [.process 0 (.frozen 0 0), .process 0 (.frozen 0 0)]
      (untuned fresh).2.1.engine.valueTotals ≤ tuned.2.optimizer.engine.valueTotals ∧
        tuned.2.optimizer.engine.valueTotals ≤ (untuned saturated).2.1.engine.valueTotals := by
  obtain ⟨fresh, constructed⟩ := BandwidthOptimizer.singleSlot_constructs
  obtain ⟨saturated, saturates⟩ : ∃ optimizer, BandwidthOptimizer.init singleSlot
      (some (callsFirst.flattened (max 0 1000))) (fun _ => 0) = .ok optimizer := by
    apply BandwidthOptimizer.init_constructs
    decide +kernel
  refine ⟨fresh, saturated, constructed, saturates, ?_⟩
  exact (tuning_bounds_books .plain singleSlot callsFirst (by decide) rfl 2 (1 / 2) 1000 99 90
    (by decide +kernel) (fun _ => 0) fresh saturated constructed saturates {} criticalPackets
    [.forward (.process 0 (.frozen 0 0)), .control (.tuner (.observe "calls" 1 2)),
      .forward (.process 0 (.frozen 0 0))] (by decide)).2

end SmartBandwidth

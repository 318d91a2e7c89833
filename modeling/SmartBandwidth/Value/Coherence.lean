import SmartBandwidth.Value.Tuner

/-!
# Tuner and policy in step

A tuned coefficient is held twice: in the tuner's table and as an override of the shared
policy.  For each rule name, every call keeps the two equal, and between the static
coefficient and the ceiling.
-/

namespace SmartBandwidth

/-- A tuner and the policy it shares. -/
abbrev TunedPolicy := ValueCoefficientTuner × FlowValuePolicy

namespace TunedPolicy

/-- The coefficient that packets get whose first matching rule has this name and this static
coefficient. -/
def live (shared : TunedPolicy) (ruleName : String) (base : ℚ) : ℚ :=
  (shared.2.overrides.get? ruleName).getD base

/-- The two records of one name agree, within the bounds. -/
structure Tuned (shared : TunedPolicy) (ruleName : String) (base : ℚ) : Prop where
  base_le : base ≤ shared.live ruleName base
  le_max : shared.live ruleName base ≤ shared.1.maxCoeff
  state_base : ∀ state, shared.1.states.get? ruleName = some state →
    state.baseCoefficient = base
  state_current : ∀ state, shared.1.states.get? ruleName = some state →
    state.currentCoefficient = shared.live ruleName base
  unseen : shared.1.states.get? ruleName = none → shared.2.overrides.get? ruleName = none

/-- What no call changes. -/
structure SameRules (before after : TunedPolicy) : Prop where
  maxCoeff : after.1.maxCoeff = before.1.maxCoeff
  rules : after.2.rules = before.2.rules

theorem SameRules.refl (shared : TunedPolicy) : SameRules shared shared := ⟨rfl, rfl⟩

theorem SameRules.trans {first second third : TunedPolicy} (firstly : SameRules first second)
    (secondly : SameRules second third) : SameRules first third where
  maxCoeff := secondly.maxCoeff.trans firstly.maxCoeff
  rules := secondly.rules.trans firstly.rules

/-- Two states that hold the same records of one name. -/
structure SameRecords (ruleName : String) (before after : TunedPolicy) : Prop where
  states : after.1.states.get? ruleName = before.1.states.get? ruleName
  overrides : after.2.overrides.get? ruleName = before.2.overrides.get? ruleName

theorem Tuned.of_same {before after : TunedPolicy} {ruleName : String} {base : ℚ}
    (tuned : Tuned before ruleName base) (rules : SameRules before after)
    (records : SameRecords ruleName before after) : Tuned after ruleName base where
  base_le := by
    rw [live, records.overrides]
    exact tuned.base_le
  le_max := by
    rw [live, records.overrides, rules.maxCoeff]
    exact tuned.le_max
  state_base := by
    rw [records.states]
    exact tuned.state_base
  state_current := by
    rw [live, records.overrides, records.states]
    exact tuned.state_current
  unseen := by
    rw [records.overrides, records.states]
    exact tuned.unseen

end TunedPolicy

open TunedPolicy

namespace ValueCoefficientTuner

/-! ## Observations -/

section Observe

variable (shared : TunedPolicy) (ruleName : String) (deliveredRate slaMinRate : ℚ)

/-- The state an observation finds. -/
def found : TunerState := (shared.1.getOrCreateState shared.2 ruleName).1

/-- The state an observation leaves. -/
def observed : TunerState :=
  shared.1.adjust (found shared ruleName) (efficiency deliveredRate slaMinRate)

theorem getOrCreateState_get? (query : String) :
    (shared.1.getOrCreateState shared.2 ruleName).2.states.get? query =
      if query = ruleName then some (found shared ruleName)
      else shared.1.states.get? query := by
  rw [found, getOrCreateState]
  split
  next state present =>
    split
    next same => rw [same, present]
    next => rfl
  next absent => exact Dict.get?_set _ _ _ _

theorem getOrCreateState_sameRules :
    SameRules shared ((shared.1.getOrCreateState shared.2 ruleName).2, shared.2) := by
  rw [getOrCreateState]
  split <;> exact ⟨rfl, rfl⟩

theorem getOrCreateState_adjust (state : TunerState) (percent : ℚ) :
    (shared.1.getOrCreateState shared.2 ruleName).2.adjust state percent =
      shared.1.adjust state percent := by
  rw [getOrCreateState]
  split <;> rfl

/-- An observation answers with the coefficient it leaves. -/
theorem observe_answer :
    (shared.1.observe shared.2 ruleName deliveredRate slaMinRate).1 =
      (observed shared ruleName deliveredRate slaMinRate).currentCoefficient := by
  rw [observe, observed, ← getOrCreateState_adjust shared ruleName]
  rfl

/-- An observation without the intermediate assignment of a new state. -/
theorem observe_eq :
    (shared.1.observe shared.2 ruleName deliveredRate slaMinRate).2 =
      ({ shared.1 with
          states := shared.1.states.set ruleName
            (observed shared ruleName deliveredRate slaMinRate) },
        shared.2.setOverride ruleName
          (observed shared ruleName deliveredRate slaMinRate).currentCoefficient) := by
  cases stored : shared.1.states.get? ruleName with
  | some state =>
      have present : shared.1.getOrCreateState shared.2 ruleName = (state, shared.1) := by
        rw [getOrCreateState, stored]
      simp only [observe, observed, found, present]
  | none =>
      have created : shared.1.getOrCreateState shared.2 ruleName =
          (createState shared.2 ruleName, { shared.1 with
            states := shared.1.states.set ruleName (createState shared.2 ruleName) }) := by
        rw [getOrCreateState, stored]
      simp only [observe, observed, found, created, Dict.set_set]
      rfl

theorem observe_states (query : String) :
    (shared.1.observe shared.2 ruleName deliveredRate slaMinRate).2.1.states.get? query =
      if query = ruleName then some (observed shared ruleName deliveredRate slaMinRate)
      else shared.1.states.get? query := by
  simp only [observe, Dict.get?_set, getOrCreateState_get?, getOrCreateState_adjust]
  split
  next => rfl
  next => rfl

theorem observe_overrides (query : String) :
    (shared.1.observe shared.2 ruleName deliveredRate slaMinRate).2.2.overrides.get? query =
      if query = ruleName then
        some (max 0 (observed shared ruleName deliveredRate slaMinRate).currentCoefficient)
      else
        shared.2.overrides.get? query := by
  simp only [observe, FlowValuePolicy.setOverride, Dict.get?_set, getOrCreateState_adjust]
  rfl

theorem observe_sameRules :
    SameRules shared (shared.1.observe shared.2 ruleName deliveredRate slaMinRate).2 where
  maxCoeff := (getOrCreateState_sameRules shared ruleName).maxCoeff
  rules := rfl

/-- An observation leaves the other names alone. -/
theorem observe_sameRecords {query : String} (other : query ≠ ruleName) :
    SameRecords query shared
      (shared.1.observe shared.2 ruleName deliveredRate slaMinRate).2 where
  states := by rw [observe_states, if_neg other]
  overrides := by rw [observe_overrides, if_neg other]

end Observe

section Tuned

variable {shared : TunedPolicy} {ruleName : String} {base : ℚ}

/-- An observation of a tuned name finds the live coefficient. -/
theorem found_of_tuned (tuned : Tuned shared ruleName base)
    (static : shared.2.staticCoefficient ruleName = base) :
    (found shared ruleName).baseCoefficient = base ∧
      (found shared ruleName).currentCoefficient = shared.live ruleName base := by
  rw [found, getOrCreateState]
  split
  next state present => exact ⟨tuned.state_base state present, tuned.state_current state present⟩
  next absent =>
    have unset := tuned.unseen absent
    simp [createState, FlowValuePolicy.getOverride, unset, static, live]

/-- An adjustment keeps a coefficient within the bounds. -/
theorem adjust_bounds (tuner : ValueCoefficientTuner) {state : TunerState}
    (nonneg : 0 ≤ state.baseCoefficient)
    (base_le : state.baseCoefficient ≤ state.currentCoefficient)
    (le_max : state.currentCoefficient ≤ tuner.maxCoeff) (percent : ℚ) :
    (tuner.adjust state percent).baseCoefficient = state.baseCoefficient ∧
      state.baseCoefficient ≤ (tuner.adjust state percent).currentCoefficient ∧
      (tuner.adjust state percent).currentCoefficient ≤ tuner.maxCoeff := by
  have current := nonneg.trans base_le
  simp only [adjust]
  split
  next =>
    have raised : state.currentCoefficient ≤ state.currentCoefficient * tuner.boostFactor :=
      le_mul_of_one_le_right current tuner.one_le_boostFactor
    exact ⟨rfl, le_min (base_le.trans raised) (base_le.trans le_max), min_le_right _ _⟩
  next =>
    split
    next =>
      have lowered : state.currentCoefficient * tuner.decayFactor ≤ state.currentCoefficient :=
        mul_le_of_le_one_right current tuner.decayFactor_le_one
      exact ⟨rfl, le_max_right _ _, max_le (lowered.trans le_max) (base_le.trans le_max)⟩
    next => exact ⟨rfl, base_le, le_max⟩

/-- What an observation of a tuned name leaves. -/
theorem observed_of_tuned (tuned : Tuned shared ruleName base) (nonneg : 0 ≤ base)
    (static : shared.2.staticCoefficient ruleName = base) (deliveredRate slaMinRate : ℚ) :
    (observed shared ruleName deliveredRate slaMinRate).baseCoefficient = base ∧
      base ≤ (observed shared ruleName deliveredRate slaMinRate).currentCoefficient ∧
      (observed shared ruleName deliveredRate slaMinRate).currentCoefficient ≤
        shared.1.maxCoeff := by
  obtain ⟨baseEq, currentEq⟩ := found_of_tuned tuned static
  have above : (found shared ruleName).baseCoefficient ≤
      (found shared ruleName).currentCoefficient := by
    rw [baseEq, currentEq]
    exact tuned.base_le
  have below : (found shared ruleName).currentCoefficient ≤ shared.1.maxCoeff :=
    currentEq.trans_le tuned.le_max
  have bounds := shared.1.adjust_bounds (nonneg.trans_eq baseEq.symm) above below
    (efficiency deliveredRate slaMinRate)
  rwa [baseEq] at bounds

/-- The live coefficient after an observation is the one it leaves in the table. -/
theorem live_observe (tuned : Tuned shared ruleName base) (nonneg : 0 ≤ base)
    (static : shared.2.staticCoefficient ruleName = base) (deliveredRate slaMinRate : ℚ) :
    live (shared.1.observe shared.2 ruleName deliveredRate slaMinRate).2 ruleName base =
      (observed shared ruleName deliveredRate slaMinRate).currentCoefficient := by
  have bounds := observed_of_tuned tuned nonneg static deliveredRate slaMinRate
  rw [live, observe_overrides, if_pos rfl, Option.getD_some]
  exact max_eq_right (nonneg.trans bounds.2.1)

theorem observe_tuned (tuned : Tuned shared ruleName base) (nonneg : 0 ≤ base)
    (static : shared.2.staticCoefficient ruleName = base) (observedName : String)
    (deliveredRate slaMinRate : ℚ) :
    Tuned (shared.1.observe shared.2 observedName deliveredRate slaMinRate).2 ruleName base := by
  have rules := observe_sameRules shared observedName deliveredRate slaMinRate
  by_cases same : ruleName = observedName
  · subst same
    obtain ⟨baseEq, base_le, le_max⟩ :=
      observed_of_tuned tuned nonneg static deliveredRate slaMinRate
    have liveEq := live_observe tuned nonneg static deliveredRate slaMinRate
    have stored := observe_states shared ruleName deliveredRate slaMinRate ruleName
    rw [if_pos rfl] at stored
    constructor
    · rw [liveEq]
      exact base_le
    · rw [liveEq, rules.maxCoeff]
      exact le_max
    · intro state present
      rw [stored] at present
      cases present
      exact baseEq
    · intro state present
      rw [stored] at present
      cases present
      exact liveEq.symm
    · intro absent
      rw [stored] at absent
      cases absent
  · have records := observe_sameRecords shared observedName deliveredRate slaMinRate same
    exact tuned.of_same rules records

end Tuned

/-! ## Resets -/

section Reset

variable (shared : TunedPolicy) (ruleName : String)

theorem reset_states (query : String) :
    (shared.1.reset shared.2 ruleName).1.states.get? query =
      if query = ruleName then (shared.1.states.get? ruleName).map resetState
      else shared.1.states.get? query := by
  rw [reset]
  split
  next state present =>
    rw [present]
    exact Dict.get?_set _ _ _ _
  next absent =>
    rw [absent]
    split
    next same => rw [same, absent, Option.map_none]
    next => rfl

theorem reset_sameRules : SameRules shared (shared.1.reset shared.2 ruleName) := by
  rw [reset]
  split <;> exact ⟨rfl, rfl⟩

/-- A reset leaves the other names alone. -/
theorem reset_sameRecords {query : String} (other : query ≠ ruleName) :
    SameRecords query shared (shared.1.reset shared.2 ruleName) where
  states := by rw [reset_states, if_neg other]
  overrides := by
    rw [reset]
    split
    next =>
      rw [FlowValuePolicy.clearOverride, Dict.get?_erase, if_neg other]
    next => rfl

/-- A reset sets no override. -/
theorem reset_overrides_of_none {query : String}
    (unset : shared.2.overrides.get? query = none) :
    (shared.1.reset shared.2 ruleName).2.overrides.get? query = none := by
  rw [reset]
  split
  next =>
    rw [FlowValuePolicy.clearOverride, Dict.get?_erase, unset, ite_self]
  next => exact unset

variable {shared ruleName}

/-- After a reset of a tuned name there is no override of it. -/
theorem reset_overrides {base : ℚ} (tuned : Tuned shared ruleName base) :
    (shared.1.reset shared.2 ruleName).2.overrides.get? ruleName = none := by
  rw [reset]
  split
  next =>
    rw [FlowValuePolicy.clearOverride, Dict.get?_erase, if_pos rfl]
  next absent => exact tuned.unseen absent

theorem reset_tuned {base : ℚ} (tuned : Tuned shared ruleName base) (resetName : String) :
    Tuned (shared.1.reset shared.2 resetName) ruleName base := by
  have rules := reset_sameRules shared resetName
  by_cases same : ruleName = resetName
  · subst same
    have unset := reset_overrides tuned
    have liveEq : live (shared.1.reset shared.2 ruleName) ruleName base = base := by
      rw [live, unset, Option.getD_none]
    have stored : ∀ state,
        (shared.1.reset shared.2 ruleName).1.states.get? ruleName = some state →
        state.baseCoefficient = base ∧ state.currentCoefficient = base := by
      intro state present
      rw [reset_states, if_pos rfl, Option.map_eq_some_iff] at present
      obtain ⟨before, foundBefore, rfl⟩ := present
      exact ⟨tuned.state_base before foundBefore, tuned.state_base before foundBefore⟩
    constructor
    · rw [liveEq]
    · rw [liveEq, rules.maxCoeff]
      exact tuned.base_le.trans tuned.le_max
    · intro state present
      exact (stored state present).1
    · intro state present
      rw [liveEq]
      exact (stored state present).2
    · intro _
      exact unset
  · exact tuned.of_same rules (reset_sameRecords shared resetName same)

/-- A property that a reset of each name keeps is kept by `reset_all`. -/
theorem resetAll_induction (property : TunedPolicy → Prop)
    (kept : ∀ current name, property current → property (current.1.reset current.2 name))
    (initial : property shared) : property (shared.1.resetAll shared.2) := by
  rw [resetAll]
  generalize shared.1.states.keys = names
  induction names generalizing shared with
  | nil => exact initial
  | cons name names ih => exact ih (kept shared name initial)

theorem resetAll_tuned {base : ℚ} (tuned : Tuned shared ruleName base) :
    Tuned (shared.1.resetAll shared.2) ruleName base :=
  resetAll_induction (fun current => Tuned current ruleName base)
    (fun _ name before => reset_tuned before name) tuned

theorem resetAll_sameRules (shared : TunedPolicy) :
    SameRules shared (shared.1.resetAll shared.2) :=
  resetAll_induction (SameRules shared)
    (fun current name before => before.trans (reset_sameRules current name)) (.refl shared)

private theorem foldl_reset_overrides {base : ℚ} (tuned : Tuned shared ruleName base)
    {names : List String}
    (covered : ruleName ∈ names ∨ shared.2.overrides.get? ruleName = none) :
    (names.foldl (fun current name => current.1.reset current.2 name) shared).2.overrides.get?
      ruleName = none := by
  induction names generalizing shared with
  | nil => simpa using covered
  | cons name names ih =>
      apply ih (reset_tuned tuned name)
      rcases covered with member | unset
      · rcases List.mem_cons.mp member with rfl | later
        · exact .inr (reset_overrides tuned)
        · exact .inl later
      · exact .inr (reset_overrides_of_none shared name unset)

/-- After `reset_all` there is no override of a tuned name. -/
theorem resetAll_overrides {base : ℚ} (tuned : Tuned shared ruleName base) :
    (shared.1.resetAll shared.2).2.overrides.get? ruleName = none := by
  apply foldl_reset_overrides tuned
  by_cases member : ruleName ∈ shared.1.states.keys
  · exact .inl member
  · exact .inr (tuned.unseen (Dict.get?_eq_none_iff.mpr member))

end Reset

end ValueCoefficientTuner

/-! ## Calls and runs -/

/-- The rule name a call is on; `reset_all` is on no single one. -/
def TunerCall.onRule : TunerCall → Option String
  | .observe ruleName _ _ => some ruleName
  | .observeContract ruleName _ _ => some ruleName
  | .reset ruleName => some ruleName
  | .resetAll => none

/-- The call observes the rules of a name. -/
def TunerCall.observes (ruleName : String) : TunerCall → Prop
  | .observe observedName _ _ => observedName = ruleName
  | .observeContract observedName _ _ => observedName = ruleName
  | .reset _ => False
  | .resetAll => False

/-- The call resets the rules of a name. -/
def TunerCall.resets (ruleName : String) : TunerCall → Prop
  | .observe .. => False
  | .observeContract .. => False
  | .reset resetName => resetName = ruleName
  | .resetAll => True

namespace ValueCoefficientTuner

variable {shared : TunedPolicy} {ruleName : String} {base : ℚ}

theorem call_sameRules (shared : TunedPolicy) (call : TunerCall) :
    SameRules shared (ValueCoefficientTuner.call shared call).2 := by
  cases call with
  | observe observedName rate least => exact observe_sameRules shared observedName rate least
  | observeContract observedName rate contract =>
      exact observe_sameRules shared observedName rate contract.minValueRatePerSec
  | reset resetName => exact reset_sameRules shared resetName
  | resetAll => exact resetAll_sameRules shared

/-- Every call keeps a name tuned. -/
theorem call_tuned (tuned : Tuned shared ruleName base) (nonneg : 0 ≤ base)
    (static : shared.2.staticCoefficient ruleName = base) (call : TunerCall) :
    Tuned (ValueCoefficientTuner.call shared call).2 ruleName base := by
  cases call with
  | observe observedName rate least =>
      exact observe_tuned tuned nonneg static observedName rate least
  | observeContract observedName rate contract =>
      exact observe_tuned tuned nonneg static observedName rate contract.minValueRatePerSec
  | reset resetName => exact reset_tuned tuned resetName
  | resetAll => exact resetAll_tuned tuned

/-- A call on one rule leaves the records of every other name alone. -/
theorem call_sameRecords {call : TunerCall} {callName : String}
    (onRule : call.onRule = some callName) (other : ruleName ≠ callName) :
    SameRecords ruleName shared (ValueCoefficientTuner.call shared call).2 := by
  cases call with
  | observe observedName rate least =>
      cases onRule
      exact observe_sameRecords shared callName rate least other
  | observeContract observedName rate contract =>
      cases onRule
      exact observe_sameRecords shared callName rate contract.minValueRatePerSec other
  | reset resetName =>
      cases onRule
      exact reset_sameRecords shared callName other
  | resetAll => cases onRule

/-- Without an observation of a name no override of it appears. -/
theorem call_overrides_of_none (unset : shared.2.overrides.get? ruleName = none)
    {call : TunerCall} (unobserved : ¬ call.observes ruleName) :
    (ValueCoefficientTuner.call shared call).2.2.overrides.get? ruleName = none := by
  cases call with
  | observe observedName rate least =>
      exact (observe_sameRecords shared observedName rate least
        (Ne.symm unobserved)).overrides.trans unset
  | observeContract observedName rate contract =>
      exact (observe_sameRecords shared observedName rate contract.minValueRatePerSec
        (Ne.symm unobserved)).overrides.trans unset
  | reset resetName => exact reset_overrides_of_none shared resetName unset
  | resetAll =>
      exact resetAll_induction (fun current => current.2.overrides.get? ruleName = none)
        (fun current name before => reset_overrides_of_none current name before) unset

/-- After a reset of a tuned name there is no override of it. -/
theorem call_overrides_of_resets (tuned : Tuned shared ruleName base) {call : TunerCall}
    (resets : call.resets ruleName) :
    (ValueCoefficientTuner.call shared call).2.2.overrides.get? ruleName = none := by
  cases call with
  | observe => exact resets.elim
  | observeContract => exact resets.elim
  | reset resetName =>
      cases resets
      exact reset_overrides tuned
  | resetAll => exact resetAll_overrides tuned

/-- After an observation the table has a state of the name. -/
theorem call_states_of_observes (shared : TunedPolicy) {call : TunerCall}
    (observes : call.observes ruleName) :
    ((ValueCoefficientTuner.call shared call).2.1.states.get? ruleName).isSome := by
  cases call with
  | observe observedName rate least =>
      cases observes
      simp [ValueCoefficientTuner.call, observe_states]
  | observeContract observedName rate contract =>
      cases observes
      simp [ValueCoefficientTuner.call, observeContract, observe_states]
  | reset => exact observes.elim
  | resetAll => exact observes.elim

private theorem reset_states_isSome (present : (shared.1.states.get? ruleName).isSome)
    (resetName : String) :
    ((shared.1.reset shared.2 resetName).1.states.get? ruleName).isSome := by
  rw [reset_states]
  split
  next same => simpa [← same] using present
  next => exact present

/-- No call forgets a name. -/
theorem call_states_isSome (present : (shared.1.states.get? ruleName).isSome)
    (call : TunerCall) :
    ((ValueCoefficientTuner.call shared call).2.1.states.get? ruleName).isSome := by
  by_cases observes : call.observes ruleName
  · exact call_states_of_observes shared observes
  · cases call with
    | observe observedName rate least =>
        have records := observe_sameRecords shared observedName rate least (Ne.symm observes)
        rw [← records.states] at present
        exact present
    | observeContract observedName rate contract =>
        have records := observe_sameRecords shared observedName rate
          contract.minValueRatePerSec (Ne.symm observes)
        rw [← records.states] at present
        exact present
    | reset resetName => exact reset_states_isSome present resetName
    | resetAll =>
        exact resetAll_induction (fun current => (current.1.states.get? ruleName).isSome)
          (fun _ name before => reset_states_isSome before name) present

theorem staticCoefficient_of_sameRules {before after : TunedPolicy}
    (rules : SameRules before after) (ruleName : String) :
    after.2.staticCoefficient ruleName = before.2.staticCoefficient ruleName := by
  rw [FlowValuePolicy.staticCoefficient, rules.rules, FlowValuePolicy.staticCoefficient]

theorem run_sameRules (shared : TunedPolicy) (calls : List TunerCall) :
    SameRules shared (Machine.run ValueCoefficientTuner.call shared calls).2 :=
  Machine.run_invariant (fun current call before => before.trans (call_sameRules current call))
    (.refl shared) calls

/-- Every run keeps a name tuned. -/
theorem run_tuned (tuned : Tuned shared ruleName base) (nonneg : 0 ≤ base)
    (static : shared.2.staticCoefficient ruleName = base) (calls : List TunerCall) :
    Tuned (Machine.run ValueCoefficientTuner.call shared calls).2 ruleName base := by
  induction calls generalizing shared with
  | nil => exact tuned
  | cons call calls ih =>
      apply ih (call_tuned tuned nonneg static call)
      rw [staticCoefficient_of_sameRules (call_sameRules shared call), static]

/-- A fresh tuner over a policy without overrides is tuned to every rule whose static
coefficient is within the bounds. -/
theorem tuned_fresh {tuner : ValueCoefficientTuner} {policy : FlowValuePolicy}
    (unseen : tuner.states = .empty) (unset : policy.overrides = .empty)
    (le_max : base ≤ tuner.maxCoeff) (ruleName : String) :
    Tuned (tuner, policy) ruleName base := by
  constructor <;> simp [live, unseen, unset, le_max]

/-! ## What packets get -/

/-- With distinct rule names the tuner finds each rule's own static coefficient. -/
theorem staticCoefficient_of_mem {policy : FlowValuePolicy}
    (distinct : (policy.rules.map PolicyRule.name).Nodup) {rule : PolicyRule}
    (member : rule ∈ policy.rules) :
    policy.staticCoefficient rule.name = rule.valueCoefficient := by
  rw [FlowValuePolicy.staticCoefficient]
  split
  next other located =>
    have sameName : other.name = rule.name := by simpa using List.find?_some located
    rw [List.inj_on_of_nodup_map distinct (List.mem_of_find?_eq_some located) member sameName]
  next missing =>
    have absent := List.find?_eq_none.mp missing rule member
    simp at absent

/-- A packet gets the live coefficient of its first matching rule. -/
theorem getCoefficient_of_matchingRule (rt : Runtime) {policy : FlowValuePolicy}
    (rules : shared.2.rules = policy.rules) {packet : Packet} {index : Nat} {rule : PolicyRule}
    (first : policy.matchingRule rt packet = some (index, rule)) :
    shared.2.getCoefficient rt packet = shared.live rule.name rule.valueCoefficient := by
  have firstNow : shared.2.matchingRule rt packet = some (index, rule) := by
    rw [FlowValuePolicy.matchingRule, rules]
    exact first
  rw [FlowValuePolicy.getCoefficient, firstNow, live]

/-- Once a name has been observed in a run, the table has a state of it. -/
theorem run_states_of_observes (shared : TunedPolicy) {calls : List TunerCall}
    (observed : ∃ call ∈ calls, call.observes ruleName) :
    ((Machine.run ValueCoefficientTuner.call shared calls).2.1.states.get? ruleName).isSome := by
  obtain ⟨call, member, observes⟩ := observed
  obtain ⟨before, after, rfl⟩ := List.append_of_mem member
  have kept : ∀ (current : TunedPolicy) (later : TunerCall),
      (current.1.states.get? ruleName).isSome →
      ((ValueCoefficientTuner.call current later).2.1.states.get? ruleName).isSome :=
    fun _ later present => call_states_isSome present later
  rw [Machine.run_append, Machine.run_cons]
  exact Machine.run_invariant kept (call_states_of_observes _ observes) after

/-- A run that neither observes a name nor starts with an override of it ends without
one. -/
theorem run_overrides_of_none (unset : shared.2.overrides.get? ruleName = none)
    {calls : List TunerCall} (unobserved : ∀ call ∈ calls, ¬ call.observes ruleName) :
    (Machine.run ValueCoefficientTuner.call shared calls).2.2.overrides.get? ruleName = none := by
  have kept : ∀ (current : TunedPolicy), ∀ call ∈ calls,
      current.2.overrides.get? ruleName = none →
      (ValueCoefficientTuner.call current call).2.2.overrides.get? ruleName = none :=
    fun _ call member before => call_overrides_of_none before (unobserved call member)
  exact Machine.run_invariant_of_mem kept unset

/-- The tuner and the policy agree on every rule.  After any calls on a fresh tuner, a packet
gets from its first matching rule a coefficient between the static one and the ceiling: the
tuner's current one if the rule was ever observed, and the static one if it was not observed
since the start or its last reset; and a call on another rule does not change it. -/
theorem tuned_coefficients (rt : Runtime) (policy : FlowValuePolicy)
    (distinct : (policy.rules.map PolicyRule.name).Nodup)
    (unset : policy.overrides = .empty)
    (boostFactor decayFactor maxCoefficient perfectionThresholdPct violationThresholdPct : ℚ)
    (bounded : ∀ rule ∈ policy.rules,
      0 ≤ rule.valueCoefficient ∧ rule.valueCoefficient ≤ maxCoefficient)
    (calls : List TunerCall) (packet : Packet) (index : Nat) (rule : PolicyRule)
    (first : policy.matchingRule rt packet = some (index, rule)) :
    let tuner := ValueCoefficientTuner.init boostFactor decayFactor maxCoefficient
      perfectionThresholdPct violationThresholdPct
    let final : TunedPolicy := (Machine.run ValueCoefficientTuner.call (tuner, policy) calls).2
    let coefficient := final.2.getCoefficient rt packet
    rule.valueCoefficient ≤ coefficient ∧
      coefficient ≤ maxCoefficient ∧
      ((∃ call ∈ calls, call.observes rule.name) →
        ∃ state, final.1.states.get? rule.name = some state ∧
          coefficient = state.currentCoefficient) ∧
      (∀ before after, calls = before ++ after →
        (before = [] ∨ ∃ earlier call, before = earlier ++ [call] ∧ call.resets rule.name) →
        (∀ call ∈ after, ¬ call.observes rule.name) →
        coefficient = rule.valueCoefficient) ∧
      (∀ call other, call.onRule = some other → other ≠ rule.name →
        (ValueCoefficientTuner.call final call).2.2.getCoefficient rt packet = coefficient) := by
  intro tuner final coefficient
  have member : rule ∈ policy.rules :=
    List.mem_of_getElem? (FirstMatch.firstMatch_spec first).1
  obtain ⟨nonneg, le_max⟩ := bounded rule member
  have ceiling : tuner.maxCoeff = maxCoefficient := max_eq_right (nonneg.trans le_max)
  have static := staticCoefficient_of_mem distinct member
  have fresh : Tuned (tuner, policy) rule.name rule.valueCoefficient :=
    tuned_fresh rfl unset (ceiling.symm ▸ le_max) rule.name
  have rules := run_sameRules (tuner, policy) calls
  have tuned := run_tuned fresh nonneg static calls
  have coefficientEq : coefficient = final.live rule.name rule.valueCoefficient :=
    getCoefficient_of_matchingRule rt rules.rules first
  rw [coefficientEq]
  refine ⟨tuned.base_le, ?_, ?_, ?_, ?_⟩
  · rw [← ceiling, ← rules.maxCoeff]
    exact tuned.le_max
  · intro observed
    obtain ⟨state, present⟩ :=
      Option.isSome_iff_exists.mp (run_states_of_observes (tuner, policy) observed)
    exact ⟨state, present, (tuned.state_current state present).symm⟩
  · rintro before after rfl start unobserved
    have restsAt : (Machine.run ValueCoefficientTuner.call
        (tuner, policy) before).2.2.overrides.get? rule.name = none := by
      rcases start with rfl | ⟨earlier, call, rfl, resets⟩
      · simp [unset]
      · rw [Machine.run_snoc_final]
        exact call_overrides_of_resets (run_tuned fresh nonneg static earlier) resets
    have rests := run_overrides_of_none restsAt unobserved
    simp only [final, live, Machine.run_append]
    rw [rests, Option.getD_none]
  · intro call other onRule different
    have rulesNow := rules.trans (call_sameRules final call)
    have records : SameRecords rule.name final (ValueCoefficientTuner.call final call).2 :=
      call_sameRecords onRule (Ne.symm different)
    rw [getCoefficient_of_matchingRule rt rulesNow.rules first, live, records.overrides]
    rfl

/-- A policy of one rule. -/
def voiceFirst : FlowValuePolicy :=
  FlowValuePolicy.init
    [{ name := "voice", priority := .critical, ports := [5060], valueCoefficient := 10 }]

/-- The default tuner on that policy, after a missed rate. -/
theorem tuned_coefficients_voice :
    let final := (Machine.run ValueCoefficientTuner.call (.init, voiceFirst)
      [.observe "voice" 50 100]).2
    let coefficient :=
      final.2.getCoefficient (Runtime.ofSearch id fun _ _ => false) { dstPort := 5060 }
    10 ≤ coefficient ∧ coefficient ≤ 10000 := by
  have tuned := tuned_coefficients (Runtime.ofSearch id fun _ _ => false) voiceFirst (by decide)
    rfl (6 / 5) (95 / 100) 10000 (995 / 10) 90 (by decide +kernel) [.observe "voice" 50 100]
    { dstPort := 5060 } 0
    { name := "voice", priority := .critical, ports := [5060], valueCoefficient := 10 }
    (by decide +kernel)
  exact ⟨tuned.1, tuned.2.1⟩

end ValueCoefficientTuner

end SmartBandwidth

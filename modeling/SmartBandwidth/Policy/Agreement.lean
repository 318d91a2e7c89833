import SmartBandwidth.Value.FlowValuePolicy

/-!
# One rule table, two evaluators

The classifier and the value policy walk the same rules.  The value policy does not
consult `payload_pattern`, so its test is the weaker one and the two agree exactly
when the rule it picks also passes its payload condition.
-/

namespace SmartBandwidth

/-- The payload condition of a rule; a rule without a pattern accepts every payload. -/
def PolicyRule.payloadMatches (search : String → String → Bool) (packet : Packet)
    (rule : PolicyRule) : Bool :=
  match rule.payloadPattern with
  | some pattern => search pattern packet.snippet
  | none => true

/-- The classifier a loaded policy is run with. -/
def Policy.classifier (policy : Policy) : TrafficClassifier where
  rules := policy.toClassificationRules
  defaultPriority := policy.defaultPriority

section Agreement

variable (lower : String → String) (search : String → String → Bool)

theorem matches_toClassificationRule (rule : PolicyRule) (packet : Packet) :
    rule.toClassificationRule.matches (Runtime.ofSearch lower search) packet =
      .ok (FlowValuePolicy.ruleMatches (Runtime.ofSearch lower search) packet rule &&
        rule.payloadMatches search packet) := by
  change (if headerMatches lower rule.ports rule.protocols packet = true then
      match rule.payloadPattern with
      | some pattern => Except.ok (search pattern packet.snippet)
      | none => .ok true
    else .ok false) =
      Except.ok (headerMatches lower rule.ports rule.protocols packet &&
        rule.payloadMatches search packet)
  cases headerMatches lower rule.ports rule.protocols packet with
  | false => rfl
  | true =>
      rw [if_pos rfl, Bool.true_and, PolicyRule.payloadMatches]
      cases rule.payloadPattern <;> rfl

/-- The classifier searches the policy's own rows with the stricter test. -/
theorem classifier_matchingRule (policy : Policy) (packet : Packet) :
    policy.classifier.matchingRule (Runtime.ofSearch lower search) packet =
      .ok ((FirstMatch.firstMatch (fun rule =>
          FlowValuePolicy.ruleMatches (Runtime.ofSearch lower search) packet rule &&
            rule.payloadMatches search packet) policy.rules).map
        fun found => (found.1, found.2.toClassificationRule)) :=
  FirstMatch.firstMatchM_map_ok
    (fun rule => matches_toClassificationRule lower search rule packet) policy.rules

/-- The rule both evaluators are compared on: the one `get_coefficient` reads. -/
theorem getCoefficient_fromPolicy (rt : Runtime) (policy : Policy) (defaultCoefficient : ℚ)
    (packet : Packet) :
    (FlowValuePolicy.fromPolicy policy defaultCoefficient).getCoefficient rt packet =
      match (FlowValuePolicy.fromPolicy policy defaultCoefficient).matchingRule rt packet with
      | some (_, rule) => rule.valueCoefficient
      | none => max 0 defaultCoefficient := by
  rw [FlowValuePolicy.getCoefficient]
  cases (FlowValuePolicy.fromPolicy policy defaultCoefficient).matchingRule rt packet with
  | none => rfl
  | some found => rfl

/-- The value policy's coefficient comes from the first rule whose ports and protocols
match.  The classifier decides by that same rule, or falls through with it, exactly when
that rule has no payload pattern or its pattern is found; and then it returns that rule's
priority, or the policy's default. -/
theorem evaluators_agree_iff (policy : Policy) (defaultCoefficient : ℚ) (packet : Packet) :
    let rt := Runtime.ofSearch lower search
    let values := FlowValuePolicy.fromPolicy policy defaultCoefficient
    let passes := ∀ index rule, values.matchingRule rt packet = some (index, rule) →
      rule.payloadMatches search packet = true
    values.getCoefficient rt packet =
        (match values.matchingRule rt packet with
          | some (_, rule) => rule.valueCoefficient
          | none => max 0 defaultCoefficient) ∧
      (policy.classifier.matchingRule rt packet =
          .ok ((values.matchingRule rt packet).map
            fun found => (found.1, found.2.toClassificationRule)) ↔ passes) ∧
      (passes → policy.classifier.classify rt packet =
        .ok (match values.matchingRule rt packet with
          | some (_, rule) => rule.priority
          | none => policy.defaultPriority)) := by
  intro rt values passes
  have sameRule : policy.classifier.matchingRule rt packet =
      .ok ((values.matchingRule rt packet).map
        fun found => (found.1, found.2.toClassificationRule)) ↔ passes := by
    rw [classifier_matchingRule, Except.ok.injEq]
    apply Iff.trans (FirstMatch.map_firstMatch_eq_iff PolicyRule.toClassificationRule)
    apply Iff.trans (FirstMatch.firstMatch_eq_iff _ _)
    · constructor
      · intro strictly index rule found
        exact (Bool.and_eq_true_iff.mp (strictly index rule found)).2
      · intro payload index rule found
        apply Bool.and_eq_true_iff.mpr
        exact ⟨(FirstMatch.firstMatch_spec found).2, payload index rule found⟩
    · intro rule strictly
      exact (Bool.and_eq_true_iff.mp strictly).1
  refine ⟨getCoefficient_fromPolicy rt policy defaultCoefficient packet, sameRule, ?_⟩
  intro payload
  rw [TrafficClassifier.classify, sameRule.mpr payload]
  cases values.matchingRule rt packet with
  | none => rfl
  | some found => rfl

end Agreement

/-- A policy whose first rule has a payload pattern that the packet does not carry. -/
def patternPolicy : Policy where
  rules :=
    [ { name := "calls", priority := .critical, ports := [5060],
        payloadPattern := some "INVITE", valueCoefficient := 9 },
      { name := "rest", priority := .low, valueCoefficient := 1 } ]

/-- The coefficient is read from the first rule while the packet is classified by the
second. -/
theorem evaluators_disagree :
    let rt := Runtime.ofSearch id (fun _ _ => false)
    let packet : Packet := { dstPort := 5060 }
    (FlowValuePolicy.fromPolicy patternPolicy).getCoefficient rt packet = 9 ∧
      ((FlowValuePolicy.fromPolicy patternPolicy).matchingRule rt packet).map
        (fun found => (found.1, found.2.name)) = some (0, "calls") ∧
      (patternPolicy.classifier.matchingRule rt packet).toOption.map
        (fun found => found.map (·.1)) = some (some 1) ∧
      patternPolicy.classifier.classify rt packet = .ok .low := by
  refine ⟨?_, ?_, ?_, ?_⟩ <;> decide

end SmartBandwidth

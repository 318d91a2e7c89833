import SmartBandwidth.Policy.Classifier

/-!
# Policies

A loaded policy is an ordered list of rich rules; the classifier reads the part of a
rule it needs.
-/

namespace SmartBandwidth

/-- A rule as parsed from a policy file. -/
structure PolicyRule where
  name : String
  priority : TrafficPriority
  ports : List Int := []
  protocols : List String := []
  payloadPattern : Option String := none
  bandwidthMinPct : ℚ := 0
  description : String := ""
  valueCoefficient : ℚ := 1
  deriving DecidableEq, Repr

/-- `PolicyRule.to_classification_rule`. -/
def PolicyRule.toClassificationRule (rule : PolicyRule) : ClassificationRule where
  priority := rule.priority
  ports := rule.ports
  protocols := rule.protocols
  payloadPattern := rule.payloadPattern

/-- A complete loaded policy. -/
structure Policy where
  rules : List PolicyRule := []
  defaultPriority : TrafficPriority := .medium
  bandwidthBudget : TrafficPriority → Option ℚ :=
    fun priority => some (defaultBandwidthBudget priority)

/-- `Policy.to_classification_rules`. -/
def Policy.toClassificationRules (policy : Policy) : List ClassificationRule :=
  policy.rules.map PolicyRule.toClassificationRule

end SmartBandwidth

import SmartBandwidth.Policy.Rules
import SmartBandwidth.Lib.Dict

/-!
# Value coefficients

`FlowValuePolicy` maps a packet to the value coefficient of the first policy rule
whose ports and protocols match it.
-/

namespace SmartBandwidth

/-- Ordered value rules, a fallback coefficient and the runtime overrides by rule
name. -/
structure FlowValuePolicy where
  rules : List PolicyRule
  defaultCoefficient : ℚ
  overrides : Dict String ℚ

namespace FlowValuePolicy

/-- `__init__`: a negative fallback coefficient becomes zero. -/
def init (rules : List PolicyRule) (defaultCoefficient : ℚ := 1) : FlowValuePolicy where
  rules := rules
  defaultCoefficient := max 0 defaultCoefficient
  overrides := .empty

/-- `from_policy`. -/
def fromPolicy (policy : Policy) (defaultCoefficient : ℚ := 1) : FlowValuePolicy :=
  init policy.rules defaultCoefficient

/-- `_rule_matches`: port and protocol conditions only. -/
def ruleMatches (rt : Runtime) (packet : Packet) (rule : PolicyRule) : Bool :=
  headerMatches rt.lower rule.ports rule.protocols packet

/-- The rule whose coefficient a packet gets and its position in the table. -/
def matchingRule (rt : Runtime) (policy : FlowValuePolicy) (packet : Packet) :
    Option (Nat × PolicyRule) :=
  FirstMatch.firstMatch (ruleMatches rt packet) policy.rules

/-- `get_coefficient`. -/
def getCoefficient (rt : Runtime) (policy : FlowValuePolicy) (packet : Packet) : ℚ :=
  match policy.matchingRule rt packet with
  | some (_, rule) => (policy.overrides.get? rule.name).getD rule.valueCoefficient
  | none => policy.defaultCoefficient

/-- `assign`: write the coefficient to the packet and return it. -/
def assign (rt : Runtime) (policy : FlowValuePolicy) (packet : Packet) : Packet × ℚ :=
  let coefficient := policy.getCoefficient rt packet
  ({ packet with valueCoefficient := coefficient }, coefficient)

/-- `set_override`: a negative coefficient becomes zero. -/
def setOverride (policy : FlowValuePolicy) (ruleName : String) (coefficient : ℚ) :
    FlowValuePolicy :=
  { policy with overrides := policy.overrides.set ruleName (max 0 coefficient) }

/-- `get_override`. -/
def getOverride (policy : FlowValuePolicy) (ruleName : String) : Option ℚ :=
  policy.overrides.get? ruleName

/-- `clear_override`. -/
def clearOverride (policy : FlowValuePolicy) (ruleName : String) : FlowValuePolicy :=
  { policy with overrides := policy.overrides.erase ruleName }

end FlowValuePolicy

end SmartBandwidth

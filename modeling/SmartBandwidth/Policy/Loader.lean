import SmartBandwidth.Core.Config
import SmartBandwidth.Lib.PyValue

/-!
# Policy loading

The loader turns the tree that the YAML reader returns into a policy.  It documents one
exception, `PolicyLoadError`, and reads an untrusted tree at a dozen positions; each
position has its own demands on the value that stands there.
-/

namespace SmartBandwidth

/-- `TrafficPriority[name]`. -/
def TrafficPriority.ofName? (name : String) : Option TrafficPriority :=
  TrafficPriority.all.find? fun priority => priority.name = name

/-- A share of the bandwidth. -/
structure Fraction where
  value : ℚ
  nonneg : 0 ≤ value
  le_one : value ≤ 1

/-- The shares of `DEFAULT_BANDWIDTH_BUDGET`. -/
def defaultFraction (priority : TrafficPriority) : Fraction where
  value := defaultBandwidthBudget priority
  nonneg := by cases priority <;> decide +kernel
  le_one := by cases priority <;> decide +kernel

/-- The test `0.0 <= val <= 1.0`, with its result. -/
def fraction? : PyFloat → Option Fraction
  | .finite value =>
      if inRange : 0 ≤ value ∧ value ≤ 1 then some ⟨value, inRange.1, inRange.2⟩ else none
  | .infinity _ | .nan => none

theorem fraction?_isSome (val : PyFloat) :
    (fraction? val).isSome = ((PyFloat.finite 0).le val && val.le (.finite 1)) := by
  cases val with
  | finite value =>
      simp only [fraction?, PyFloat.le, ← Bool.decide_and]
      split
      next inRange => exact (decide_eq_true inRange).symm
      next outside => exact (decide_eq_false outside).symm
  | infinity negative => cases negative <;> rfl
  | nan => rfl

/-- A rule as the loader makes it.  The loader passes on what it reads: a payload pattern
of any type and floats that need not be finite. -/
structure LoadedRule where
  name : String
  priority : TrafficPriority
  ports : List Int
  protocols : List String
  payloadPattern : Option PyValue
  bandwidthMinPct : PyFloat
  description : String
  valueCoefficient : PyFloat

/-- A policy as the loader makes it. -/
structure LoadedPolicy where
  rules : List LoadedRule
  defaultPriority : TrafficPriority
  bandwidthBudget : TrafficPriority → Fraction

/-- Raised when a policy file cannot be parsed. -/
structure PolicyLoadError where
  message : String
  deriving DecidableEq, Repr

namespace PolicyLoader

open PyValue Raising

/-- What the loader returns or raises. -/
abbrev Loading := Raising PolicyLoadError PyFault

/-- `_parse_priority`. -/
def parsePriority (py : PyText) (value : PyValue) (context : String) :
    Loading TrafficPriority := do
  let name ← lift value.asStr
  match TrafficPriority.ofName? (py.upper name) with
  | some priority => return priority
  | none =>
      let valid := TrafficPriority.all.map fun priority => py.quote priority.name
      fail { message := context ++ ": unknown priority " ++ py.quote name ++
        "; valid values: [" ++ ", ".intercalate valid ++ "]" }

/-- The `(name)` part of a rule's messages. -/
def named (py : PyText) (ctx : String) (name : PyValue) (text : String) :
    Except PyFault PolicyLoadError := do
  let shown ← name.toStr py
  return { message := ctx ++ " (" ++ shown ++ "): " ++ text }

/-- The part of `_parse_rule` that reads the optional fields. -/
def parseFields (py : PyText) (ctx : String) (raw criteria : Entries) (name : PyValue)
    (priority : TrafficPriority) : Loading LoadedRule := do
  let rawPorts := getOr criteria "ports" (.list [])
  let ports ← lift (rawPorts.iterate >>= fun items => items.mapM (toInt py))
  let rawProtos := getOr criteria "protocols" (.list [])
  let protocols ← lift (rawProtos.iterate >>= fun items => items.mapM fun item =>
    (item.toStr py).map py.lower)
  let payloadPattern := orNone (get criteria "payload_pattern")
  let valueCoefficient ← lift ((get raw "value_coefficient" (.float (.finite 1))).toFloat py)
  require (!valueCoefficient.lt (.finite 0)) (named py ctx name
    ("value_coefficient must be ≥ 0, got " ++ py.showFloat valueCoefficient))
  let name ← lift (name.toStr py)
  let bandwidthMinPct ← lift ((get raw "bandwidth_min_pct" (.float (.finite 0))).toFloat py)
  let description ← lift ((get raw "description" (.str "")).toStr py)
  return {
    name := name
    priority := priority
    ports := ports
    protocols := protocols
    payloadPattern := payloadPattern
    bandwidthMinPct := bandwidthMinPct
    description := description
    valueCoefficient := valueCoefficient }

/-- `_parse_rule`. -/
def parseRule (py : PyText) (raw : PyValue) (index : Nat) : Loading LoadedRule := do
  let ctx := "rules[" ++ toString index ++ "]"
  let raw ← lift raw.asDict
  let name := get raw "name"
  require name.truthy (.ok { message := ctx ++ ": 'name' is required" })
  let priorityStr := get raw "priority"
  require priorityStr.truthy (named py ctx name "'priority' is required")
  let priority ← parsePriority py priorityStr (ctx ++ ".priority")
  let criteria ← lift (getOr raw "match" (.dict [])).asDict
  parseFields py ctx raw criteria name priority

/-- The loop over the rules, from an index on. -/
def parseRules (py : PyText) (index : Nat) : List PyValue → Loading (List LoadedRule)
  | [] => return []
  | raw :: rest => do
      let rule ← parseRule py raw index
      let rules ← parseRules py (index + 1) rest
      return rule :: rules

/-- The loop over `bandwidth_budget`, which overwrites the shares it names. -/
def parseBudget (py : PyText) (budget : TrafficPriority → Fraction) :
    Entries → Loading (TrafficPriority → Fraction)
  | [] => return budget
  | (name, frac) :: rest => do
      let priority ← parsePriority py name "defaults.bandwidth_budget"
      let val ← lift (frac.toFloat py)
      match fraction? val with
      | some fraction => parseBudget py (Function.update budget priority fraction) rest
      | none =>
          let shown ← lift (name.toStr py)
          fail { message := "bandwidth_budget." ++ shown ++
            " must be in [0, 1], got " ++ py.showFloat val }

/-- The shares of a `defaults` section: those of `bandwidth_budget` where it has one. -/
def budgetOf (py : PyText) (defaults : Entries) : Loading (TrafficPriority → Fraction) :=
  match find? defaults "bandwidth_budget" with
  | some budget => lift budget.asDict >>= parseBudget py defaultFraction
  | none => return defaultFraction

/-- The test that `rules` is a list. -/
def ruleList : PyValue → Loading (List PyValue)
  | .list items => return items
  | _ => fail { message := "'rules' must be a list" }

/-- `_parse`. -/
def parse (py : PyText) (data : PyValue) : Loading LoadedPolicy := do
  let data ← lift data.asDict
  let defaults ← lift (getOr data "defaults" (.dict [])).asDict
  let defaultPriority ← parsePriority py (get defaults "priority" (.str "MEDIUM"))
    "defaults.priority"
  let bandwidthBudget ← budgetOf py defaults
  let rawRules ← ruleList (getOr data "rules" (.list []))
  let rules ← parseRules py 0 rawRules
  return {
    rules := rules
    defaultPriority := defaultPriority
    bandwidthBudget := bandwidthBudget }

/-- `load_string`, over what `yaml.safe_load` makes of a text: a value, or a `YAMLError`
with its message. -/
def loadString (safeLoad : String → Except String PyValue) (py : PyText) (text : String) :
    Loading LoadedPolicy :=
  match safeLoad text with
  | .error message => fail { message := "Invalid YAML: " ++ message }
  | .ok .null => parse py (.dict [])
  | .ok data => parse py data

end PolicyLoader

end SmartBandwidth

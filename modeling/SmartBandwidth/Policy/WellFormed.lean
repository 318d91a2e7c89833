import SmartBandwidth.Policy.LoadErrors
import Mathlib.Algebra.BigOperators.Group.Finset.Basic
import Mathlib.Data.Fintype.Basic

/-!
# What a loaded policy is like

The documents give ranges for the numbers of a policy file: shares that lie between 0 and 1
and add up to at most 1, coefficients that are not negative, minimum shares in per cent.
The loader compares a rule with the entry it comes from, one after the other; the ranges it
checks hold afterwards, and the others hold when the file keeps to them.
-/

namespace SmartBandwidth.PolicyLoader

open PyValue Raising

/-! ## What the file says -/

/-- The entries of a section; a value that is not a map has none. -/
def asEntries : PyValue → Entries
  | .dict entries => entries
  | _ => []

/-- The rules that the file lists. -/
def fileRules (data : PyValue) : List PyValue :=
  (getOr (asEntries data) "rules" (.list [])).elements

/-- The shares that the file lists. -/
def fileBudget (data : PyValue) : Entries :=
  let defaults := asEntries (getOr (asEntries data) "defaults" (.dict []))
  asEntries (get defaults "bandwidth_budget" (.dict []))

/-- The `match` section of a rule. -/
def criteriaOf (raw : PyValue) : Entries :=
  asEntries (getOr (asEntries raw) "match" (.dict []))

variable (py : PyText)

/-- Whether a key names a class. -/
def namesClass (priority : TrafficPriority) : PyValue → Bool
  | .str name => TrafficPriority.ofName? (py.upper name) = some priority
  | _ => false

/-- The number that stands for a share. -/
def readShare (frac : PyValue) : ℚ :=
  match frac.toFloat py with
  | .ok (.finite value) => value
  | _ => 0

/-- The share of a class: that of the last entry that names it, and the default where none
does. -/
def fileShare (priority : TrafficPriority) (default : ℚ) : Entries → ℚ
  | [] => default
  | (name, frac) :: rest =>
      fileShare priority (if namesClass py priority name then readShare py frac else default) rest

/-- The coefficient of a rule as the file has it. -/
def fileCoefficient (raw : PyValue) : Except PyFault PyFloat :=
  (get (asEntries raw) "value_coefficient" (.float (.finite 1))).toFloat py

/-- The minimum share of a rule as the file has it. -/
def fileMinPct (raw : PyValue) : Except PyFault PyFloat :=
  (get (asEntries raw) "bandwidth_min_pct" (.float (.finite 0))).toFloat py

/-- The rule is the one that an entry of the file describes. -/
structure RuleOf (raw : PyValue) (rule : LoadedRule) : Prop where
  name : (get (asEntries raw) "name").toStr py = .ok rule.name
  priority : ∃ name, get (asEntries raw) "priority" = .str name ∧
    TrafficPriority.ofName? (py.upper name) = some rule.priority
  ports : (getOr (criteriaOf raw) "ports" (.list [])).elements.mapM (toInt py) = .ok rule.ports
  protocols : (getOr (criteriaOf raw) "protocols" (.list [])).elements.mapM
    (fun item => (item.toStr py).map py.lower) = .ok rule.protocols
  payloadPattern : rule.payloadPattern = orNone (get (criteriaOf raw) "payload_pattern")
  bandwidthMinPct : fileMinPct py raw = .ok rule.bandwidthMinPct
  description : (get (asEntries raw) "description" (.str "")).toStr py = .ok rule.description
  valueCoefficient : fileCoefficient py raw = .ok rule.valueCoefficient

/-! ## What the documents promise -/

/-- A number between two bounds. -/
def Between (lower upper : ℚ) (number : PyFloat) : Prop :=
  (PyFloat.finite lower).le number = true ∧ number.le (.finite upper) = true

/-- A text in lower case. -/
def LowerCase (text : String) : Prop := py.lower text = text

/-- Lowering a lowered text changes nothing, as the library has it. -/
def LowerIdempotent : Prop := ∀ text, py.lower (py.lower text) = py.lower text

/-- The policy is well formed: one rule for each entry of the file, in the same order, and
every number in its documented range. -/
structure WellFormed (data : PyValue) (policy : LoadedPolicy) : Prop where
  rules : List.Forall₂ (RuleOf py) (fileRules data) policy.rules
  share : ∀ priority, 0 ≤ (policy.bandwidthBudget priority).value ∧
    (policy.bandwidthBudget priority).value ≤ 1
  shares : ∑ priority, (policy.bandwidthBudget priority).value ≤ 1
  valueCoefficient : ∀ rule ∈ policy.rules,
    (PyFloat.finite 0).le rule.valueCoefficient = true
  bandwidthMinPct : ∀ rule ∈ policy.rules, Between 0 100 rule.bandwidthMinPct
  protocols : ∀ rule ∈ policy.rules, ∀ protocol ∈ rule.protocols, LowerCase py protocol

/-- The numbers of an entry that the loader takes as they are: the minimum share is a
percentage, and the coefficient is not `nan`, which no comparison refuses. -/
structure InDocumentedRange (raw : PyValue) : Prop where
  bandwidthMinPct : ∃ minPct, fileMinPct py raw = .ok minPct ∧ Between 0 100 minPct
  valueCoefficient : fileCoefficient py raw ≠ .ok .nan

variable {py}

/-! ## Rules -/

theorem parsePriority_eq_ok {value : PyValue} {context : String} {priority : TrafficPriority} :
    parsePriority py value context = .ok priority ↔
      ∃ name, value = .str name ∧ TrafficPriority.ofName? (py.upper name) = some priority := by
  simp only [parsePriority, bind_eq_ok, lift_eq_ok, asStr_eq_ok]
  apply exists_congr
  intro name
  apply and_congr_right
  intro _
  cases TrafficPriority.ofName? (py.upper name) with
  | none => simp
  | some found => simp [pure, Except.pure]

/-- A loop over a value goes through its elements. -/
theorem iterate_mapM_eq_ok {α : Type} {operation : PyValue → Except PyFault α} {value : PyValue}
    {results : List α}
    (finished : (value.iterate >>= fun items => items.mapM operation) = .ok results) :
    value.elements.mapM operation = .ok results := by
  obtain ⟨items, reads, mapped⟩ := bind_eq_ok.mp finished
  rw [elements, reads]
  exact mapped

/-- What the loader makes of an entry, and the one check it applies to the numbers. -/
theorem parseRule_ruleOf {raw : PyValue} {index : Nat} {rule : LoadedRule}
    (parsed : parseRule py raw index = .ok rule) :
    RuleOf py raw rule ∧ rule.valueCoefficient.lt (.finite 0) = false := by
  simp only [parseRule, parseFields, bind_eq_ok, lift_eq_ok, asDict_eq_ok, require_eq_ok,
    parsePriority_eq_ok] at parsed
  obtain ⟨fields, rfl, _, _, _, _, priority, known, criteria, isSection, ports, readPorts,
    protocols, readProtocols, coefficient, readCoefficient, _, passes, name, readName, minPct,
    readMinPct, description, readDescription, made⟩ := parsed
  cases made
  have criteriaIs : criteriaOf (.dict fields) = criteria := by
    rw [criteriaOf, asEntries, isSection, asEntries]
  constructor
  · exact {
      name := readName
      priority := known
      ports := by
        rw [criteriaIs]
        exact iterate_mapM_eq_ok (bind_eq_ok.mpr readPorts)
      protocols := by
        rw [criteriaIs]
        exact iterate_mapM_eq_ok (bind_eq_ok.mpr readProtocols)
      payloadPattern := by rw [criteriaIs]
      bandwidthMinPct := readMinPct
      description := readDescription
      valueCoefficient := readCoefficient }
  · simpa using passes

theorem parseRules_rulesOf {raws : List PyValue} {index : Nat} {rules : List LoadedRule}
    (parsed : parseRules py index raws = .ok rules) :
    List.Forall₂ (fun raw rule =>
      RuleOf py raw rule ∧ rule.valueCoefficient.lt (.finite 0) = false) raws rules := by
  induction raws generalizing index rules with
  | nil =>
      cases parsed
      exact .nil
  | cons raw rest ih =>
      obtain ⟨rule, first, parsed⟩ := bind_eq_ok.mp parsed
      obtain ⟨others, following, made⟩ := bind_eq_ok.mp parsed
      cases made
      exact .cons (parseRule_ruleOf first) (ih following)

/-- A check that agrees on an entry and its rule agrees on the two lists. -/
theorem forall_rules_iff {raws : List PyValue} {rules : List LoadedRule}
    {related : PyValue → LoadedRule → Prop} {ofRule : LoadedRule → Prop} {ofRaw : PyValue → Prop}
    (parsed : List.Forall₂ related raws rules)
    (agree : ∀ raw rule, related raw rule → (ofRule rule ↔ ofRaw raw)) :
    (∀ rule ∈ rules, ofRule rule) ↔ ∀ raw ∈ raws, ofRaw raw := by
  induction parsed with
  | nil => simp
  | cons first _ ih => rw [List.forall_mem_cons, List.forall_mem_cons, ih, agree _ _ first]

theorem not_lt_zero_iff {number : PyFloat} :
    number.lt (.finite 0) = false ↔ (PyFloat.finite 0).le number = true ∨ number = .nan := by
  cases number with
  | finite value => simp [PyFloat.lt, PyFloat.le]
  | infinity negative => cases negative <;> simp [PyFloat.lt, PyFloat.le]
  | nan => simp [PyFloat.lt]

/-- A coefficient that passed the check is at least 0 unless the file has `nan` there. -/
theorem RuleOf.coefficient_iff {raw : PyValue} {rule : LoadedRule} (of : RuleOf py raw rule)
    (passes : rule.valueCoefficient.lt (.finite 0) = false) :
    (PyFloat.finite 0).le rule.valueCoefficient = true ↔ fileCoefficient py raw ≠ .ok .nan := by
  rw [of.valueCoefficient]
  cases not_lt_zero_iff.mp passes with
  | inl nonneg =>
      rw [iff_true_left nonneg]
      intro same
      rw [Except.ok.inj same] at nonneg
      cases nonneg
  | inr isNan => simp [isNan, PyFloat.le]

theorem RuleOf.minPct_iff {raw : PyValue} {rule : LoadedRule} (of : RuleOf py raw rule) :
    Between 0 100 rule.bandwidthMinPct ↔
      ∃ minPct, fileMinPct py raw = .ok minPct ∧ Between 0 100 minPct := by
  rw [of.bandwidthMinPct]
  simp

theorem RuleOf.lowerCase (idempotent : LowerIdempotent py) {raw : PyValue} {rule : LoadedRule}
    (of : RuleOf py raw rule) :
    ∀ protocol ∈ rule.protocols, LowerCase py protocol := by
  intro protocol listed
  obtain ⟨item, _, lowered⟩ := (mem_of_mapM_ok of.protocols).mp listed
  cases shown : item.toStr py with
  | error fault => simp [shown, Except.map] at lowered
  | ok original =>
      rw [shown] at lowered
      rw [← Except.ok.inj lowered]
      exact idempotent original

/-! ## Shares -/

theorem fraction?_eq_some {val : PyFloat} {fraction : Fraction}
    (inRange : fraction? val = some fraction) : val = .finite fraction.value := by
  cases val with
  | finite value =>
      rw [fraction?, Option.dite_none_right_eq_some] at inRange
      obtain ⟨_, same⟩ := inRange
      rw [← Option.some.inj same]
  | infinity _ | nan => cases inRange

theorem namesClass_iff {name : PyValue} {named priority : TrafficPriority} {context : String}
    (parses : parsePriority py name context = .ok named) :
    namesClass py priority name = true ↔ named = priority := by
  obtain ⟨text, rfl, known⟩ := parsePriority_eq_ok.mp parses
  simp [namesClass, known]

/-- The loop leaves each class the share that the file gives it. -/
theorem parseBudget_value {budget merged : TrafficPriority → Fraction} {entries : Entries}
    (parsed : parseBudget py budget entries = .ok merged) (priority : TrafficPriority) :
    (merged priority).value = fileShare py priority (budget priority).value entries := by
  induction entries generalizing budget with
  | nil =>
      cases parsed
      rfl
  | cons entry rest ih =>
      rw [parseBudget] at parsed
      obtain ⟨named, parses, parsed⟩ := bind_eq_ok.mp parsed
      obtain ⟨val, reads, parsed⟩ := bind_eq_ok.mp parsed
      rw [lift_eq_ok] at reads
      cases inRange : fraction? val with
      | none => simp [inRange, bind_eq_ok] at parsed
      | some fraction =>
          rw [inRange] at parsed
          rw [ih parsed, fileShare]
          by_cases same : named = priority
          · rw [if_pos ((namesClass_iff parses).mpr same), same, Function.update_self, readShare,
              reads, fraction?_eq_some inRange]
          · rw [if_neg (mt (namesClass_iff parses).mp same),
              Function.update_of_ne (Ne.symm same)]

/-- What the loader reads of a file it accepts. -/
theorem parse_sections {data : PyValue} {policy : LoadedPolicy}
    (loaded : parse py data = .ok policy) :
    parseRules py 0 (fileRules data) = .ok policy.rules ∧
      ∀ priority, (policy.bandwidthBudget priority).value =
        fileShare py priority (defaultBandwidthBudget priority) (fileBudget data) := by
  simp only [parse, bind_eq_ok, lift_eq_ok, asDict_eq_ok, ruleList_eq_ok] at loaded
  obtain ⟨fields, rfl, defaults, isSection, _, _, budget, budgetRead, raws, areRules, rules,
    parsed, made⟩ := loaded
  cases made
  constructor
  · rw [fileRules, asEntries, areRules]
    exact parsed
  · intro priority
    rw [fileBudget, asEntries, isSection, asEntries, PyValue.get]
    rw [budgetOf] at budgetRead
    cases listed : find? defaults "bandwidth_budget" with
    | none =>
        rw [listed] at budgetRead
        cases budgetRead
        rfl
    | some budgetSection =>
        simp only [listed, bind_eq_ok, lift_eq_ok, asDict_eq_ok] at budgetRead
        obtain ⟨entries, rfl, budgetRead⟩ := budgetRead
        exact parseBudget_value budgetRead priority

/-- A loaded policy is well formed exactly when the shares of its file add up to at most 1
and the file keeps to the ranges of the numbers that the loader does not check. -/
theorem parse_wellFormed_iff (py : PyText) (idempotent : LowerIdempotent py) (data : PyValue)
    (policy : LoadedPolicy) (loaded : parse py data = .ok policy) :
    WellFormed py data policy ↔
      ∑ priority, fileShare py priority (defaultBandwidthBudget priority) (fileBudget data) ≤ 1 ∧
        ∀ raw ∈ fileRules data, InDocumentedRange py raw := by
  obtain ⟨parsed, shares⟩ := parse_sections loaded
  have rulesOf := parseRules_rulesOf parsed
  have ofRules : List.Forall₂ (RuleOf py) (fileRules data) policy.rules :=
    rulesOf.imp fun _ _ related => related.1
  have minPcts := forall_rules_iff ofRules fun _ _ of => of.minPct_iff
  have coefficients := forall_rules_iff rulesOf fun _ _ related =>
    related.1.coefficient_iff related.2
  have lowered := (forall_rules_iff ofRules fun _ _ of =>
    iff_true_intro (of.lowerCase idempotent)).mpr fun _ _ => trivial
  rw [← Finset.sum_congr rfl fun priority _ => shares priority]
  constructor
  · intro wellFormed
    apply And.intro wellFormed.shares
    intro raw listed
    exact {
      bandwidthMinPct := minPcts.mp wellFormed.bandwidthMinPct raw listed
      valueCoefficient := coefficients.mp wellFormed.valueCoefficient raw listed }
  · rintro ⟨sum, inRange⟩
    exact {
      rules := ofRules
      share := fun priority =>
        ⟨(policy.bandwidthBudget priority).nonneg, (policy.bandwidthBudget priority).le_one⟩
      shares := sum
      valueCoefficient := coefficients.mpr fun raw listed => (inRange raw listed).valueCoefficient
      bandwidthMinPct := minPcts.mpr fun raw listed => (inRange raw listed).bandwidthMinPct
      protocols := lowered }

/-- A file with one rule, for web traffic, and a share for its class. -/
def webFile (minPct share : ℚ) (coefficient : PyFloat) : PyValue :=
  .dict [
    (.str "defaults", .dict [(.str "bandwidth_budget",
      .dict [(.str "high", .float (.finite share))])]),
    (.str "rules", .list [.dict [(.str "name", .str "web"), (.str "priority", .str "high"),
      (.str "match", .dict [(.str "protocols", .list [.str "TCP"])]),
      (.str "bandwidth_min_pct", .float (.finite minPct)),
      (.str "value_coefficient", .float coefficient)]])]

/-- The policy that the loader makes of it. -/
def webPolicy (minPct : ℚ) (share : Fraction) (coefficient : PyFloat) : LoadedPolicy where
  rules := [{
    name := "web"
    priority := .high
    ports := []
    protocols := ["tcp"]
    payloadPattern := none
    bandwidthMinPct := .finite minPct
    description := ""
    valueCoefficient := coefficient }]
  defaultPriority := .medium
  bandwidthBudget := Function.update defaultFraction .high share

/-- The whole link for one class. -/
def wholeLink : Fraction := ⟨1, by decide +kernel, by decide +kernel⟩

/-- Nothing of the link. -/
def noShare : Fraction := ⟨0, le_rfl, zero_le_one⟩

theorem ascii_lowerIdempotent : LowerIdempotent .ascii := by
  have settled (char : Char) : char.toLower.toLower = char.toLower := by
    delta Char.toLower
    split
    next => grind
    next => rfl
  intro text
  simp [PyText.ascii, Function.comp_def, settled]

/-- A file that keeps to the documents. -/
theorem webFile_wellFormed :
    parse .ascii (webFile 10 0 (.finite 2)) = .ok (webPolicy 10 noShare (.finite 2)) ∧
      WellFormed .ascii (webFile 10 0 (.finite 2)) (webPolicy 10 noShare (.finite 2)) := by
  apply And.intro rfl
  apply (parse_wellFormed_iff .ascii ascii_lowerIdempotent (webFile 10 0 (.finite 2)) _ rfl).mpr
  constructor
  · decide +kernel
  · intro raw listed
    cases List.mem_singleton.mp listed
    exact {
      bandwidthMinPct := ⟨.finite 10, rfl, by decide +kernel, by decide +kernel⟩
      valueCoefficient := by
        intro same
        cases same }

/-- The loader accepts a file that keeps to none of the unchecked ranges. -/
theorem overfull_loads :
    parse .ascii (webFile 250 1 .nan) = .ok (webPolicy 250 wholeLink .nan) ∧
      ¬ WellFormed .ascii (webFile 250 1 .nan) (webPolicy 250 wholeLink .nan) := by
  apply And.intro rfl
  intro wellFormed
  have most :
      ¬ ∑ priority, ((webPolicy 250 wholeLink .nan).bandwidthBudget priority).value ≤ 1 := by
    decide +kernel
  exact most wellFormed.shares

end SmartBandwidth.PolicyLoader

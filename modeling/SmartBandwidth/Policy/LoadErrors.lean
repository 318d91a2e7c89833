import SmartBandwidth.Policy.Loader

/-!
# What a policy file may contain

The loader raises its documented exception for the mistakes it looks for.  A value of a
kind it does not look for, at a position it reads, makes one of its operations raise
instead.  The definitions below say, position by position and in the order in which the
loader gets there, what has to stand in the tree for that not to happen.
-/

namespace SmartBandwidth.PolicyLoader

open PyValue Raising

variable (py : PyText)

/-- The value names a class; the case of its letters does not matter. -/
def Names (value : PyValue) : Prop :=
  ∃ name, value = .str name ∧ (TrafficPriority.ofName? (py.upper name)).isSome

/-- The value reads as a number between 0 and 1. -/
def InRange (frac : PyValue) : Prop :=
  ∃ val, frac.toFloat py = .ok val ∧ (fraction? val).isSome

/-- The `bandwidth_budget` entries fit: each name is a string and, when it names a class,
its share reads as a number.  The entries after one that is refused are not read. -/
def BudgetFits : Entries → Prop
  | [] => True
  | (name, frac) :: rest =>
      name.IsStr ∧ (Names py name →
        frac.ReadsAsFloat py ∧ (InRange py frac → BudgetFits rest))

/-- None of the entries is refused. -/
def BudgetPasses : Entries → Prop
  | [] => True
  | (name, frac) :: rest => Names py name ∧ InRange py frac ∧ BudgetPasses rest

/-- The `defaults` section fits. -/
def DefaultsFit (defaults : Entries) : Prop :=
  (get defaults "priority" (.str "MEDIUM")).IsStr ∧
    (Names py (get defaults "priority" (.str "MEDIUM")) →
      ∀ budget, find? defaults "bandwidth_budget" = some budget →
        ∃ entries, budget = .dict entries ∧ BudgetFits py entries)

/-- Nothing in the `defaults` section is refused. -/
def DefaultsPass (defaults : Entries) : Prop :=
  Names py (get defaults "priority" (.str "MEDIUM")) ∧
    ∀ budget, find? defaults "bandwidth_budget" = some budget →
      ∃ entries, budget = .dict entries ∧ BudgetPasses py entries

/-- A rule's coefficient reads as a number that is not negative. -/
def CoefficientPasses (raw : Entries) : Prop :=
  ∃ coefficient, (get raw "value_coefficient" (.float (.finite 1))).toFloat py =
    .ok coefficient ∧ coefficient.lt (.finite 0) = false

/-- The optional fields of a rule fit. -/
structure FieldsFit (raw criteria : Entries) : Prop where
  ports : (getOr criteria "ports" (.list [])).Iterable
  port : ∀ port ∈ (getOr criteria "ports" (.list [])).elements, port.ReadsAsInt py
  protocols : (getOr criteria "protocols" (.list [])).Iterable
  protocol : ∀ protocol ∈ (getOr criteria "protocols" (.list [])).elements, protocol.Printable
  coefficient : (get raw "value_coefficient" (.float (.finite 1))).ReadsAsFloat py
  name : (get raw "name").Printable
  bandwidthMinPct : CoefficientPasses py raw →
    (get raw "bandwidth_min_pct" (.float (.finite 0))).ReadsAsFloat py
  description : CoefficientPasses py raw → (get raw "description" (.str "")).Printable

/-- A rule fits.  One without a name is refused at once, one without a priority by a
message that shows its name. -/
def RuleFits (raw : PyValue) : Prop :=
  ∃ fields, raw = .dict fields ∧ ((get fields "name").truthy = true →
    ((get fields "priority").truthy = false → (get fields "name").Printable) ∧
    ((get fields "priority").truthy = true → (get fields "priority").IsStr ∧
      (Names py (get fields "priority") → ∃ criteria,
        getOr fields "match" (.dict []) = .dict criteria ∧ FieldsFit py fields criteria)))

/-- A rule is not refused. -/
def RulePasses (raw : PyValue) : Prop :=
  ∃ fields, raw = .dict fields ∧ (get fields "name").truthy = true ∧
    (get fields "priority").truthy = true ∧ Names py (get fields "priority") ∧
    CoefficientPasses py fields

/-- The rules fit.  Those after one that is refused are not read. -/
def RulesFit : List PyValue → Prop
  | [] => True
  | raw :: rest => RuleFits py raw ∧ (RulePasses py raw → RulesFit rest)

/-- The whole tree fits. -/
def Fits (data : PyValue) : Prop :=
  ∃ fields defaults, data = .dict fields ∧ getOr fields "defaults" (.dict []) = .dict defaults ∧
    DefaultsFit py defaults ∧ (DefaultsPass py defaults →
      ∀ rules, getOr fields "rules" (.list []) = .list rules → RulesFit py rules)

variable {py}

/-! ## Priorities -/

theorem exists_parsePriority {value : PyValue} {context : String} :
    (∃ priority, parsePriority py value context = .ok priority) ↔ Names py value := by
  simp only [parsePriority, bind_eq_ok, lift_eq_ok, asStr_eq_ok, Names]
  constructor
  · rintro ⟨priority, name, same, parses⟩
    apply Exists.intro name
    cases known : TrafficPriority.ofName? (py.upper name) with
    | none => simp [known] at parses
    | some found => exact ⟨same, rfl⟩
  · rintro ⟨name, same, known⟩
    have found := Option.eq_some_of_isSome known
    exact ⟨_, name, same, by rw [found]; rfl⟩

theorem documented_parsePriority_iff {value : PyValue} {context : String} :
    Documented (parsePriority py value context) ↔ value.IsStr := by
  rw [parsePriority, documented_bind_iff, documented_lift_iff, exists_asStr, and_iff_left_iff_imp]
  intro _ name _
  cases TrafficPriority.ofName? (py.upper name) with
  | none => exact documented_fail _
  | some priority => exact documented_pure _

/-! ## Rules -/

theorem exists_named {ctx text : String} {name : PyValue} :
    (∃ error, named py ctx name text = .ok error) ↔ name.Printable := by
  rw [named, ← @exists_toStr py]
  cases name.toStr py <;> simp [bind, Except.bind, pure, Except.pure]

theorem exists_lowered {item : PyValue} :
    (∃ text, (item.toStr py).map py.lower = .ok text) ↔ item.Printable := by
  rw [← @exists_toStr py]
  cases item.toStr py <;> simp [Except.map]

/-- The loop over the ports. -/
theorem exists_ports {ports : PyValue} :
    (∃ read, (ports.iterate >>= fun items => items.mapM (toInt py)) = .ok read) ↔
      ports.Iterable ∧ ∀ port ∈ ports.elements, port.ReadsAsInt py := by
  rw [exists_iterate_mapM]
  apply and_congr_right
  intro _
  apply forall₂_congr
  intro port _
  exact exists_toInt

/-- The loop over the protocols. -/
theorem exists_protocols {protocols : PyValue} :
    (∃ read, (protocols.iterate >>= fun items => items.mapM fun item =>
        (item.toStr py).map py.lower) = .ok read) ↔
      protocols.Iterable ∧ ∀ protocol ∈ protocols.elements, protocol.Printable := by
  rw [exists_iterate_mapM]
  apply and_congr_right
  intro _
  apply forall₂_congr
  intro protocol _
  exact exists_lowered

theorem documented_parseFields_iff {ctx : String} {raw criteria : Entries}
    {priority : TrafficPriority} :
    Documented (parseFields py ctx raw criteria (get raw "name") priority) ↔
      FieldsFit py raw criteria := by
  have steps : Documented (parseFields py ctx raw criteria (get raw "name") priority) ↔
      ((getOr criteria "ports" (.list [])).Iterable ∧
        ∀ port ∈ (getOr criteria "ports" (.list [])).elements, port.ReadsAsInt py) ∧
      ((getOr criteria "protocols" (.list [])).Iterable ∧
        ∀ protocol ∈ (getOr criteria "protocols" (.list [])).elements, protocol.Printable) ∧
      (get raw "value_coefficient" (.float (.finite 1))).ReadsAsFloat py ∧
      (get raw "name").Printable ∧
      (CoefficientPasses py raw →
        (get raw "bandwidth_min_pct" (.float (.finite 0))).ReadsAsFloat py ∧
          (get raw "description" (.str "")).Printable) := by
    apply documented_lift_bind exists_ports
    intro ports _
    apply documented_lift_bind exists_protocols
    intro protocols _
    apply documented_lift_bind exists_toFloat
    intro coefficient reads
    have passes : CoefficientPasses py raw ↔ (!coefficient.lt (.finite 0)) = true := by
      simp [CoefficientPasses, reads]
    rw [documented_require_bind, passes, exists_named]
    cases !coefficient.lt (.finite 0) with
    | false => simp
    | true =>
        simp only [Bool.true_eq_false, false_implies, true_and, true_implies]
        apply documented_lift_bind exists_toStr
        intro name _
        apply documented_lift_bind exists_toFloat
        intro bandwidthMinPct _
        rw [documented_bind_iff, documented_lift_iff, exists_toStr]
        simp
  rw [steps]
  constructor
  · rintro ⟨⟨ports, port⟩, ⟨protocols, protocol⟩, coefficient, name, rest⟩
    exact {
      ports := ports
      port := port
      protocols := protocols
      protocol := protocol
      coefficient := coefficient
      name := name
      bandwidthMinPct := fun passes => (rest passes).1
      description := fun passes => (rest passes).2 }
  · intro fits
    exact ⟨⟨fits.ports, fits.port⟩, ⟨fits.protocols, fits.protocol⟩, fits.coefficient, fits.name,
      fun passes => ⟨fits.bandwidthMinPct passes, fits.description passes⟩⟩

theorem succeeds_parseFields_iff {ctx : String} {raw criteria : Entries}
    {priority : TrafficPriority} :
    Succeeds (parseFields py ctx raw criteria (get raw "name") priority) ↔
      FieldsFit py raw criteria ∧ CoefficientPasses py raw := by
  have steps : Succeeds (parseFields py ctx raw criteria (get raw "name") priority) ↔
      ((getOr criteria "ports" (.list [])).Iterable ∧
        ∀ port ∈ (getOr criteria "ports" (.list [])).elements, port.ReadsAsInt py) ∧
      ((getOr criteria "protocols" (.list [])).Iterable ∧
        ∀ protocol ∈ (getOr criteria "protocols" (.list [])).elements, protocol.Printable) ∧
      (get raw "value_coefficient" (.float (.finite 1))).ReadsAsFloat py ∧
      CoefficientPasses py raw ∧ (get raw "name").Printable ∧
      (get raw "bandwidth_min_pct" (.float (.finite 0))).ReadsAsFloat py ∧
      (get raw "description" (.str "")).Printable := by
    apply succeeds_lift_bind exists_ports
    intro ports _
    apply succeeds_lift_bind exists_protocols
    intro protocols _
    apply succeeds_lift_bind exists_toFloat
    intro coefficient reads
    rw [succeeds_require_bind]
    apply and_congr
    · simp [CoefficientPasses, reads]
    · apply succeeds_lift_bind exists_toStr
      intro name _
      apply succeeds_lift_bind exists_toFloat
      intro bandwidthMinPct _
      rw [succeeds_bind_iff]
      simp [exists_toStr]
  rw [steps]
  constructor
  · rintro ⟨⟨ports, port⟩, ⟨protocols, protocol⟩, coefficient, passes, name, minPct, description⟩
    exact ⟨⟨ports, port, protocols, protocol, coefficient, name, fun _ => minPct,
      fun _ => description⟩, passes⟩
  · rintro ⟨fits, passes⟩
    exact ⟨⟨fits.ports, fits.port⟩, ⟨fits.protocols, fits.protocol⟩, fits.coefficient, passes,
      fits.name, fits.bandwidthMinPct passes, fits.description passes⟩

theorem documented_parseRule_iff {raw : PyValue} {index : Nat} :
    Documented (parseRule py raw index) ↔ RuleFits py raw := by
  rw [parseRule, documented_lift_bind_iff]
  simp only [asDict_eq_ok, RuleFits]
  apply exists_congr
  intro fields
  apply and_congr_right
  intro _
  rw [documented_require_bind]
  simp only [Except.ok.injEq, exists_eq', implies_true, true_and]
  apply imp_congr_right
  intro _
  rw [documented_require_bind, exists_named]
  apply and_congr_right
  intro _
  apply imp_congr_right
  intro _
  rw [← documented_parsePriority_iff, ← exists_parsePriority]
  apply documented_bind
  intro priority _
  rw [documented_lift_bind_iff]
  simp only [asDict_eq_ok, documented_parseFields_iff]

/-- The loader makes a rule of what fits and is not refused. -/
theorem succeeds_parseRule_iff {raw : PyValue} {index : Nat} :
    Succeeds (parseRule py raw index) ↔ RuleFits py raw ∧ RulePasses py raw := by
  have steps : Succeeds (parseRule py raw index) ↔ ∃ fields, raw = .dict fields ∧
      (get fields "name").truthy = true ∧ (get fields "priority").truthy = true ∧
        Names py (get fields "priority") ∧ ∃ criteria,
          getOr fields "match" (.dict []) = .dict criteria ∧
            FieldsFit py fields criteria ∧ CoefficientPasses py fields := by
    rw [parseRule, succeeds_lift_bind_iff]
    simp only [asDict_eq_ok]
    apply exists_congr
    intro fields
    rw [succeeds_require_bind, succeeds_require_bind, ← exists_parsePriority]
    apply and_congr_right
    intro _
    apply and_congr_right
    intro _
    apply and_congr_right
    intro _
    apply succeeds_bind
    intro priority _
    rw [succeeds_lift_bind_iff]
    simp only [asDict_eq_ok, succeeds_parseFields_iff]
  constructor
  · intro succeeds
    apply And.intro (documented_parseRule_iff.mp succeeds.documented)
    obtain ⟨fields, isDict, name, priority, known, _, _, _, passes⟩ := steps.mp succeeds
    exact ⟨fields, isDict, name, priority, known, passes⟩
  · rintro ⟨⟨fields, isDict, fits⟩, ⟨_, same, name, priority, known, passes⟩⟩
    cases isDict.symm.trans same
    obtain ⟨criteria, isSection, fieldsFit⟩ := ((fits name).2 priority).2 known
    exact steps.mpr ⟨fields, isDict, name, priority, known, criteria, isSection, fieldsFit, passes⟩

theorem documented_parseRules_iff {rules : List PyValue} {index : Nat} :
    Documented (parseRules py index rules) ↔ RulesFit py rules := by
  induction rules generalizing index with
  | nil => simp [parseRules, RulesFit]
  | cons raw rest ih =>
      have continues : ∀ rule, parseRule py raw index = .ok rule →
          (Documented (parseRules py (index + 1) rest >>= fun rules => pure (rule :: rules)) ↔
            RulesFit py rest) := by
        intro rule _
        rw [documented_bind_iff, ih]
        simp
      rw [parseRules, RulesFit, documented_bind continues, documented_parseRule_iff,
        succeeds_parseRule_iff]
      apply and_congr_right
      intro fits
      rw [and_iff_right fits]

/-! ## Defaults -/

theorem exists_toFloat_inRange {frac : PyValue} {val : PyFloat}
    (reads : frac.toFloat py = .ok val) : InRange py frac ↔ (fraction? val).isSome = true := by
  simp [InRange, reads]

theorem documented_parseBudget_iff {budget : TrafficPriority → Fraction} {entries : Entries} :
    Documented (parseBudget py budget entries) ↔ BudgetFits py entries := by
  induction entries generalizing budget with
  | nil => simp [parseBudget, BudgetFits]
  | cons entry rest ih =>
      rw [parseBudget, BudgetFits, ← documented_parsePriority_iff, ← exists_parsePriority]
      apply documented_bind
      intro priority named
      apply documented_lift_bind exists_toFloat
      intro val reads
      rw [exists_toFloat_inRange reads]
      cases fraction? val with
      | some fraction => simp [ih]
      | none =>
          obtain ⟨name, isStr, _⟩ := exists_parsePriority.mp ⟨priority, named⟩
          simp [isStr, toStr, documented_lift_bind_iff]

theorem succeeds_parseBudget_iff {budget : TrafficPriority → Fraction} {entries : Entries} :
    Succeeds (parseBudget py budget entries) ↔ BudgetPasses py entries := by
  induction entries generalizing budget with
  | nil => simp [parseBudget, BudgetPasses]
  | cons entry rest ih =>
      rw [parseBudget, BudgetPasses, ← exists_parsePriority]
      apply succeeds_bind
      intro priority _
      rw [succeeds_lift_bind_iff, InRange, ← exists_and_right]
      apply exists_congr
      intro val
      rw [and_assoc]
      apply and_congr_right
      intro _
      cases fraction? val with
      | some fraction => simp [ih]
      | none => simp [succeeds_lift_bind_iff]

theorem documented_budgetOf_iff {defaults : Entries} :
    Documented (budgetOf py defaults) ↔
      ∀ budget, find? defaults "bandwidth_budget" = some budget →
        ∃ entries, budget = .dict entries ∧ BudgetFits py entries := by
  rw [budgetOf]
  cases find? defaults "bandwidth_budget" with
  | none => simp
  | some budget => simp [documented_lift_bind_iff, documented_parseBudget_iff]

theorem succeeds_budgetOf_iff {defaults : Entries} :
    Succeeds (budgetOf py defaults) ↔
      ∀ budget, find? defaults "bandwidth_budget" = some budget →
        ∃ entries, budget = .dict entries ∧ BudgetPasses py entries := by
  rw [budgetOf]
  cases find? defaults "bandwidth_budget" with
  | none => simp
  | some budget => simp [succeeds_lift_bind_iff, succeeds_parseBudget_iff]

/-! ## Whole files -/

theorem documented_ruleList (rules : PyValue) : Documented (ruleList rules) := by
  cases rules with
  | list items => exact documented_pure items
  | _ => exact documented_fail _

theorem ruleList_eq_ok {rules : PyValue} {items : List PyValue} :
    ruleList rules = .ok items ↔ rules = .list items := by
  cases rules <;> simp [ruleList, pure, Except.pure]

/-- `_parse` raises nothing but its documented exception exactly when the tree fits. -/
theorem documented_parse_iff {data : PyValue} : Documented (parse py data) ↔ Fits py data := by
  have rulesRead : ∀ (fields : Entries) (priority : TrafficPriority)
      (budget : TrafficPriority → Fraction),
      Documented (ruleList (getOr fields "rules" (.list [])) >>= fun rawRules =>
        parseRules py 0 rawRules >>= fun rules =>
          (pure (LoadedPolicy.mk rules priority budget) : Loading LoadedPolicy)) ↔
      ∀ rules, getOr fields "rules" (.list []) = .list rules → RulesFit py rules := by
    intro fields priority budget
    rw [documented_bind_iff, and_iff_right (documented_ruleList _)]
    simp only [ruleList_eq_ok, documented_bind_iff, documented_parseRules_iff, documented_pure,
      implies_true, and_true]
  rw [parse, documented_lift_bind_iff]
  simp only [asDict_eq_ok, documented_lift_bind_iff, Fits, exists_and_left]
  apply exists_congr
  intro fields
  apply and_congr_right
  intro _
  apply exists_congr
  intro defaults
  apply and_congr_right
  intro _
  rw [documented_bind fun priority _ => documented_bind fun budget _ =>
    rulesRead fields priority budget, documented_parsePriority_iff, documented_budgetOf_iff,
    succeeds_budgetOf_iff]
  simp only [DefaultsFit, DefaultsPass, Succeeds, exists_parsePriority]
  tauto

/-- `load_string` returns a policy or raises `PolicyLoadError`, and nothing else, exactly
when what the reader makes of the text is null or fits. -/
theorem loadString_documented_iff (safeLoad : String → Except String PyValue) (py : PyText)
    (text : String) :
    ((∃ policy, loadString safeLoad py text = .ok policy) ∨
        ∃ error, loadString safeLoad py text = .error (.documented error)) ↔
      ∀ data, safeLoad text = .ok data → data = .null ∨ Fits py data := by
  have blank : Documented (parse py (.dict [])) := by
    apply documented_parse_iff.mpr
    -- An empty map takes every default.
    apply Exists.intro []
    apply Exists.intro []
    have defaultsFit : DefaultsFit py [] :=
      ⟨⟨"MEDIUM", rfl⟩, fun _ budget present => by cases present⟩
    apply And.intro rfl
    apply And.intro rfl
    apply And.intro defaultsFit
    intro _ rules isList
    cases isList
    trivial
  rw [← Succeeds, ← documented_iff, loadString]
  cases safeLoad text with
  | error message => simp
  | ok data =>
      cases data with
      | null => simpa using blank
      | _ => simp [documented_parse_iff]

/-- A rule for web traffic whose port is not in a list. -/
def scalarPorts : PyValue :=
  .dict [(.str "rules", .list [.dict [(.str "name", .str "web"),
    (.str "match", .dict [(.str "ports", .int 443)]), (.str "priority", .str "HIGH")]])]

/-- The loop over a scalar raises `TypeError`, which `load_string` does not document. -/
theorem scalar_ports_escape :
    loadString (fun _ => .ok scalarPorts) .ascii "rules.yaml" = .error (.fault .typeError) ∧
      ¬ ((∃ policy, loadString (fun _ => .ok scalarPorts) .ascii "rules.yaml" = .ok policy) ∨
        ∃ error, loadString (fun _ => .ok scalarPorts) .ascii "rules.yaml" =
          .error (.documented error)) := by
  have escapes : loadString (fun _ => .ok scalarPorts) .ascii "rules.yaml" =
      .error (.fault .typeError) := rfl
  rw [escapes]
  simp

end SmartBandwidth.PolicyLoader

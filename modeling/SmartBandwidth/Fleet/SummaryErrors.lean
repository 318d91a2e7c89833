import SmartBandwidth.Fleet.ValueSummary

/-!
# Reports that the summary can take

A single report that is no map, a figure in it that is no number, or an integer that would
have to become a float and is too large, makes the summary of the whole fleet raise for as
long as its node is live.  Without one, each node is reported by its own stats alone.
-/

namespace SmartBandwidth.FleetSummary

open PyValue

variable {figure : Figure} {value : PyValue} {values : List PyValue}

/-- The figures that a report is read for. -/
def figures : List Figure := [delivered, lost, efficiency]

/-- What stands under `value` fits: a map whose figures, where present, are numbers. -/
def ReportFits (value : PyValue) : Prop :=
  ∃ fields, value = .dict fields ∧ ∀ figure ∈ figures,
    (get fields figure.key (.float (.finite figure.default))).IsNumber

/-- A figure of a report that fits. -/
def Figure.numberOf (figure : Figure) (value : PyValue) : PyNumber :=
  (figure.number value).toOption.getD (.int 0)

/-- The integers that the fleet's efficiency turns into floats convert: when both totals are
integers and the flow is positive, the delivered total and the flow; when one is an integer
and the other is not, the integer. -/
def FlowFits (deliveries losses : List PyNumber) : Prop :=
  match PyNumber.exactSum? deliveries, PyNumber.exactSum? losses with
  | some delivered, some lost =>
      0 < delivered + lost → PyFloat.Holds delivered ∧ PyFloat.Holds (delivered + lost)
  | some delivered, none => PyFloat.Holds delivered
  | none, some lost => PyFloat.Holds lost
  | none, none => True

/-- The reports of a fleet fit. -/
structure FleetFits (values : List PyValue) : Prop where
  report : ∀ value ∈ values, ReportFits value
  delivered : PyNumber.SumFits 0 (values.map delivered.numberOf)
  lost : PyNumber.SumFits 0 (values.map lost.numberOf)
  flow : FlowFits (values.map FleetSummary.delivered.numberOf)
    (values.map FleetSummary.lost.numberOf)

/-! ## Figures -/

theorem exists_number :
    (∃ number, figure.number value = .ok number) ↔ ∃ fields, value = .dict fields ∧
      (get fields figure.key (.float (.finite figure.default))).IsNumber := by
  simp only [Figure.number, Figure.read, Raising.exists_bind_iff, ← exists_asNumber]
  cases value <;> simp [asDict, bind, Except.bind, pure, Except.pure]

theorem forall_figures {property : Figure → Prop} :
    (∀ figure ∈ figures, property figure) ↔
      property delivered ∧ property lost ∧ property efficiency := by
  simp [figures]

theorem reportFits_iff :
    ReportFits value ↔ ∀ figure ∈ figures, ∃ number, figure.number value = .ok number := by
  simp only [exists_number, ReportFits]
  constructor
  · rintro ⟨fields, isDict, numbers⟩ figure member
    exact ⟨fields, isDict, numbers figure member⟩
  · intro numbers
    obtain ⟨fields, isDict, _⟩ := numbers delivered List.mem_cons_self
    apply Exists.intro fields
    apply And.intro isDict
    intro figure member
    obtain ⟨_, same, isNumber⟩ := numbers figure member
    cases isDict.symm.trans same
    exact isNumber

theorem number_eq_numberOf (reads : ∃ number, figure.number value = .ok number) :
    figure.number value = .ok (figure.numberOf value) := by
  obtain ⟨number, read⟩ := reads
  simp [Figure.numberOf, read, Except.toOption]

/-! ## Totals -/

/-- The sum of figures that are all numbers is the sum of the numbers. -/
theorem sumOf_eq_sum {total : PyNumber}
    (reads : ∀ value ∈ values, ∃ number, figure.number value = .ok number) :
    sumOf figure total values = PyNumber.sum total (values.map figure.numberOf) := by
  induction values generalizing total with
  | nil => rfl
  | cons value rest ih =>
      rw [List.forall_mem_cons] at reads
      rw [sumOf, number_eq_numberOf reads.1, List.map_cons, PyNumber.sum]
      simp only [bind, Except.bind]
      cases total.add (figure.numberOf value) with
      | error fault => rfl
      | ok total => exact ih reads.2

theorem number_of_sumOf {total : PyNumber}
    (sums : ∃ result, sumOf figure total values = .ok result) :
    ∀ value ∈ values, ∃ number, figure.number value = .ok number := by
  induction values generalizing total with
  | nil => simp
  | cons value rest ih =>
      rw [List.forall_mem_cons]
      obtain ⟨number, reads, sums⟩ := Raising.exists_bind_iff.mp sums
      obtain ⟨next, _, sums⟩ := Raising.exists_bind_iff.mp sums
      exact ⟨⟨number, reads⟩, ih sums⟩

theorem exists_sumOf :
    (∃ total, sumOf figure (.int 0) values = .ok total) ↔
      (∀ value ∈ values, ∃ number, figure.number value = .ok number) ∧
        PyNumber.SumFits 0 (values.map figure.numberOf) := by
  constructor
  · intro sums
    have reads := number_of_sumOf sums
    rw [sumOf_eq_sum reads, PyNumber.exists_sum_int] at sums
    exact ⟨reads, sums⟩
  · rintro ⟨reads, fits⟩
    rw [sumOf_eq_sum reads]
    exact PyNumber.exists_sum_int.mpr fits

/-! ## The fleet's efficiency -/

/-- A positive flow can be divided by. -/
theorem ne_zero_of_positive {flow : PyNumber} {float : PyFloat}
    (positive : (PyNumber.int 0).lt flow = true) (converts : flow.toFloat = .ok float) :
    float ≠ .finite 0 := by
  intro zero
  rw [PyNumber.lt, ← PyNumber.toFloat_eq_ok converts, zero] at positive
  simp [PyNumber.exact, PyFloat.lt] at positive

theorem exists_fleetEfficiency {total flow : PyNumber} :
    (∃ efficiency, fleetEfficiency total flow = .ok efficiency) ↔
      ((PyNumber.int 0).lt flow = true →
        (∃ float, total.toFloat = .ok float) ∧ ∃ float, flow.toFloat = .ok float) := by
  rw [fleetEfficiency]
  split
  next positive =>
    simp only [Raising.exists_bind_iff, positive, true_implies]
    constructor
    · rintro ⟨dividend, first, divisor, second, _⟩
      exact ⟨⟨dividend, first⟩, ⟨divisor, second⟩⟩
    · rintro ⟨⟨dividend, first⟩, ⟨divisor, second⟩⟩
      obtain ⟨quotient, divides⟩ : ∃ quotient, (dividend.scale 100).div divisor = .ok quotient :=
        PyFloat.exists_div.mpr (ne_zero_of_positive positive second)
      exact ⟨dividend, first, divisor, second, quotient, divides, _, rfl⟩
  next => simp_all

/-- A total that has become a float leaves only the addition and the dividend to fail. -/
theorem exists_flow_of_float {totalDelivered totalLost : PyNumber} {shape : Prop}
    (isFloat : (∃ float, totalDelivered = .float float) ∨ ∃ float, totalLost = .float float)
    (adds : (∃ flow, totalDelivered.add totalLost = .ok flow) ↔ shape)
    (converts : shape → ∃ float, totalDelivered.toFloat = .ok float) :
    (∃ flow, totalDelivered.add totalLost = .ok flow ∧
        ∃ efficiency, fleetEfficiency totalDelivered flow = .ok efficiency) ↔ shape := by
  constructor
  · rintro ⟨flow, sum, _⟩
    exact adds.mp ⟨flow, sum⟩
  · intro holds
    obtain ⟨flow, sum⟩ := adds.mpr holds
    obtain ⟨value, flowFloat⟩ := PyNumber.add_isFloat sum isFloat
    apply Exists.intro flow
    apply And.intro sum
    apply exists_fleetEfficiency.mpr
    intro _
    exact ⟨converts holds, value, congrArg PyNumber.toFloat flowFloat⟩

/-- The totals of the two figures add up and divide when the flow fits. -/
theorem exists_flow {deliveries losses : List PyNumber} {totalDelivered totalLost : PyNumber}
    (sumDelivered : PyNumber.sum (.int 0) deliveries = .ok totalDelivered)
    (sumLost : PyNumber.sum (.int 0) losses = .ok totalLost) :
    (∃ flow, totalDelivered.add totalLost = .ok flow ∧
        ∃ efficiency, fleetEfficiency totalDelivered flow = .ok efficiency) ↔
      FlowFits deliveries losses := by
  obtain ⟨exactDelivered, floatDelivered⟩ := PyNumber.sum_int sumDelivered
  obtain ⟨exactLost, floatLost⟩ := PyNumber.sum_int sumLost
  rw [FlowFits]
  cases deliveredSum : PyNumber.exactSum? deliveries with
  | some delivered =>
      rw [exactDelivered delivered deliveredSum, Int.zero_add]
      cases lostSum : PyNumber.exactSum? losses with
      | some lost =>
          rw [exactLost lost lostSum, Int.zero_add]
          simp [exists_fleetEfficiency, PyNumber.exists_toFloat_int]
      | none =>
          obtain ⟨float, isFloat⟩ := floatLost lostSum
          rw [isFloat]
          exact exists_flow_of_float (.inr ⟨float, rfl⟩) PyNumber.exists_add_int_float
            PyNumber.exists_toFloat_int.mpr
  | none =>
      obtain ⟨dividend, isFloat⟩ := floatDelivered deliveredSum
      rw [isFloat]
      have converts : ∃ float, (PyNumber.float dividend).toFloat = .ok float := ⟨dividend, rfl⟩
      cases lostSum : PyNumber.exactSum? losses with
      | some lost =>
          rw [exactLost lost lostSum, Int.zero_add]
          exact exists_flow_of_float (.inl ⟨dividend, rfl⟩) PyNumber.exists_add_float_int
            fun _ => converts
      | none =>
          obtain ⟨float, lostFloat⟩ := floatLost lostSum
          rw [lostFloat]
          exact exists_flow_of_float (.inl ⟨dividend, rfl⟩) (iff_true_intro ⟨_, rfl⟩)
            fun _ => converts

/-! ## The nodes -/

theorem nodeValue_exists_iff : (∃ node, nodeValue value = .ok node) ↔ ReportFits value := by
  rw [reportFits_iff, forall_figures]
  simp only [nodeValue, Raising.exists_bind_iff]
  constructor
  · rintro ⟨third, efficiency, first, delivered, second, lost, _⟩
    exact ⟨⟨first, delivered⟩, ⟨second, lost⟩, third, efficiency⟩
  · rintro ⟨⟨first, delivered⟩, ⟨second, lost⟩, third, efficiency⟩
    exact ⟨third, efficiency, first, delivered, second, lost, _, rfl⟩

/-- Among efficiencies that are numbers `max` and `min` find a node. -/
theorem exists_extreme (beats : PyValue → PyValue → Except PyFault Bool)
    (decides : ∀ left right : PyValue, left.IsNumber → right.IsNumber →
      ∃ better, beats left right = .ok better)
    (current : String × PyValue) {nodes : List (String × PyValue)} (number : current.2.IsNumber)
    (numbers : ∀ node ∈ nodes, node.2.IsNumber) :
    ∃ node, extreme beats current nodes = .ok node := by
  induction nodes generalizing current with
  | nil => exact ⟨current.1, rfl⟩
  | cons node rest ih =>
      rw [List.forall_mem_cons] at numbers
      obtain ⟨better, compares⟩ := decides node.2 current.2 numbers.1 number
      rw [extreme, compares]
      apply ih _ _ numbers.2
      cases better with
      | true => exact numbers.1
      | false => exact number

theorem exists_lt {listLess : List PyValue → List PyValue → Except PyFault Bool}
    {left right : PyValue} (leftNumber : left.IsNumber) (rightNumber : right.IsNumber) :
    ∃ less, lt listLess left right = .ok less := by
  obtain ⟨_, readsLeft⟩ := exists_asNumber.mpr leftNumber
  obtain ⟨_, readsRight⟩ := exists_asNumber.mpr rightNumber
  exact ⟨_, lt_of_asNumber readsLeft readsRight⟩

theorem exists_read (fits : ReportFits value) :
    ∃ read, efficiency.read value = .ok read ∧ read.IsNumber := by
  obtain ⟨fields, isDict, numbers⟩ := fits
  rw [isDict]
  exact ⟨_, rfl, numbers efficiency (by simp [figures])⟩

/-! ## The summary -/

variable {listLess : List PyValue → List PyValue → Except PyFault Bool} {nonPvm : List String}
variable {first : String × PyValue} {others : List (String × PyValue)}

theorem exists_forNodes {α : Type} {operation : PyValue → Except PyFault α}
    {nodes : List (String × PyValue)} :
    (∃ results, forNodes operation nodes = .ok results) ↔
      ∀ node ∈ nodes, ∃ result, operation node.2 = .ok result := by
  rw [forNodes, Raising.mapM_ok_iff]
  apply forall₂_congr
  intro node _
  cases operation node.2 <;> simp [Except.map]

/-- The entry of a node is its answer under its id. -/
theorem entry_eq_ok {α : Type} {operation : PyValue → Except PyFault α}
    {node : String × PyValue} {entry : String × α} :
    ((operation node.2).map fun result => (node.1, result)) = .ok entry ↔
      node.1 = entry.1 ∧ operation node.2 = .ok entry.2 := by
  cases operation node.2 <;> simp [Except.map, Prod.ext_iff]

theorem mem_forNodes {α : Type} {operation : PyValue → Except PyFault α}
    {nodes : List (String × PyValue)} {results : List (String × α)}
    (finished : forNodes operation nodes = .ok results) {nodeId : String} {result : α} :
    (nodeId, result) ∈ results ↔
      ∃ value, (nodeId, value) ∈ nodes ∧ operation value = .ok result := by
  rw [Raising.mem_of_mapM_ok finished]
  simp only [entry_eq_ok]
  constructor
  · rintro ⟨node, member, rfl, answers⟩
    exact ⟨node.2, member, answers⟩
  · rintro ⟨value, member, answers⟩
    exact ⟨(nodeId, value), member, rfl, answers⟩

/-- The answers stand under the ids of their nodes. -/
theorem forNodes_ids {α : Type} {operation : PyValue → Except PyFault α}
    {nodes : List (String × PyValue)} {results : List (String × α)}
    (finished : forNodes operation nodes = .ok results) :
    results.map Prod.fst = nodes.map Prod.fst := by
  induction nodes generalizing results with
  | nil =>
      cases finished
      rfl
  | cons node rest ih =>
      rw [forNodes, List.mapM_cons] at finished
      obtain ⟨entry, maps, finished⟩ := Raising.bind_eq_ok.mp finished
      obtain ⟨entries, finishedRest, same⟩ := Raising.bind_eq_ok.mp finished
      cases same
      rw [List.map_cons, List.map_cons, ih finishedRest, (entry_eq_ok.mp maps).1]

/-- The efficiencies of nodes whose reports fit are read, and they are numbers. -/
theorem exists_efficiencies {nodes : List (String × PyValue)}
    (report : ∀ node ∈ nodes, ReportFits node.2) :
    ∃ efficiencies, forNodes efficiency.read nodes = .ok efficiencies ∧
      ∀ node ∈ efficiencies, node.2.IsNumber := by
  have reads : ∀ node ∈ nodes, ∃ read, efficiency.read node.2 = .ok read :=
    fun node member => (exists_read (report node member)).imp fun _ => And.left
  obtain ⟨efficiencies, finished⟩ := exists_forNodes.mpr reads
  apply Exists.intro efficiencies
  apply And.intro finished
  intro node member
  obtain ⟨value, isNode, read⟩ := (mem_forNodes finished).mp member
  obtain ⟨_, same, number⟩ := exists_read (report _ isNode)
  cases read.symm.trans same
  exact number

/-- The summary of the reports exists exactly when they fit. -/
theorem exists_ofReports :
    (∃ summary, ofReports listLess nonPvm first others = .ok summary) ↔
      FleetFits ((first :: others).map Prod.snd) := by
  simp only [ofReports, Raising.exists_bind_iff]
  constructor
  · rintro ⟨totalDelivered, sumsDelivered, totalLost, sumsLost, flow, adds, efficiency, divides,
      _, _, _, _, _, _, _, _, nodes, finished, _⟩
    have delivered := exists_sumOf.mp ⟨totalDelivered, sumsDelivered⟩
    have lost := exists_sumOf.mp ⟨totalLost, sumsLost⟩
    rw [sumOf_eq_sum delivered.1] at sumsDelivered
    rw [sumOf_eq_sum lost.1] at sumsLost
    have report := exists_forNodes.mp ⟨nodes, finished⟩
    exact {
      report := List.forall_mem_map.mpr fun node member =>
        nodeValue_exists_iff.mp (report node member)
      delivered := delivered.2
      lost := lost.2
      flow := (exists_flow sumsDelivered sumsLost).mp ⟨flow, adds, efficiency, divides⟩ }
  · intro fits
    have report : ∀ node ∈ first :: others, ReportFits node.2 := List.forall_mem_map.mp fits.report
    have reads : ∀ figure ∈ figures, ∀ value ∈ (first :: others).map Prod.snd,
        ∃ number, figure.number value = .ok number := by
      intro figure isFigure value member
      exact reportFits_iff.mp (fits.report value member) figure isFigure
    have delivered := reads FleetSummary.delivered (by simp [figures])
    have lost := reads FleetSummary.lost (by simp [figures])
    obtain ⟨totalDelivered, sumsDelivered⟩ := exists_sumOf.mpr ⟨delivered, fits.delivered⟩
    obtain ⟨totalLost, sumsLost⟩ := exists_sumOf.mpr ⟨lost, fits.lost⟩
    obtain ⟨flow, adds, percent, divides⟩ :=
      (exists_flow ((sumOf_eq_sum delivered).symm.trans sumsDelivered)
        ((sumOf_eq_sum lost).symm.trans sumsLost)).mpr fits.flow
    obtain ⟨firstRead, readsFirst, firstNumber⟩ := exists_read (report first List.mem_cons_self)
    obtain ⟨efficiencies, readsOthers, numbers⟩ := exists_efficiencies fun node member =>
      report node (List.mem_cons_of_mem first member)
    obtain ⟨best, isBest⟩ := exists_extreme (fun node current => lt listLess current node)
      (fun _ _ left right => exists_lt right left) (first.1, firstRead) firstNumber numbers
    obtain ⟨worst, isWorst⟩ := exists_extreme (fun node current => lt listLess node current)
      (fun _ _ left right => exists_lt left right) (first.1, firstRead) firstNumber numbers
    obtain ⟨nodes, finished⟩ := exists_forNodes.mpr fun node member =>
      nodeValue_exists_iff.mpr (report node member)
    exact ⟨totalDelivered, sumsDelivered, totalLost, sumsLost, flow, adds, percent, divides,
      firstRead, readsFirst, efficiencies, readsOthers, best, isBest, worst, isWorst, nodes,
      finished, _, rfl⟩

/-- What a summary that exists says about the nodes. -/
theorem ofReports_nodes {summary : FleetSummary}
    (summarised : ofReports listLess nonPvm first others = .ok summary) :
    summary.nonPvmNodes = nonPvm ∧ forNodes nodeValue (first :: others) = .ok summary.nodes := by
  simp only [ofReports, Raising.bind_eq_ok] at summarised
  obtain ⟨_, _, _, _, _, _, _, _, _, _, _, _, _, _, _, _, nodes, finished, same⟩ := summarised
  cases same
  exact ⟨rfl, finished⟩

/-- What a summary says about a node follows from the node's own stats: the rounded figures
of its report, or its place among the nodes without one. -/
def ReportsOwn (summary : FleetSummary) (nodeId : String) (stats : Entries) : Prop :=
  (∀ node, (nodeId, node) ∈ summary.nodes ↔
      (get stats "value").truthy = true ∧ nodeValue (get stats "value") = .ok node) ∧
    (nodeId ∈ summary.nonPvmNodes ↔ (get stats "value").truthy = false)

/-- The call returns a summary, and the summary reports every live node by its own stats. -/
def Serves (listLess : List PyValue → List PyValue → Except PyFault Bool)
    (coordinator : AgentCoordinator Entries) (now : ℚ) : Prop :=
  ∃ summary, (coordinator.fleetValueSummary listLess now).1 = .ok summary ∧
    ∀ nodeId entry, (nodeId, entry) ∈ (coordinator.evictStale now).registry.entries →
      ReportsOwn summary nodeId entry.stats

/-- What stands under `value` in the stats of the live nodes, where it is truthy. -/
def liveValues (coordinator : AgentCoordinator Entries) (now : ℚ) : List PyValue :=
  ((reports (coordinator.evictStale now)).map Prod.snd).filter truthy

/-- The live nodes in PVM mode with what stands under `value` in their stats. -/
def pvmReports (coordinator : AgentCoordinator Entries) (now : ℚ) : List (String × PyValue) :=
  (reports (coordinator.evictStale now)).filter fun node => node.2.truthy

section Nodes

variable {coordinator : AgentCoordinator Entries} {now : ℚ}

theorem liveValues_eq :
    liveValues coordinator now = (pvmReports coordinator now).map Prod.snd := by
  rw [liveValues, List.filter_map]
  rfl

/-- A live node has one report. -/
theorem mem_reports_iff {nodeId : String} {entry : RegistryEntry Entries} {value : PyValue}
    (live : (nodeId, entry) ∈ coordinator.registry.entries) :
    (nodeId, value) ∈ reports coordinator ↔ value = get entry.stats "value" := by
  have stored := Dict.get?_of_mem coordinator.registry live
  simp only [reports, List.mem_map, Prod.mk.injEq, Prod.exists]
  constructor
  · rintro ⟨other, otherEntry, member, rfl, same⟩
    have otherStored := Dict.get?_of_mem coordinator.registry member
    cases stored.symm.trans otherStored
    exact same.symm
  · rintro rfl
    exact ⟨nodeId, entry, live, rfl, rfl⟩

/-- What a summary of the fleet says about the nodes. -/
theorem summary_nodes {summary : FleetSummary}
    (summarised : (coordinator.fleetValueSummary listLess now).1 = .ok summary) :
    (∀ nodeId, nodeId ∈ summary.nonPvmNodes ↔
        ∃ value, (nodeId, value) ∈ reports (coordinator.evictStale now) ∧ value.truthy = false) ∧
      ∀ nodeId node, (nodeId, node) ∈ summary.nodes ↔
        ∃ value, ((nodeId, value) ∈ reports (coordinator.evictStale now) ∧
          value.truthy = true) ∧ nodeValue value = .ok node := by
  have mute : ∀ nodeId, nodeId ∈ ((reports (coordinator.evictStale now)).filter fun node =>
      !node.2.truthy).map Prod.fst ↔
        ∃ value, (nodeId, value) ∈ reports (coordinator.evictStale now) ∧
          value.truthy = false := by
    intro nodeId
    simp
  have speaks : ∀ nodeId value, (nodeId, value) ∈
      ((reports (coordinator.evictStale now)).filter fun node => node.2.truthy) ↔
        (nodeId, value) ∈ reports (coordinator.evictStale now) ∧ value.truthy = true := by
    intro nodeId value
    exact List.mem_filter
  simp only [AgentCoordinator.fleetValueSummary] at summarised
  simp only [← mute, ← speaks]
  cases nodesValue : (reports (coordinator.evictStale now)).filter fun node => node.2.truthy with
  | nil =>
      rw [nodesValue] at summarised
      cases summarised
      simp [FleetSummary.empty]
  | cons first others =>
      rw [nodesValue] at summarised
      obtain ⟨nonPvm, finished⟩ := ofReports_nodes summarised
      rw [nonPvm]
      exact ⟨fun _ => Iff.rfl, fun _ _ => mem_forNodes finished⟩

/-- The summary of a fleet reports every live node by its own stats. -/
theorem reportsOwn_of_summary {summary : FleetSummary}
    (summarised : (coordinator.fleetValueSummary listLess now).1 = .ok summary)
    {nodeId : String} {entry : RegistryEntry Entries}
    (live : (nodeId, entry) ∈ (coordinator.evictStale now).registry.entries) :
    ReportsOwn summary nodeId entry.stats := by
  obtain ⟨nonPvm, nodes⟩ := summary_nodes summarised
  simp only [ReportsOwn, nonPvm, nodes, mem_reports_iff live, and_assoc, exists_eq_left,
    implies_true, and_self]

/-- A summary exists exactly when the live reports fit. -/
theorem exists_summary_iff :
    (∃ summary, (coordinator.fleetValueSummary listLess now).1 = .ok summary) ↔
      FleetFits (liveValues coordinator now) := by
  simp only [liveValues_eq, pvmReports, AgentCoordinator.fleetValueSummary]
  cases (reports (coordinator.evictStale now)).filter fun node => node.2.truthy with
  | nil =>
      have fits : FleetFits [] := by
        apply FleetFits.mk
        · simp
        · trivial
        · trivial
        · simp [FlowFits, PyNumber.exactSum?]
      simp [fits]
  | cons first others => exact exists_ofReports

end Nodes

/-- After any accepted heartbeats and at any time, the summary returns and reports every
live node by its own stats exactly when the live reports fit. -/
theorem serves_iff (listLess : List PyValue → List PyValue → Except PyFault Bool)
    (agentTtl : ℚ) (requireAuth : Bool) (authSecret : String)
    (heartbeats : List (String × Entries × ℚ)) (now : ℚ) :
    let coordinator := heartbeats.foldl
      (fun coordinator heartbeat => coordinator.ingest heartbeat.1 heartbeat.2.1 heartbeat.2.2)
      (AgentCoordinator.init agentTtl requireAuth authSecret)
    Serves listLess coordinator now ↔ FleetFits (liveValues coordinator now) := by
  intro coordinator
  rw [← @exists_summary_iff listLess]
  constructor
  · rintro ⟨summary, summarised, _⟩
    exact ⟨summary, summarised⟩
  · rintro ⟨summary, summarised⟩
    exact ⟨summary, summarised, fun _ _ live => reportsOwn_of_summary summarised live⟩

/-- A heartbeat whose `value` is a number makes the summary raise, although the other node
reports well. -/
theorem scalar_value_raises :
    let coordinator := ((AgentCoordinator.init 60 false "").ingest "node-01"
        [(.str "value", .dict [(.str "value_delivered_per_sec", .int 3)])] 0).ingest
      "node-02" [(.str "value", .int 5)] 1
    (coordinator.fleetValueSummary (fun _ _ => .ok false) 2).1 = .error .attributeError ∧
      ¬ Serves (fun _ _ => .ok false) coordinator 2 := by
  intro coordinator
  have raises : (coordinator.fleetValueSummary (fun _ _ => .ok false) 2).1 =
      .error .attributeError := by
    decide +kernel
  apply And.intro raises
  rintro ⟨summary, summarised, _⟩
  rw [raises] at summarised
  cases summarised

end SmartBandwidth.FleetSummary

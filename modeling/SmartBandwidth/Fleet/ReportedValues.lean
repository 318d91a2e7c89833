import SmartBandwidth.Fleet.LiveNodes
import SmartBandwidth.Fleet.NodeStats
import SmartBandwidth.Fleet.Rates

/-!
# Summaries of value metrics

What a node reports under `value` are rounded floats.  A summary of such reports never raises: it
repeats them, its totals are their exact sums, and it names nodes of the greatest and the least
efficiency.
-/

namespace SmartBandwidth

open PyObject (decodedFloats)
open FleetSummary

/-- The figures of a node, as a summary repeats them. -/
def ValueStats.nodeValue (stats : ValueStats) : NodeValue where
  valueEfficiencyPct := .float (.finite stats.valueEfficiencyPct)
  valueDeliveredPerSec := .float (.finite stats.valueDeliveredPerSec)
  valueLostPerSec := .float (.finite stats.valueLostPerSec)

/-- Rates with four decimals and an efficiency with two. -/
structure ValueStats.Rounded (stats : ValueStats) : Prop where
  delivered : Rounding.IsDecimal 4 stats.valueDeliveredPerSec
  lost : Rounding.IsDecimal 4 stats.valueLostPerSec
  efficiency : Rounding.IsDecimal 2 stats.valueEfficiencyPct

theorem ValueLossTracker.toDict_rounded (tracker : ValueLossTracker) (clock : Nat → ℚ) :
    (tracker.toDict clock).Rounded where
  delivered := Rounding.round_isDecimal _ 4
  lost := Rounding.round_isDecimal _ 4
  efficiency := Rounding.round_isDecimal _ 2

/-- The percentage that is delivered of some flow, or 100 where none is. -/
def fleetShare (delivered lost : ℚ) : ℚ :=
  if 0 < delivered + lost then 100 * delivered / (delivered + lost) else 100

/-- The metrics that some nodes report. -/
abbrev Reports := List (String × ValueStats)

namespace Reports

/-- The sum of a rate over all nodes. -/
def total (reports : Reports) (rate : ValueStats → ℚ) : ℚ :=
  (reports.map fun node => rate node.2).sum

/-- The reports as they are decoded. -/
def decoded (reports : Reports) : List (String × PyValue) :=
  reports.map fun node => (node.1, decodedFloats node.2.fields)

end Reports

namespace FleetSummary

/-- What a summary says of some reports. -/
structure Shows (summary : FleetSummary) (reports : Reports) : Prop where
  nodes : summary.nodes = reports.map fun node => (node.1, node.2.nodeValue)
  count : summary.pvmNodeCount = reports.length
  delivered : summary.fleetValueDeliveredPerSec =
    .float (.finite (reports.total ValueStats.valueDeliveredPerSec))
  lost : summary.fleetValueLostPerSec =
    .float (.finite (reports.total ValueStats.valueLostPerSec))
  efficiency : summary.fleetValueEfficiencyPct = if reports = [] then none else
    some (.float (.finite (Rounding.round (fleetShare
      (reports.total ValueStats.valueDeliveredPerSec)
      (reports.total ValueStats.valueLostPerSec)) 2)))
  best : reports ≠ [] → ∃ best ∈ reports, summary.bestNode = some best.1 ∧
    ∀ node ∈ reports, node.2.valueEfficiencyPct ≤ best.2.valueEfficiencyPct
  worst : reports ≠ [] → ∃ worst ∈ reports, summary.worstNode = some worst.1 ∧
    ∀ node ∈ reports, worst.2.valueEfficiencyPct ≤ node.2.valueEfficiencyPct

section Figures

variable (stats : ValueStats)

theorem delivered_number :
    delivered.number (decodedFloats stats.fields) =
      .ok (.float (.finite stats.valueDeliveredPerSec)) := rfl

theorem lost_number :
    lost.number (decodedFloats stats.fields) =
      .ok (.float (.finite stats.valueLostPerSec)) := rfl

theorem efficiency_read :
    efficiency.read (decodedFloats stats.fields) =
      .ok (.float (.finite stats.valueEfficiencyPct)) := rfl

/-- The figures of a report are repeated as they are. -/
theorem nodeValue_decoded {stats : ValueStats} (rounded : stats.Rounded) :
    nodeValue (decodedFloats stats.fields) = .ok stats.nodeValue := by
  have reads : efficiency.number (decodedFloats stats.fields) =
      .ok (.float (.finite stats.valueEfficiencyPct)) := rfl
  rw [nodeValue, reads, delivered_number, lost_number]
  simp only [bind, Except.bind, pure, Except.pure, PyNumber.round, PyFloat.round,
    rounded.delivered.round_eq, rounded.lost.round_eq, rounded.efficiency.round_eq]
  rfl

end Figures

/-! ## Totals -/

section Totals

variable {figure : Figure} {rate : ValueStats → ℚ} {reports : Reports}

/-- Floats are added up exactly. -/
theorem sumOf_floats (reads : ∀ stats : ValueStats,
      figure.number (decodedFloats stats.fields) = .ok (.float (.finite (rate stats))))
    (total : ℚ) (reports : Reports) :
    sumOf figure (.float (.finite total)) (reports.decoded.map Prod.snd) =
      .ok (.float (.finite (total + reports.total rate))) := by
  induction reports generalizing total with
  | nil => simp [sumOf, Reports.decoded, Reports.total]
  | cons node rest ih =>
      simp only [Reports.decoded, Reports.total, List.map_cons, List.sum_cons] at ih ⊢
      rw [sumOf, reads]
      simp only [bind, Except.bind, PyNumber.add_float_float, PyFloat.add]
      rw [ih, add_assoc]

theorem sumOf_reports (reads : ∀ stats : ValueStats,
      figure.number (decodedFloats stats.fields) = .ok (.float (.finite (rate stats))))
    (some : reports ≠ []) :
    sumOf figure (.int 0) (reports.decoded.map Prod.snd) =
      .ok (.float (.finite (reports.total rate))) := by
  cases reports with
  | nil => exact absurd rfl some
  | cons node rest =>
      have zero : PyFloat.Holds 0 := by decide +kernel
      have later := sumOf_floats reads (rate node.2) rest
      simp only [Reports.decoded, Reports.total, List.map_cons, List.sum_cons] at later ⊢
      rw [sumOf, reads]
      simp only [bind, Except.bind, PyNumber.add_int_float, PyFloat.ofInt, if_pos zero, Except.map,
        PyFloat.add, Int.cast_zero, zero_add]
      exact later

/-- The efficiency of totals that are floats. -/
theorem fleetEfficiency_floats (delivered lost : ℚ) :
    fleetEfficiency (.float (.finite delivered)) (.float (.finite (delivered + lost))) =
      .ok (.float (.finite (fleetShare delivered lost))) := by
  have compares : (PyNumber.int 0).lt (.float (.finite (delivered + lost))) =
      decide (0 < delivered + lost) := by
    simp [PyNumber.lt, PyNumber.exact, PyFloat.lt]
  rw [fleetEfficiency, compares, fleetShare]
  by_cases positive : 0 < delivered + lost
  · rw [if_pos (decide_eq_true positive), if_pos positive]
    simp only [PyNumber.toFloat_float, bind, Except.bind, PyFloat.scale,
      PyFloat.div_finite positive.ne']
    rfl
  · rw [if_neg positive, if_neg (by simpa using positive)]

end Totals

/-! ## The summary -/

/-- What the scan for an extreme node looks at. -/
def scanned (node : String × ValueStats) : String × PyValue :=
  (node.1, .float (.finite node.2.valueEfficiencyPct))

/-- The efficiency that it sees. -/
def seenEfficiency : PyValue → ℚ
  | .float (.finite value) => value
  | _ => 0

/-- The scan ends with a node of the greatest key. -/
theorem extreme_scanned {K : Type} [LinearOrder K]
    {beats : PyValue → PyValue → Except PyFault Bool} (key : ℚ → K)
    (decides : ∀ left right : ℚ, beats (.float (.finite left)) (.float (.finite right)) =
      .ok (decide (key right < key left)))
    (first : String × ValueStats) (others : Reports) :
    ∃ best ∈ first :: others, extreme beats (scanned first) (others.map scanned) = .ok best.1 ∧
      ∀ node ∈ first :: others,
        key node.2.valueEfficiencyPct ≤ key best.2.valueEfficiencyPct := by
  have keeps := @KeepBest.keep_firstGreatest _ K _
    (fun item : String × PyValue => key (seenEfficiency item.2))
    (fun item current => decide (key (seenEfficiency current.2) < key (seenEfficiency item.2)))
    (by simp) (scanned first) (others.map scanned)
  have scans : extreme beats (scanned first) (others.map scanned) = .ok (KeepBest.keep
      (fun item current => decide (key (seenEfficiency current.2) < key (seenEfficiency item.2)))
      (scanned first) (others.map scanned)).1 := by
    apply extreme_eq_keep
    rw [← List.map_cons, List.forall_mem_map]
    intro left _
    rw [List.forall_mem_map]
    intro right _
    exact decides _ _
  rw [← List.map_cons] at keeps
  obtain ⟨best, member, isBest⟩ := List.mem_map.mp keeps.member
  refine ⟨best, member, ?_, ?_⟩
  · rw [scans, ← isBest]
    rfl
  · intro node isNode
    have greatest := keeps.greatest (List.mem_map_of_mem isNode)
    rw [← isBest] at greatest
    exact greatest

theorem forNodes_map {α β : Type} {operation : PyValue → Except PyFault β} {value : α → PyValue}
    {result : α → β} {items : List (String × α)}
    (answers : ∀ item ∈ items, operation (value item.2) = .ok (result item.2)) :
    forNodes operation (items.map fun item => (item.1, value item.2)) =
      .ok (items.map fun item => (item.1, result item.2)) := by
  induction items with
  | nil => rfl
  | cons item rest ih =>
      rw [List.forall_mem_cons] at answers
      exact forNodes_cons answers.1 (ih answers.2)

theorem read_decoded (reports : Reports) :
    forNodes efficiency.read reports.decoded = .ok (reports.map scanned) :=
  @forNodes_map _ _ efficiency.read (fun stats : ValueStats => decodedFloats stats.fields)
    (fun stats => .float (.finite stats.valueEfficiencyPct)) reports
    fun node _ => efficiency_read node.2

theorem nodeValue_reports {reports : Reports} (rounded : ∀ node ∈ reports, node.2.Rounded) :
    forNodes nodeValue reports.decoded =
      .ok (reports.map fun node => (node.1, node.2.nodeValue)) :=
  @forNodes_map _ _ nodeValue (fun stats : ValueStats => decodedFloats stats.fields)
    ValueStats.nodeValue reports fun node member => nodeValue_decoded (rounded node member)

/-- A total of decimals is not changed by rounding. -/
theorem round_total {reports : Reports} {rate : ValueStats → ℚ} {digits : Nat}
    (each : ∀ node ∈ reports, Rounding.IsDecimal digits (rate node.2)) :
    (PyNumber.float (.finite (reports.total rate))).round digits =
      .float (.finite (reports.total rate)) := by
  have decimal : Rounding.IsDecimal digits (reports.total rate) := by
    apply Rounding.isDecimal_sum
    rw [List.forall_mem_map]
    exact each
  rw [PyNumber.round, PyFloat.round, decimal.round_eq]

/-- Reports of value metrics have a summary, which shows them. -/
theorem ofReports_shows (listLess : List PyValue → List PyValue → Except PyFault Bool)
    (nonPvm : List String) {first : String × ValueStats} {others : Reports}
    (rounded : ∀ node ∈ first :: others, node.2.Rounded) :
    ∃ summary, ofReports listLess nonPvm (first.1, decodedFloats first.2.fields)
        (Reports.decoded others) = .ok summary ∧
      summary.Shows (first :: others) := by
  have present : first :: others ≠ [] := List.cons_ne_nil _ _
  have decodes : (first.1, decodedFloats first.2.fields) :: Reports.decoded others =
      Reports.decoded (first :: others) := rfl
  obtain ⟨best, isBest, findsBest, greatest⟩ := @extreme_scanned ℚ _
    (fun node current => PyValue.lt listLess current node) id (fun _ _ => rfl) first others
  obtain ⟨worst, isWorst, findsWorst, least⟩ := @extreme_scanned ℚᵒᵈ _
    (fun node current => PyValue.lt listLess node current) OrderDual.toDual (fun _ _ => rfl)
    first others
  rw [scanned] at findsBest findsWorst
  have summarises : ofReports listLess nonPvm (first.1, decodedFloats first.2.fields)
      (Reports.decoded others) = .ok {
        fleetValueEfficiencyPct := some ((PyNumber.float (.finite (fleetShare
          (Reports.total (first :: others) ValueStats.valueDeliveredPerSec)
          (Reports.total (first :: others) ValueStats.valueLostPerSec)))).round 2)
        fleetValueDeliveredPerSec := (PyNumber.float (.finite
          (Reports.total (first :: others) ValueStats.valueDeliveredPerSec))).round 4
        fleetValueLostPerSec := (PyNumber.float (.finite
          (Reports.total (first :: others) ValueStats.valueLostPerSec))).round 4
        bestNode := some best.1
        worstNode := some worst.1
        pvmNodeCount := (Reports.decoded (first :: others)).length
        nonPvmNodes := nonPvm
        nodes := (first :: others).map fun node => (node.1, node.2.nodeValue) } := by
    rw [ofReports, decodes, sumOf_reports delivered_number present,
      sumOf_reports lost_number present]
    simp only [bind, Except.bind, pure, Except.pure, PyNumber.add_float_float, PyFloat.add,
      fleetEfficiency_floats, efficiency_read, read_decoded, findsBest, findsWorst,
      nodeValue_reports rounded]
  refine ⟨_, summarises, ?_⟩
  exact {
    nodes := rfl
    count := List.length_map _
    delivered := round_total fun node member => (rounded node member).delivered
    lost := round_total fun node member => (rounded node member).lost
    efficiency := by
      rw [if_neg present]
      rfl
    best := fun _ => ⟨best, isBest, rfl, greatest⟩
    worst := fun _ => ⟨worst, isWorst, rfl, least⟩ }

/-- The summary of a fleet whose live reports are value metrics. -/
theorem summary_shows (listLess : List PyValue → List PyValue → Except PyFault Bool)
    {coordinator : AgentCoordinator PyValue.Entries} {now : ℚ} {reports : Reports}
    (reported : pvmReports coordinator now = reports.decoded)
    (rounded : ∀ node ∈ reports, node.2.Rounded) :
    ∃ summary, (coordinator.fleetValueSummary listLess now).1 = .ok summary ∧
      summary.Shows reports := by
  rw [pvmReports] at reported
  simp only [AgentCoordinator.fleetValueSummary, reported]
  cases reports with
  | nil =>
      refine ⟨_, rfl, ?_⟩
      exact {
        nodes := rfl
        count := rfl
        delivered := rfl
        lost := rfl
        efficiency := rfl
        best := fun some => absurd rfl some
        worst := fun some => absurd rfl some }
  | cons first others =>
      obtain ⟨summary, summarises, shows⟩ := ofReports_shows listLess
        (((FleetSummary.reports (coordinator.evictStale now)).filter fun node =>
          !node.2.truthy).map Prod.fst) rounded
      exact ⟨summary, summarises, shows⟩

end FleetSummary

end SmartBandwidth

import SmartBandwidth.Fleet.NodeStats
import SmartBandwidth.Pipeline.ValueLog
import Mathlib.Data.Finset.Max

/-!
# What a node has to report

A node runs an optimizer.  What its statistics say under `value` after some calls is what the log
of its replies says.
-/

namespace SmartBandwidth

open TrackerCalls

/-- A node: an optimizer as its constructor makes it, its rules and packets, and the tags of its
agent. -/
structure Site where
  rt : Runtime
  config : OptimizerConfig
  values : Option FlowValuePolicy
  bucketClock : TrafficPriority → ℚ
  fresh : BandwidthOptimizer
  constructed : BandwidthOptimizer.init config values bucketClock = .ok fresh
  classifier : TrafficClassifier
  store : Store
  tags : List (PyObject × PyObject) := []

/-- A past of a node at which its statistics are read, and the readings this takes. -/
structure Moment where
  calls : List OptimizerCall
  clock : Nat → ℚ

/-- A moment in the life of a node whose calls so far are given: the clock did not go back. -/
structure Moment.Of (moment : Moment) (calls : List OptimizerCall) : Prop where
  earlier : moment.calls <+: calls
  ordered : (recordReadings moment.calls).Pairwise (· ≤ ·)
  later : ∀ reading ∈ recordReadings moment.calls, ∀ index < 4, reading ≤ moment.clock index

theorem Moment.Of.mono {moment : Moment} {calls more : List OptimizerCall}
    (happened : moment.Of calls) (extended : calls <+: more) : moment.Of more where
  earlier := happened.earlier.trans extended
  ordered := happened.ordered
  later := happened.later

namespace Site

variable (site : Site)

/-- The optimizer and its packets before any call. -/
def start : BandwidthOptimizer × Store :=
  ({ site.fresh with classifier := site.classifier }, site.store)

/-- The statistics at a moment. -/
def stats (moment : Moment) : OptimizerStats :=
  (Machine.run (BandwidthOptimizer.call site.rt) site.start moment.calls).2.1.stats moment.clock

/-- What the replies up to a moment log. -/
def log (moment : Moment) : List TrackerAction :=
  loggedBy moment.calls (Machine.run (BandwidthOptimizer.call site.rt) site.start moment.calls).1

/-- The value metrics of that log. -/
def metrics (moment : Moment) : ValueStats :=
  (ValueLossTracker.keeping (site.log moment)).toDict moment.clock

/-- The value that it shows to have been delivered a second. -/
def deliveredRate (moment : Moment) : ℚ :=
  (ValueLossTracker.keeping (site.log moment)).valueDeliveredPerSec (moment.clock 0)

/-- What it shows to have been lost a second. -/
def lostRate (moment : Moment) : ℚ :=
  (ValueLossTracker.keeping (site.log moment)).valueLostPerSec (moment.clock 1)

/-- The settings of the agent of a node. -/
def agentConfig (nodeId authSecret : String) : AgentConfig where
  nodeId := nodeId
  tags := site.tags
  authSecret := authSecret

variable {site} {moment : Moment} {calls : List OptimizerCall}

theorem start_configured : site.start.1.Configured site.config site.values := by
  have fresh := BandwidthOptimizer.init_configured site.constructed
  exact fresh.of_kept rfl rfl ⟨rfl, rfl⟩

/-- A node without a value policy reports no value. -/
theorem stats_value_none (plain : site.values = none) : (site.stats moment).value = none := by
  have configured := BandwidthOptimizer.run_configured site.start_configured site.rt moment.calls
  rw [plain] at configured
  obtain ⟨scheduler, engineEq⟩ := configured.plain
  rw [stats, BandwidthOptimizer.stats, engineEq]
  rfl

/-- Some time is not after any reading of a moment. -/
theorem exists_before (readings : List ℚ) (last : ℚ) :
    ∃ first, first ≤ last ∧ ∀ reading ∈ readings, first ≤ reading := by
  obtain ⟨first, _, isFirst⟩ := Finset.exists_min_image (insert last readings.toFinset) id
    (Finset.insert_nonempty _ _)
  refine ⟨first, isFirst last (Finset.mem_insert_self _ _), ?_⟩
  intro reading member
  exact isFirst reading (Finset.mem_insert_of_mem (List.mem_toFinset.mpr member))

/-- One with a policy reports what its replies have shown. -/
theorem stats_value (happened : moment.Of calls) {policy : FlowValuePolicy}
    (pvm : site.values = some policy) :
    (site.stats moment).value = some (site.metrics moment) := by
  obtain ⟨least, isIndex, isLeast⟩ := Finset.exists_min_image (Finset.range 4) moment.clock
    ⟨0, by decide⟩
  obtain ⟨first, before, isFirst⟩ :=
    exists_before (recordReadings moment.calls) (moment.clock least)
  have engineEq : site.start.1.engine =
      .pvm policy (Scheduler.init site.config.maxQueueSize) .init := by
    have built := BandwidthOptimizer.init_engine site.constructed
    rw [pvm] at built
    exact built
  obtain ⟨scheduler, tracker, reached, answers⟩ := BandwidthOptimizer.run_answers site.rt engineEq
    (ValueLossTracker.init_answers first)
    (List.pairwise_cons.mpr ⟨isFirst, happened.ordered⟩)
    (List.forall_mem_cons.mpr ⟨before, fun reading member =>
      happened.later reading member least (Finset.mem_range.mp isIndex)⟩)
  have shows : tracker.toDict moment.clock = site.metrics moment :=
    answers.toDict fun index small => isLeast index (Finset.mem_range.mpr small)
  rw [stats, BandwidthOptimizer.stats, reached, ← shows]
  rfl

end Site

end SmartBandwidth

import SmartBandwidth.Fleet.HeartbeatLoop
import SmartBandwidth.Fleet.Serialise
import SmartBandwidth.Lib.JsonCodec
import SmartBandwidth.Pipeline.Optimizer

/-!
# What a heartbeat carries

An agent adds its identity to the statistics of its optimizer and posts the encoded map.  Under
`node_id` and `value` the decoded body has what the agent and its optimizer had there; its tags
may be anything.
-/

namespace SmartBandwidth

open PyObject

/-! ## Statistics as objects -/

/-- A class, as a key. -/
def TrafficPriority.toObject (priority : TrafficPriority) : PyObject :=
  .enum "TrafficPriority" priority.name (.int priority.value)

/-- A count of each class. -/
def countsObject (key : TrafficPriority → PyObject) (counts : TrafficPriority → Nat) : PyObject :=
  .dict (TrafficPriority.all.map fun priority => (key priority, .int (counts priority)))

/-- The dictionary of `PriorityScheduler.stats` and `ValueScheduler.stats`. -/
def SchedulerStats.toObject (stats : SchedulerStats) : PyObject :=
  .dict [
    (.str "current_queue_size", .int stats.currentQueueSize),
    (.str "max_queue_size", .int stats.maxQueueSize),
    (.str "fill_ratio", .float (.finite stats.fillRatio)),
    (.str "enqueue_counts", countsObject TrafficPriority.toObject stats.enqueueCounts),
    (.str "dequeue_counts", countsObject TrafficPriority.toObject stats.dequeueCounts),
    (.str "dropped_overflow", .int stats.droppedOverflow)]

/-- The fields of `ValueLossTracker.to_dict`. -/
def ValueStats.fields (stats : ValueStats) : List (String × ℚ) := [
  ("value_delivered_total", stats.valueDeliveredTotal),
  ("value_lost_total", stats.valueLostTotal),
  ("value_delivered_per_sec", stats.valueDeliveredPerSec),
  ("value_lost_per_sec", stats.valueLostPerSec),
  ("value_efficiency_pct", stats.valueEfficiencyPct),
  ("window_seconds", stats.windowSeconds)]

/-- The entries of `BandwidthOptimizer.stats`; the last one is there in PVM mode. -/
def OptimizerStats.entries (stats : OptimizerStats) : List (PyObject × PyObject) :=
  [ (.str "mode", .str stats.mode),
    (.str "total_bandwidth_bps", .int stats.totalBandwidthBps),
    (.str "packets_received", .int stats.packetsReceived),
    (.str "packets_dropped", .int stats.packetsDropped),
    (.str "drop_rate", .float (.finite stats.dropRate)),
    (.str "bytes_saved_compression", .int stats.bytesSavedCompression),
    (.str "queue", stats.queue.toObject),
    (.str "drops_by_priority",
      countsObject (fun priority => .str priority.name) stats.dropsByPriority),
    (.str "flows", .dict [(.str "active", .int stats.activeFlows)])] ++
    (stats.value.map fun value => (.str "value", floatMap value.fields)).toList

/-- The settings of an agent that its heartbeats depend on. -/
structure AgentConfig where
  nodeId : String
  tags : List (PyObject × PyObject) := []
  authSecret : String := ""

/-- The part of an agent's statistics under `heartbeat`. -/
def NodeAgent.heartbeat (agent : NodeAgent) : PyObject :=
  .dict [
    (.str "count", .int agent.heartbeatCount),
    (.str "errors", .int agent.heartbeatErrors),
    (.str "last_sent", (agent.lastHeartbeatTime.map fun time =>
      PyObject.float (.finite time)).getD .none)]

/-- What an agent adds to the statistics of its optimizer. -/
def NodeAgent.identity (agent : NodeAgent) (config : AgentConfig) :
    List (PyObject × PyObject) := [
  (.str "node_id", .str config.nodeId),
  (.str "tags", .dict config.tags),
  (.str "coordinator_url",
    if agent.coordinatorUrl ≠ "" then .str agent.coordinatorUrl else .none),
  (.str "heartbeat", agent.heartbeat)]

/-- `NodeAgent.stats`, from the statistics of the optimizer. -/
def NodeAgent.stats (agent : NodeAgent) (config : AgentConfig) (base : OptimizerStats) :
    PyObject :=
  .dict (KeyedList.assignAll sameKey base.entries (agent.identity config))

/-- The body that `_send_heartbeat` posts. -/
def NodeAgent.payload (py : PyText) (dumps : PyObject → Except PyFault (List UInt8))
    (agent : NodeAgent) (config : AgentConfig) (base : OptimizerStats) :
    Except PyFault (List UInt8) := do
  let serialisable ← makeSerialisable py (agent.stats config base)
  dumps serialisable

/-! ## Serialised maps of strings -/

section Serialised

variable {py : PyText} {entries : List (PyObject × PyObject)} {made : PyObject} {value : PyValue}

/-- A map of distinct strings keeps its keys. -/
theorem makeSerialisable_textKeyed (keyed : TextKeyed entries)
    (makes : makeSerialisable py (.dict entries) = .ok made) :
    ∃ pairs, made = .dict pairs ∧ TextKeyed pairs ∧
      List.Forall₂ (fun entry pair => entry.1 = pair.1 ∧
        makeSerialisable py entry.2 = .ok pair.2) entries pairs := by
  obtain ⟨pairs, rfl, paired⟩ := makeSerialisable_dict_eq_ok.mp makes
  have sameKeys : List.Forall₂ (fun entry pair => entry.1 = pair.1 ∧
      makeSerialisable py entry.2 = .ok pair.2) entries pairs := by
    have each : List.Forall₂ (fun entry pair => entry ∈ entries ∧
        serialisableKey py entry.1 = .ok pair.1 ∧ makeSerialisable py entry.2 = .ok pair.2)
        entries pairs :=
      (List.forall₂_and_left _ _).mpr ⟨fun _ member => member, paired⟩
    apply each.imp
    intro entry pair related
    obtain ⟨text, isKey⟩ := keyed.1 entry related.1
    obtain ⟨renamed, makesValue⟩ := related.2
    rw [isKey] at renamed
    exact ⟨isKey.trans (Except.ok.inj renamed), makesValue⟩
  have pairsKeyed : TextKeyed pairs := by
    constructor
    · intro pair member
      obtain ⟨entry, entryMember, same, _⟩ := Pairing.exists_item sameKeys member
      rw [← same]
      exact keyed.1 entry entryMember
    · apply (Pairing.pairwise_iff _ sameKeys).mpr keyed.2
      intro entry pair entry' pair' related related'
      rw [related.1, related'.1]
  refine ⟨pairs, ?_, pairsKeyed, sameKeys⟩
  rw [KeyedList.ofPairs_of_distinct pairsKeyed.2]

/-- What is found in a serialised map after encoding and decoding. -/
theorem find?_serialised (keyed : TextKeyed entries)
    (makes : makeSerialisable py (.dict entries) = .ok made) (decodes : Decodes made value) :
    ∃ results, value = .dict results ∧ ∀ key, Option.Rel
      (fun object result => ∃ made, makeSerialisable py object = .ok made ∧ Decodes made result)
      (PyObject.find? entries key) (PyValue.find? results key) := by
  obtain ⟨pairs, rfl, pairsKeyed, paired⟩ := makeSerialisable_textKeyed keyed makes
  obtain ⟨results, rfl, pairedResults⟩ := decodes.ofTextKeyed pairsKeyed
  refine ⟨results, rfl, fun key => PyObject.find?_rel key ?_⟩
  apply (Pairing.comp paired pairedResults).imp
  intro entry result related
  obtain ⟨pair, ⟨same, makesValue⟩, sameText, decodesValue⟩ := related
  rw [same]
  exact ⟨sameText, pair.2, makesValue, decodesValue⟩

end Serialised

/-! ## The body of a heartbeat -/

/-- What stands under `value` in a decoded heartbeat. -/
def OptimizerStats.decodedValue (stats : OptimizerStats) : PyValue :=
  (stats.value.map fun value => decodedFloats value.fields).getD .null

theorem ValueStats.fields_nodup (stats : ValueStats) :
    (stats.fields.map Prod.fst).Nodup := by
  change ["value_delivered_total", "value_lost_total", "value_delivered_per_sec",
    "value_lost_per_sec", "value_efficiency_pct", "window_seconds"].Nodup
  decide

namespace NodeAgent

variable {agent : NodeAgent} {config : AgentConfig} {base : OptimizerStats}

/-- The keys of an agent's statistics. -/
def statsKeys (pvm : Bool) : List String :=
  ["mode", "total_bandwidth_bps", "packets_received", "packets_dropped", "drop_rate",
    "bytes_saved_compression", "queue", "drops_by_priority", "flows"] ++
    (if pvm then ["value"] else []) ++ ["node_id", "tags", "coordinator_url", "heartbeat"]

theorem statsKeys_nodup (pvm : Bool) : (statsKeys pvm).Nodup := by
  cases pvm <;> decide

/-- The identity does not touch what the optimizer reports. -/
theorem stats_textKeyed : TextKeyed (base.entries ++ agent.identity config) := by
  apply textKeyed_of_nodup (statsKeys_nodup base.value.isSome)
  obtain ⟨_, _, _, _, _, _, _, _, _, value⟩ := base
  cases value with
  | none => rfl
  | some value => rfl

theorem stats_eq : agent.stats config base = .dict (base.entries ++ agent.identity config) := by
  rw [stats, KeyedList.assignAll_of_distinct stats_textKeyed.2]

theorem find?_nodeId :
    PyObject.find? (base.entries ++ agent.identity config) "node_id" =
      some (.str config.nodeId) := by
  obtain ⟨_, _, _, _, _, _, _, _, _, value⟩ := base
  cases value with
  | none => rfl
  | some value => rfl

theorem find?_value :
    PyObject.find? (base.entries ++ agent.identity config) "value" =
      base.value.map fun value => floatMap value.fields := by
  obtain ⟨_, _, _, _, _, _, _, _, _, value⟩ := base
  cases value with
  | none => rfl
  | some value => rfl

/-- A decoded heartbeat names its node and has the value metrics of its optimizer. -/
theorem payload_decodes {py : PyText} {dumps : PyObject → Except PyFault (List UInt8)}
    {loads : List UInt8 → Option PyValue} (codec : RoundTrips dumps loads) {payload : List UInt8}
    (composed : agent.payload py dumps config base = .ok payload) :
    ∃ entries, loadsMap loads payload = some entries ∧
      PyValue.get entries "node_id" = .str config.nodeId ∧
      PyValue.get entries "value" = base.decodedValue := by
  obtain ⟨made, makes, writes⟩ := Raising.bind_eq_ok.mp composed
  obtain ⟨value, decodes, reads⟩ := codec made payload writes
  rw [stats_eq] at makes
  obtain ⟨entries, rfl, found⟩ := find?_serialised stats_textKeyed makes decodes
  refine ⟨entries, by rw [loadsMap, reads]; rfl, ?_, ?_⟩
  · have underId := found "node_id"
    rw [find?_nodeId] at underId
    obtain ⟨made, makesId, decodesId⟩ := get_of_found underId
    cases makesId
    generalize PyValue.get entries "node_id" = named at decodesId ⊢
    cases decodesId
    rfl
  · have underValue := found "value"
    rw [find?_value] at underValue
    rw [OptimizerStats.decodedValue]
    cases reported : base.value with
    | none =>
        rw [reported] at underValue
        exact get_of_absent underValue
    | some value =>
        rw [reported] at underValue
        obtain ⟨made, makesValue, decodesValue⟩ := get_of_found underValue
        rw [makeSerialisable_of_isJson (floatMap_isJson value.fields_nodup)] at makesValue
        cases makesValue
        exact decodesValue.floats value.fields_nodup

end NodeAgent

end SmartBandwidth

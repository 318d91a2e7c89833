import SmartBandwidth.Pipeline.Processing

/-!
# Reported admission with a value policy

The value scheduler refuses a packet that is worth less than everything in a full queue,
and `process` does not look at its answer.  RED keeps non-critical packets away from a
full queue, so what is reported queued is queued, except for a critical packet of least
value.
-/

namespace SmartBandwidth

/-- The effective values with which the packets were queued. -/
def Engine.queuedValues : Engine → List ℚ
  | .plain _ => []
  | .pvm _ scheduler _ => scheduler.heap.map fun entry => -entry.key

/-- What a result without a drop promises: the packet is queued after the call. -/
def ReportsHonestly (rt : Runtime) (state : BandwidthOptimizer × Store)
    (readings : ProcessReadings) (ref : PacketRef) : Prop :=
  ∀ result, (state.1.process rt state.2 readings ref).1 = .ok result →
    result.dropped = false →
    ref ∈ (state.1.process rt state.2 readings ref).2.1.engine.queued

/-- A packet that is not queued yet, is critical after classification and the flow hint
and does not make compression raise, meets a full queue in which every packet has a
greater effective value. -/
def Outvalued (rt : Runtime) (state : BandwidthOptimizer × Store)
    (readings : ProcessReadings) (ref : PacketRef) : Prop :=
  ref ∉ state.1.engine.queued ∧ state.1.config.maxQueueSize ≤ state.1.queueSize ∧
    ∃ prepared compression,
      state.1.preparation rt state.2 readings ref = .ok prepared ∧
      prepared.packet.effectivePriority = .critical ∧
      PayloadCompressor.compress rt state.1.config prepared.packet.payload =
        .ok compression ∧
      ∀ value ∈ state.1.engine.queuedValues,
        ValueScheduler.effectiveValue prepared.packet < value

section Configured

variable {config : OptimizerConfig} {values : FlowValuePolicy}
variable {state : BandwidthOptimizer × Store}

/-- The scheduler of a configured optimizer is full when the configured size is reached. -/
private theorem full_iff (configured : state.1.Configured config (some values))
    (capacity : 1 ≤ config.maxQueueSize) {scheduler : ValueScheduler}
    {tracker : ValueLossTracker} (engineEq : state.1.engine = .pvm values scheduler tracker) :
    state.1.config.maxQueueSize ≤ state.1.queueSize ↔
      scheduler.maxSize ≤ scheduler.heap.length := by
  have limit := configured.limitEq
  rw [engineEq, max_eq_right capacity] at limit
  change scheduler.maxSize = _ at limit
  rw [configured.configEq, BandwidthOptimizer.queueSize, engineEq, limit]
  exact Int.toNat_le.symm

/-- The queue after an admitted packet has met the scheduler. -/
private theorem admitted_queued {readings : ProcessReadings} {ref : PacketRef}
    {prepared : Prepared} {compression : CompressionResult} {scheduler : ValueScheduler}
    {tracker : ValueLossTracker} (engineEq : state.1.engine = .pvm values scheduler tracker)
    (value now : ℚ) :
    ((state.1.scheduling state.2 readings ref prepared compression).2.1.recordDelivered value
        now).queued =
      (scheduler.draw.insertEntry
        (BandwidthOptimizer.queuedPacket readings prepared compression).effectivePriority
        (scheduler.arriving ValueScheduler.key
          (BandwidthOptimizer.queuedPacket readings prepared compression) ref)).2.heap.map
        QueueEntry.packet := by
  rw [state.1.scheduling_pvm state.2 readings ref prepared compression engineEq]
  rfl

/-- An entry whose packet is not queued yet is queued afterwards unless it is refused. -/
theorem insertEntry_mem_iff {scheduler : ValueScheduler} (positive : 0 < scheduler.maxSize)
    (priority : TrafficPriority) (entry : QueueEntry ℚ)
    (absent : entry.packet ∉ scheduler.heap.map QueueEntry.packet) :
    entry.packet ∈ (scheduler.insertEntry priority entry).2.heap.map QueueEntry.packet ↔
      ¬ (scheduler.maxSize ≤ scheduler.heap.length ∧
        ∀ queued ∈ scheduler.heap, queued.key < entry.key) := by
  have inserts := scheduler.insertEntry_inserts positive priority entry
  rw [← inserts.accepted_iff]
  constructor
  · intro present
    by_contra refused
    rw [inserts.unchanged (Bool.eq_false_of_not_eq_true refused)] at present
    exact absent present
  · intro accepted
    exact List.mem_map_of_mem (inserts.queued accepted)

/-- A packet that is queued already stays queued, by its old or by its new entry. -/
theorem insertEntry_keeps {scheduler : ValueScheduler} (positive : 0 < scheduler.maxSize)
    (priority : TrafficPriority) {entry : QueueEntry ℚ}
    (present : entry.packet ∈ scheduler.heap.map QueueEntry.packet) :
    entry.packet ∈ (scheduler.insertEntry priority entry).2.heap.map QueueEntry.packet := by
  have inserts := scheduler.insertEntry_inserts positive priority entry
  cases answer : (scheduler.insertEntry priority entry).1 with
  | true => exact List.mem_map_of_mem (inserts.queued answer)
  | false =>
      rw [inserts.unchanged answer]
      exact present

/-- Being outranked by key is being outvalued. -/
private theorem outranked_iff {readings : ProcessReadings} {prepared : Prepared}
    {compression : CompressionResult} {scheduler : ValueScheduler}
    {tracker : ValueLossTracker} (engineEq : state.1.engine = .pvm values scheduler tracker)
    (ref : PacketRef) :
    (∀ queued ∈ scheduler.heap, queued.key <
        (scheduler.arriving ValueScheduler.key
          (BandwidthOptimizer.queuedPacket readings prepared compression) ref).key) ↔
      ∀ value ∈ state.1.engine.queuedValues,
        ValueScheduler.effectiveValue prepared.packet < value := by
  rw [engineEq, Engine.queuedValues, List.forall_mem_map]
  simp only [Scheduler.arriving, ValueScheduler.key,
    BandwidthOptimizer.effectiveValue_queuedPacket, lt_neg]

/-- An admitted packet is queued after the call unless it was outvalued. -/
private theorem admitted_reportsHonestly_iff
    (configured : state.1.Configured config (some values))
    (capacity : 1 ≤ config.maxQueueSize)
    (ordered : config.redMinThreshold ≤ config.redMaxThreshold)
    (bounded : config.redMaxThreshold ≤ 1) {rt : Runtime} {readings : ProcessReadings}
    {ref : PacketRef} {scheduler : ValueScheduler} {tracker : ValueLossTracker}
    (engineEq : state.1.engine = .pvm values scheduler tracker) {prepared : Prepared}
    {compression : CompressionResult}
    (prepares : state.1.preparation rt state.2 readings ref = .ok prepared)
    (passes : (state.1.filtering readings prepared).1.drop = false)
    (compresses : PayloadCompressor.compress rt state.1.config prepared.packet.payload =
      .ok compression) (value now : ℚ) :
    ref ∈ ((state.1.scheduling state.2 readings ref prepared compression).2.1.recordDelivered
        value now).queued ↔ ¬ Outvalued rt state readings ref := by
  have positive := configured.positive
  rw [engineEq] at positive
  have full := full_iff configured capacity engineEq
  have queuedEq : state.1.engine.queued = scheduler.heap.map QueueEntry.packet := by
    rw [engineEq, Engine.queued]
  rw [admitted_queued engineEq]
  by_cases present : ref ∈ state.1.engine.queued
  · constructor
    · intro _ outvalued
      exact outvalued.1 present
    · intro _
      rw [queuedEq] at present
      exact insertEntry_keeps (show 0 < scheduler.draw.maxSize from positive) _ present
  · have absent := present
    rw [queuedEq] at absent
    apply Iff.trans (insertEntry_mem_iff (show 0 < scheduler.draw.maxSize from positive) _ _
      absent)
    apply not_congr
    constructor
    · rintro ⟨fullHeap, outranked⟩
      have critical : prepared.packet.effectivePriority = .critical := by
        by_contra ordinary
        have room := BandwidthOptimizer.filtering_finds_room configured capacity ordered
          bounded passes ordinary
        rw [engineEq] at room
        exact absurd room (not_lt.mpr fullHeap)
      exact ⟨present, full.mpr fullHeap, prepared, compression, prepares, critical,
        compresses, (outranked_iff engineEq ref).mp outranked⟩
    · rintro ⟨_, fullSize, other, _, prepares', _, _, outvalued⟩
      cases Except.ok.inj (prepares.symm.trans prepares')
      exact ⟨full.mp fullSize, (outranked_iff engineEq ref).mpr outvalued⟩

/-- In a configured state a call reports honestly exactly when its packet is not a
critical one that a full queue outvalues. -/
theorem reportsHonestly_iff (configured : state.1.Configured config (some values))
    (capacity : 1 ≤ config.maxQueueSize)
    (ordered : config.redMinThreshold ≤ config.redMaxThreshold)
    (bounded : config.redMaxThreshold ≤ 1) (rt : Runtime) (readings : ProcessReadings)
    (ref : PacketRef) :
    ReportsHonestly rt state readings ref ↔ ¬ Outvalued rt state readings ref := by
  obtain ⟨scheduler, tracker, engineEq⟩ := configured.pvm
  have processes := state.1.process_processes rt state.2 readings ref
  rw [ReportsHonestly]
  generalize state.1.process rt state.2 readings ref = outcome at processes ⊢
  cases processes with
  | classifyRaised raises =>
      refine ⟨fun _ outvalued => ?_, fun _ result returns => by cases returns⟩
      obtain ⟨_, _, prepared, _, prepares, _⟩ := outvalued
      rw [raises] at prepares
      cases prepares
  | @filtered prepared prepares drops =>
      refine ⟨fun _ outvalued => ?_, fun _ result returns kept => ?_⟩
      · obtain ⟨_, _, other, _, prepares', critical, _⟩ := outvalued
        cases Except.ok.inj (prepares.symm.trans prepares')
        rw [BandwidthOptimizer.filtering, PacketFilter.shouldDrop_critical critical] at drops
        cases drops
      · cases returns
        cases kept
  | @compressRaised prepared raised prepares _ raises =>
      refine ⟨fun _ outvalued => ?_, fun _ result returns => by cases returns⟩
      obtain ⟨_, _, other, compression, prepares', _, compresses, _⟩ := outvalued
      cases Except.ok.inj (prepares.symm.trans prepares')
      rw [raises] at compresses
      cases compresses
  | @admitted prepared compression prepares passes compresses =>
      simp only [Except.ok.injEq, forall_eq', forall_const]
      exact admitted_reportsHonestly_iff configured capacity ordered bounded engineEq prepares
        passes compresses _ _

end Configured

/-- In every state an optimizer with a value policy reaches, and for every packet, a
result without a drop means that the packet is queued, except exactly when a full queue
outvalues a critical packet. -/
theorem process_reportsHonestly_iff (rt : Runtime) (config : OptimizerConfig)
    (capacity : 1 ≤ config.maxQueueSize)
    (ordered : config.redMinThreshold ≤ config.redMaxThreshold)
    (bounded : config.redMaxThreshold ≤ 1) (values : FlowValuePolicy)
    (clock : TrafficPriority → ℚ) (fresh : BandwidthOptimizer)
    (constructed : BandwidthOptimizer.init config (some values) clock = .ok fresh)
    (classifier : TrafficClassifier) (store : Store) (calls : List OptimizerCall)
    (readings : ProcessReadings) (ref : PacketRef) :
    let state := (Machine.run (BandwidthOptimizer.call rt)
      ({ fresh with classifier := classifier }, store) calls).2
    ReportsHonestly rt state readings ref ↔ ¬ Outvalued rt state readings ref := by
  intro state
  have starts : BandwidthOptimizer.Configured config (some values)
      { fresh with classifier := classifier } :=
    (BandwidthOptimizer.init_configured constructed).of_kept rfl rfl ⟨rfl, rfl⟩
  exact reportsHonestly_iff (BandwidthOptimizer.run_configured starts rt calls) capacity
    ordered bounded rt readings ref

/-- The size of the queue after packet 1, the values in it, and what packet 0 is worth then. -/
def valuesMet (fresh : BandwidthOptimizer) : Int × List ℚ × Option ℚ :=
  let rt := Runtime.ofSearch id fun _ _ => false
  let state := (Machine.run (BandwidthOptimizer.call rt) (fresh, criticalPackets)
    [.process 1 (.frozen 0 0)]).2
  (state.1.queueSize, state.1.engine.queuedValues,
    (state.1.preparation rt state.2 (.frozen 0 0) 0).toOption.map fun prepared =>
      ValueScheduler.effectiveValue prepared.packet)

/-- A call meets a full queue that is worth less. -/
theorem process_reportsHonestly_full :
    ∃ fresh, BandwidthOptimizer.init singleSlot (some callsFirst) (fun _ => 0) = .ok fresh ∧
      let rt := Runtime.ofSearch id fun _ _ => false
      let state := (Machine.run (BandwidthOptimizer.call rt) (fresh, criticalPackets)
        [.process 1 (.frozen 0 0)]).2
      state.1.queueSize = singleSlot.maxQueueSize ∧ ReportsHonestly rt state (.frozen 0 0) 0 := by
  obtain ⟨fresh, constructed⟩ := BandwidthOptimizer.singleSlot_constructs
  have evaluated : (BandwidthOptimizer.init singleSlot (some callsFirst)
      fun _ => 0).toOption.map valuesMet = some (1, [5], some 50) := by
    decide +kernel
  rw [constructed] at evaluated
  obtain ⟨size, met⟩ := Prod.mk.inj (Option.some.inj evaluated)
  obtain ⟨queued, worth⟩ := Prod.mk.inj met
  refine ⟨fresh, constructed, size, ?_⟩
  apply (process_reportsHonestly_iff (Runtime.ofSearch id fun _ _ => false) singleSlot
    (by decide) (by decide +kernel) (by decide +kernel) callsFirst (fun _ => 0) fresh
    constructed fresh.classifier criticalPackets [.process 1 (.frozen 0 0)] (.frozen 0 0) 0).mpr
  rintro ⟨_, _, prepared, _, prepares, _, _, outvalued⟩
  have less := outvalued 5 (queued ▸ List.mem_singleton.mpr rfl)
  obtain ⟨other, prepares', fifty⟩ := Option.map_eq_some_iff.mp worth
  rw [prepares] at prepares'
  cases prepares'
  rw [fifty] at less
  exact absurd less (by decide +kernel)

/-- What the two packets are told, and what is queued in the end. -/
def reportsAndQueue (first second : PacketRef) (fresh : BandwidthOptimizer) :
    List (Option Bool) × List PacketRef :=
  let rt := Runtime.ofSearch id fun _ _ => false
  let outcome := Machine.run (BandwidthOptimizer.call rt) (fresh, criticalPackets)
    [.process first (.frozen 0 0), .process second (.frozen 0 0)]
  (outcome.1.map fun
      | .processed (.ok result) => some result.dropped
      | .processed (.error _) | .packet _ | .packets _ | .done => none,
    outcome.2.1.engine.queued)

/-- The second packet is reported not dropped although the scheduler refused it. -/
theorem outvalued_packet_reported_queued :
    ∃ fresh, BandwidthOptimizer.init singleSlot (some callsFirst) (fun _ => 0) = .ok fresh ∧
      reportsAndQueue 0 1 fresh = ([some false, some false], [0]) := by
  obtain ⟨fresh, constructed⟩ := BandwidthOptimizer.singleSlot_constructs
  have evaluated : (BandwidthOptimizer.init singleSlot (some callsFirst)
      fun _ => 0).toOption.map (reportsAndQueue 0 1) =
        some ([some false, some false], [0]) := by
    decide +kernel
  rw [constructed] at evaluated
  exact ⟨fresh, constructed, Option.some.inj evaluated⟩

end SmartBandwidth

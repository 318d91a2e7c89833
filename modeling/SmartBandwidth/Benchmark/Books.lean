import SmartBandwidth.Benchmark.StageSamples

/-!
# The books of a benchmark

What a run reports agrees with the statistics of the optimizer it has measured, with or without
stage timing, and every byte that goes in comes out, is saved by compression or is dropped with its
packet.
-/

namespace SmartBandwidth

theorem Engine.enqueue_store (engine : Engine) (store : Store) (now : ℚ) (ref : PacketRef) :
    (engine.enqueue store now ref).2.2 = store.set ref ((store ref).stamped now) := by
  cases engine <;> rfl

/-- Compression keeps the bytes of a packet together with those it saves. -/
theorem PayloadCompressor.compress_bytes {rt : Runtime} {config : OptimizerConfig}
    {packet : Packet} {result : CompressionResult}
    (compresses : compress rt config packet.payload = .ok result) :
    (if result.wasCompressed then result.spaceSavedBytes else 0) +
      (BandwidthOptimizer.compressedPacket packet result).payload.length =
        packet.payload.length := by
  simp only [compress] at compresses
  split at compresses
  next =>
    cases compresses
    exact Nat.zero_add _
  next =>
    split at compresses
    next => cases compresses
    next =>
      split at compresses
      next =>
        cases compresses
        exact Nat.zero_add _
      next shorter =>
        cases compresses
        exact Nat.sub_add_cancel (not_le.mp shorter).le

namespace BandwidthOptimizer

/-! ## One packet -/

/-- What a pipeline that returns has done with the packet of a call. -/
structure Outcome (before : BandwidthOptimizer × Store) (ref : PacketRef) (result : ProcessResult)
    (after : BandwidthOptimizer × Store) : Prop where
  packet : result.packet = ref
  received : after.1.totalIn = before.1.totalIn + 1
  dropped : after.1.totalDropped = before.1.totalDropped + if result.dropped then 1 else 0
  bytes : after.1.totalBytesSaved + (if result.dropped then 0 else (after.2 ref).payload.length) =
    before.1.totalBytesSaved + if result.dropped then 0 else (before.2 ref).payload.length
  elsewhere : ∀ other, other ≠ ref → after.2 other = before.2 other

section Packet

variable {rt : Runtime} {optimizer : BandwidthOptimizer} {store : Store}
variable {readings : ProcessReadings} {ref : PacketRef} {result : ProcessResult}

/-- An admitted packet that is compressed from `packet` and enqueued. -/
theorem Outcome.of_admitted {next : BandwidthOptimizer} {packet : Packet}
    {compression : CompressionResult} {engine : Engine} {now : ℚ}
    (kept : packet.payload = (store ref).payload)
    (compresses : PayloadCompressor.compress rt optimizer.config packet.payload = .ok compression)
    (answers : result.packet = ref) (admitted : result.dropped = false)
    (received : next.totalIn = optimizer.totalIn + 1)
    (dropped : next.totalDropped = optimizer.totalDropped)
    (saved : next.totalBytesSaved = optimizer.totalBytesSaved +
      if compression.wasCompressed then compression.spaceSavedBytes else 0) :
    Outcome (optimizer, store) ref result
      (next,
        (engine.enqueue (store.set ref (compressedPacket packet compression)) now ref).2.2) where
  packet := answers
  received := received
  dropped := by simpa [admitted] using dropped
  bytes := by
    have conserved := PayloadCompressor.compress_bytes compresses
    simp only [admitted, Engine.enqueue_store, Store.set_self, Packet.stamped, saved]
    rw [← kept, ← conserved, Nat.add_assoc]
    rfl
  elsewhere := by
    intro other different
    rw [Engine.enqueue_store, Store.set_of_ne _ _ different, Store.set_of_ne _ _ different]

/-- A dropped packet. -/
theorem Outcome.of_dropped {next : BandwidthOptimizer} {packet : Packet}
    (answers : result.packet = ref) (drops : result.dropped = true)
    (received : next.totalIn = optimizer.totalIn + 1)
    (dropped : next.totalDropped = optimizer.totalDropped + 1)
    (saved : next.totalBytesSaved = optimizer.totalBytesSaved) :
    Outcome (optimizer, store) ref result (next, store.set ref packet) where
  packet := answers
  received := received
  dropped := by simpa [drops] using dropped
  bytes := by simpa [drops] using saved
  elsewhere := fun _ different => Store.set_of_ne _ _ different

theorem process_outcome {next : BandwidthOptimizer} {after : Store}
    (returns : optimizer.process rt store readings ref = (.ok result, next, after)) :
    Outcome (optimizer, store) ref result (next, after) := by
  have processes := optimizer.process_processes rt store readings ref
  rw [returns] at processes
  cases processes with
  | filtered => exact .of_dropped rfl rfl rfl rfl rfl
  | admitted prepares _ compresses =>
      exact .of_admitted (preparation_prepares prepares).payload compresses rfl rfl rfl rfl rfl

theorem classifyStage_payload {classifier : TrafficClassifier} {packet classified : Packet}
    (classifies : classifyStage rt classifier packet = .ok classified) :
    classified.payload = packet.payload := by
  rw [classifyStage] at classifies
  split at classifies
  next =>
    cases classifies
    rfl
  next =>
    split at classifies
    next => cases classifies
    next =>
      cases classifies
      rfl

theorem hintStage_payload (tracker : FlowTracker) (record : FlowRecord) (packet : Packet) :
    (hintStage tracker record packet).payload = packet.payload := by
  rw [hintStage]
  split <;> rfl

theorem processWithStageTiming_outcome {next : BandwidthOptimizer} {after : Store}
    (returns : optimizer.processWithStageTiming rt store readings ref =
      (.ok result, next, after)) :
    Outcome (optimizer, store) ref result (next, after) := by
  simp only [processWithStageTiming] at returns
  split at returns
  next => cases returns
  next classified classifies =>
    split at returns
    next =>
      cases returns
      exact .of_dropped rfl rfl rfl rfl rfl
    next =>
      split at returns
      next => cases returns
      next compression compresses =>
        cases returns
        rw [Store.set_set]
        exact .of_admitted ((hintStage_payload _ _ _).trans (classifyStage_payload classifies))
          compresses rfl rfl rfl rfl rfl

end Packet

end BandwidthOptimizer

namespace Benchmarker

/-! ## One turn -/

/-- How many of the packets were dropped. -/
def droppedCount (results : List ProcessResult) : Nat := results.countP ProcessResult.dropped

/-- What a turn of the measured loop has done. -/
structure Turn (before : Measurement) (packet : MeasuredPacket) (result : ProcessResult)
    (after : Measurement) : Prop where
  outcome : BandwidthOptimizer.Outcome (before.optimizer, before.store) packet.ref result
    (after.optimizer, after.store)
  counted : after.packetsDropped = before.packetsDropped + if result.dropped then 1 else 0
  entered : after.bytesIn = before.bytesIn + (before.store packet.ref).sizeBytes
  left : after.bytesOut = before.bytesOut +
    if result.dropped then 0 else (after.store packet.ref).payload.length
  sampled : after.totalSamplesNs.length = before.totalSamplesNs.length + 1

theorem Turn.of_outcome {before counting : Measurement} {packet : MeasuredPacket}
    {result : ProcessResult}
    (outcome : BandwidthOptimizer.Outcome (before.optimizer, before.store) packet.ref result
      (counting.optimizer, counting.store))
    (dropped : counting.packetsDropped = before.packetsDropped)
    (entered : counting.bytesIn = before.bytesIn + (before.store packet.ref).sizeBytes)
    (left : counting.bytesOut = before.bytesOut)
    (sampled : counting.totalSamplesNs.length = before.totalSamplesNs.length + 1) :
    Turn before packet result (counting.count result) := by
  have answers := outcome.packet
  rw [Measurement.count]
  split
  next drops => exact ⟨outcome, by simp [drops, dropped], entered, by simp [drops, left], sampled⟩
  next forwards =>
    exact ⟨outcome, by simp [forwards, dropped], entered, by simp [forwards, left, answers],
      sampled⟩

theorem measure_turn {rt : Runtime} {stages : Bool} {before after : Measurement}
    {packet : MeasuredPacket} {result : ProcessResult}
    (measured : before.measure rt stages packet = (.ok result, after)) :
    Turn before packet result after := by
  cases stages with
  | true =>
      have untimed := processWithStageTiming_untimed rt before.optimizer before.store packet
        before.stageSamplesNs
      simp only [Measurement.measure, if_true] at measured
      generalize processWithStageTiming rt before.optimizer before.store packet
        before.stageSamplesNs = staged at measured untimed
      obtain ⟨outcome, optimizer, store, samples⟩ := staged
      cases outcome with
      | error raised => cases measured
      | ok other =>
          cases measured
          refine .of_outcome ?_ rfl rfl rfl (by simp)
          exact BandwidthOptimizer.processWithStageTiming_outcome untimed.symm
  | false =>
      simp only [Measurement.measure, Bool.false_eq_true, if_false] at measured
      generalize returns : before.optimizer.process rt before.store packet.readings packet.ref =
        answer at measured
      obtain ⟨outcome, optimizer, store⟩ := answer
      cases outcome with
      | error raised => cases measured
      | ok other =>
          cases measured
          exact .of_outcome (BandwidthOptimizer.process_outcome returns) rfl rfl rfl (by simp)

/-! ## The loop -/

section Loop

variable {rt : Runtime} {stages : Bool} {start : Measurement} {packets : List MeasuredPacket}

/-- The counters of a loop that has gone through its packets. -/
structure LoopCounts (start : Measurement) (packets : List MeasuredPacket)
    (results : List ProcessResult) (final : Measurement) : Prop where
  answered : results.length = packets.length
  received : final.optimizer.totalIn = start.optimizer.totalIn + packets.length
  dropped : final.optimizer.totalDropped = start.optimizer.totalDropped + droppedCount results
  counted : final.packetsDropped = start.packetsDropped + droppedCount results
  sampled : final.totalSamplesNs.length = start.totalSamplesNs.length + packets.length

theorem droppedCount_cons (result : ProcessResult) (rest : List ProcessResult) :
    droppedCount (result :: rest) = (if result.dropped then 1 else 0) + droppedCount rest := by
  rw [droppedCount, List.countP_cons, Nat.add_comm]
  rfl

theorem measureAll_counts (returns : (measureAll rt stages start packets).raised = none) :
    LoopCounts start packets (measureAll rt stages start packets).results
      (measureAll rt stages start packets).final := by
  induction packets generalizing start with
  | nil => exact ⟨rfl, rfl, rfl, rfl, rfl⟩
  | cons packet rest ih =>
      rw [measureAll] at returns ⊢
      split
      next raised after measured =>
        rw [measured] at returns
        cases returns
      next result after measured =>
        rw [measured] at returns
        have turn := measure_turn measured
        have later := ih returns
        have received := turn.outcome.received
        have dropped := turn.outcome.dropped
        have counted := turn.counted
        have sampled := turn.sampled
        have one := droppedCount_cons result (measureAll rt stages after rest).results
        obtain ⟨answered, laterReceived, laterDropped, laterCounted, laterSampled⟩ := later
        refine ⟨congrArg (· + 1) answered, ?_, ?_, ?_, ?_⟩
        · rw [laterReceived, received, List.length_cons]
          exact Nat.add_right_comm _ 1 _
        · rw [laterDropped, dropped, one]
          exact Nat.add_assoc _ _ _
        · rw [laterCounted, counted, one]
          exact Nat.add_assoc _ _ _
        · rw [laterSampled, sampled, List.length_cons]
          exact Nat.add_right_comm _ 1 _

/-- The sizes of the dropped packets, as they were when they came in. -/
def droppedBytes (store : Store) (packets : List MeasuredPacket)
    (results : List ProcessResult) : Int :=
  ((packets.zip results).map fun pair =>
    if pair.2.dropped then (store pair.1.ref).sizeBytes else 0).sum

theorem droppedBytes_congr {store other : Store}
    (same : ∀ packet ∈ packets, other packet.ref = store packet.ref)
    (results : List ProcessResult) :
    droppedBytes other packets results = droppedBytes store packets results := by
  rw [droppedBytes, droppedBytes]
  congr 1
  apply List.map_congr_left
  intro pair member
  rw [same pair.1 (List.of_mem_zip member).1]

theorem droppedBytes_nonneg {store : Store}
    (sized : ∀ packet ∈ packets, 0 ≤ (store packet.ref).sizeBytes) (results : List ProcessResult) :
    0 ≤ droppedBytes store packets results := by
  apply List.sum_nonneg
  intro size member
  obtain ⟨pair, paired, rfl⟩ := List.mem_map.mp member
  split
  next => exact sized pair.1 (List.of_mem_zip paired).1
  next => exact le_rfl

/-- Every byte of distinct packets that carry as many bytes as they say goes out, is saved or
is dropped. -/
theorem measureAll_bytes (returns : (measureAll rt stages start packets).raised = none)
    (distinct : (packets.map MeasuredPacket.ref).Nodup)
    (sized : ∀ packet ∈ packets,
      (start.store packet.ref).sizeBytes = (start.store packet.ref).payload.length) :
    let run := measureAll rt stages start packets
    run.final.bytesIn + start.bytesOut + start.optimizer.totalBytesSaved =
      start.bytesIn + run.final.bytesOut + run.final.optimizer.totalBytesSaved +
        droppedBytes start.store packets run.results := by
  induction packets generalizing start with
  | nil => simp [measureAll, droppedBytes]
  | cons packet rest ih =>
      rw [List.map_cons, List.nodup_cons] at distinct
      rw [List.forall_mem_cons] at sized
      rw [measureAll] at returns
      intro run
      simp only [run]
      rw [measureAll]
      split
      next raised after measured =>
        rw [measured] at returns
        cases returns
      next result after measured =>
        rw [measured] at returns
        have turn := measure_turn measured
        have apart (other : MeasuredPacket) (member : other ∈ rest) :
            after.store other.ref = start.store other.ref := by
          apply turn.outcome.elsewhere
          intro same
          exact distinct.1 (same ▸ List.mem_map_of_mem member)
        have later := ih returns distinct.2 fun other member => by
          rw [apart other member]
          exact sized.2 other member
        have same : droppedBytes after.store rest (measureAll rt stages after rest).results =
            droppedBytes start.store rest (measureAll rt stages after rest).results :=
          droppedBytes_congr apart _
        have here := sized.1
        have entered := turn.entered
        have left := turn.left
        have bytes := turn.outcome.bytes
        simp only at later bytes
        rw [same] at later
        have first : droppedBytes start.store (packet :: rest)
            (result :: (measureAll rt stages after rest).results) =
              (if result.dropped then (start.store packet.ref).sizeBytes else 0) +
                droppedBytes start.store rest (measureAll rt stages after rest).results := rfl
        simp only
        rw [first]
        cases drops : result.dropped with
        | true | false =>
            simp only [drops, if_true, Bool.false_eq_true, if_false] at left bytes ⊢
            omega

theorem length_record (logs : StageSamples) (packet : MeasuredPacket) (dropped : Bool)
    (stage : Stage) :
    (SampleLogs.record logs (packet.step dropped) stage).length +
        (if stage ∈ executedStages true then 0 else if dropped then 1 else 0) =
      (logs stage).length + 1 := by
  rw [SampleLogs.record, MeasuredPacket.step]
  cases dropped with
  | false => simp [executedStages]
  | true =>
      by_cases executed : stage ∈ executedStages true
      · rw [if_pos executed, if_pos executed]
        simp
      · rw [if_neg executed, if_neg executed]
        rfl

/-- Every packet has a sample of the stages before compression; only forwarded ones have the
others. -/
theorem measureAll_stages (returns : (measureAll rt true start packets).raised = none)
    (stage : Stage) :
    let run := measureAll rt true start packets
    (run.final.stageSamplesNs stage).length +
        (if stage ∈ executedStages true then 0 else droppedCount run.results) =
      (start.stageSamplesNs stage).length + packets.length := by
  induction packets generalizing start with
  | nil => simp [measureAll, droppedCount]
  | cons packet rest ih =>
      rw [measureAll] at returns
      intro run
      simp only [run]
      rw [measureAll]
      split
      next raised after measured =>
        rw [measured] at returns
        cases returns
      next result after measured =>
        rw [measured] at returns
        have later := ih returns
        obtain ⟨_, appends, _⟩ := Measurement.measure_records measured
        have here := length_record start.stageSamplesNs packet result.dropped stage
        rw [← appends] at here
        simp only at later ⊢
        rw [droppedCount_cons, List.length_cons]
        by_cases executed : stage ∈ executedStages true
        · rw [if_pos executed] at here later ⊢
          omega
        · rw [if_neg executed] at here later ⊢
          omega

end Loop

/-! ## The run -/

section Run

variable {rt : Runtime} {optimizer : BandwidthOptimizer} {store : Store} {input : BenchmarkInput}
variable {result : BenchmarkResult}

/-- A run that returns has warmed up, gone through its packets, and reported. -/
theorem run_eq_ok (returns : (run rt optimizer store input).1 = .ok result) :
    let warmed := warmUp rt optimizer store input.warmup
    let loop := measured rt warmed.2.1 warmed.2.2 input
    warmed.1 = none ∧ loop.raised = none ∧ report input loop.final = some result ∧
      (run rt optimizer store input).2 = (loop.final.optimizer, loop.final.store) := by
  simp only [run] at returns ⊢
  generalize warmUp rt optimizer store input.warmup = warmed at returns ⊢
  obtain ⟨raised, optimizer, store⟩ := warmed
  cases raised with
  | some raised => cases returns
  | none =>
      simp only at returns ⊢
      split at returns
      next => cases returns
      next complete =>
        split at returns
        next => cases returns
        next reported =>
          cases returns
          simp [complete, reported]

/-- Packets that are not in the warm-up are as they were after it. -/
theorem warmUp_elsewhere {warmup : List (PacketRef × ProcessReadings)}
    (returns : (warmUp rt optimizer store warmup).1 = none) {other : PacketRef}
    (apart : other ∉ warmup.map Prod.fst) :
    (warmUp rt optimizer store warmup).2.2 other = store other := by
  induction warmup generalizing optimizer store with
  | nil => rfl
  | cons first rest ih =>
      obtain ⟨ref, readings⟩ := first
      rw [List.map_cons, List.mem_cons, not_or] at apart
      rw [warmUp] at returns ⊢
      split
      next answered =>
        rw [answered] at returns
        cases returns
      next answered =>
        rw [answered] at returns
        exact (ih returns apart.2).trans
          ((BandwidthOptimizer.process_outcome answered).elsewhere other apart.1)

theorem mem_stageLatency {stages : List Stage} {samples : StageSamples}
    {latencies : List (String × LatencyStats)}
    (summarised : stages.mapM (fun stage =>
      (LatencyStats.fromSamples (microseconds (samples stage))).map (stage.name, ·)) =
        some latencies) :
    ∀ entry ∈ latencies, ∃ stage : Stage, entry.1 = stage.name ∧
      LatencyStats.fromSamples (microseconds (samples stage)) = some entry.2 := by
  induction stages generalizing latencies with
  | nil =>
      cases summarised
      exact fun entry member => absurd member List.not_mem_nil
  | cons stage rest ih =>
      rw [List.mapM_cons] at summarised
      obtain ⟨first, firstly, later⟩ := Option.bind_eq_some_iff.mp summarised
      obtain ⟨others, restly, same⟩ := Option.bind_eq_some_iff.mp later
      obtain ⟨stats, taken, rfl⟩ := Option.map_eq_some_iff.mp firstly
      cases same
      rw [List.forall_mem_cons]
      exact ⟨⟨stage, rfl, taken⟩, ih restly⟩

/-- Every stage that is summarised has one entry, in order. -/
theorem names_of_summarised {stages : List Stage} {samples : StageSamples}
    {latencies : List (String × LatencyStats)}
    (summarised : stages.mapM (fun stage =>
      (LatencyStats.fromSamples (microseconds (samples stage))).map (stage.name, ·)) =
        some latencies) :
    latencies.map Prod.fst = stages.map Stage.name := by
  induction stages generalizing latencies with
  | nil =>
      cases summarised
      rfl
  | cons stage rest ih =>
      rw [List.mapM_cons] at summarised
      obtain ⟨first, firstly, later⟩ := Option.bind_eq_some_iff.mp summarised
      obtain ⟨others, restly, same⟩ := Option.bind_eq_some_iff.mp later
      obtain ⟨stats, _, rfl⟩ := Option.map_eq_some_iff.mp firstly
      cases same
      rw [List.map_cons, List.map_cons, ih restly]

end Run

end Benchmarker

/-- `drop_rate`. -/
def BenchmarkResult.dropRate (result : BenchmarkResult) : ℚ :=
  if result.packetsProcessed = 0 then 0 else result.packetsDropped / result.packetsProcessed

/-- `compression_ratio`. -/
def BenchmarkResult.compressionRatio (result : BenchmarkResult) : ℚ :=
  if result.bytesIn = 0 then 1 else result.bytesOut / result.bytesIn

theorem BenchmarkResult.compressionRatio_bounds {result : BenchmarkResult}
    (enters : (result.bytesOut : Int) ≤ result.bytesIn) :
    0 ≤ result.compressionRatio ∧ result.compressionRatio ≤ 1 := by
  have shrinks : (result.bytesOut : ℚ) ≤ result.bytesIn := by exact_mod_cast enters
  have positive : (0 : ℚ) ≤ result.bytesIn := (Nat.cast_nonneg _).trans shrinks
  rw [compressionRatio]
  split
  next => exact ⟨zero_le_one, le_rfl⟩
  next =>
    exact ⟨div_nonneg (Nat.cast_nonneg _) positive, div_le_one_of_le₀ shrinks positive⟩

/-- What a result says agrees with the statistics of the optimizer, and there are as many samples
as packets, in the last two stages as many as packets that were not dropped; where stages are timed,
each has one entry, unless it has no samples. -/
structure BenchmarkBooks (timed : Bool) (result : BenchmarkResult) (stats : OptimizerStats) :
    Prop where
  processed : result.packetsProcessed = stats.packetsReceived
  dropped : result.packetsDropped = stats.packetsDropped
  dropRate : result.dropRate = stats.dropRate
  samples : result.totalLatency.sampleCount = result.packetsProcessed
  stages : ∀ entry ∈ result.stageLatency, ∃ stage : Stage, entry.1 = stage.name ∧
    entry.2.sampleCount + (if stage ∈ executedStages true then 0 else result.packetsDropped) =
      result.packetsProcessed
  entries : result.stageLatency.map Prod.fst =
    if timed then
      (Stage.all.filter fun stage =>
        (if stage ∈ executedStages true then 0 else result.packetsDropped) <
          result.packetsProcessed).map Stage.name
    else
      []

namespace Benchmarker

section Run

variable {rt : Runtime} {optimizer : BandwidthOptimizer} {store : Store} {input : BenchmarkInput}
variable {result : BenchmarkResult}

theorem run_books (returns : (run rt optimizer store input).1 = .ok result) (clock : Nat → ℚ) :
    BenchmarkBooks input.measureStages result
      ((run rt optimizer store input).2.1.stats clock) := by
  obtain ⟨_, complete, reported, final⟩ := run_eq_ok returns
  rw [final]
  obtain ⟨latencies, perStage, reported⟩ := Option.bind_eq_some_iff.mp reported
  obtain ⟨total, summarised, reported⟩ := Option.bind_eq_some_iff.mp reported
  cases reported
  generalize warmUp rt optimizer store input.warmup = warmed at *
  have counts := measureAll_counts complete
  have received := counts.received.trans (Nat.zero_add _)
  have dropped := counts.dropped.trans (Nat.zero_add _)
  have counted := counts.counted.trans (Nat.zero_add _)
  have sampled := counts.sampled.trans (Nat.zero_add _)
  exact
    { processed := received.symm
      dropped := counted.trans dropped.symm
      dropRate := by
        simp only [BenchmarkResult.dropRate, BandwidthOptimizer.stats, measured, received, dropped,
          counted]
      samples := by
        rw [LatencyStats.sampleCount_of_fromSamples summarised, microseconds, List.length_map]
        exact sampled
      stages := by
        intro entry member
        rw [stageLatency] at perStage
        split at perStage
        next timed =>
          rw [measured, timed] at complete
          obtain ⟨stage, named, taken⟩ := mem_stageLatency perStage entry member
          refine ⟨stage, named, ?_⟩
          have length := measureAll_stages complete stage
          simp only [measured, timed] at counted ⊢
          rw [LatencyStats.sampleCount_of_fromSamples taken, microseconds, List.length_map, counted]
          simp only [measured, timed]
          exact length.trans (Nat.zero_add _)
        next =>
          cases perStage
          cases member
      entries := by
        rw [stageLatency] at perStage
        split at perStage
        next timed =>
          rw [measured, timed] at complete
          rw [names_of_summarised perStage, if_pos timed]
          congr 1
          apply List.filter_congr
          intro stage _
          have length := (measureAll_stages complete stage).trans (Nat.zero_add _)
          simp only [measured, timed] at counted ⊢
          rw [counted, ← length]
          have sampled : ∀ samples : List Int, (!samples.isEmpty) = decide (0 < samples.length) := by
            intro samples
            cases samples <;> rfl
          rw [sampled]
          apply decide_eq_decide.mpr
          exact Nat.lt_add_left_iff_pos.symm
        next untimed =>
          cases perStage
          rw [if_neg untimed]
          rfl }

/-- The bytes that have come in went out, were saved, or were dropped. -/
structure BytesBalance (store : Store) (packets : List MeasuredPacket)
    (results : List ProcessResult) (result : BenchmarkResult) (stats : OptimizerStats) : Prop where
  balance : result.bytesIn =
    result.bytesOut + stats.bytesSavedCompression + droppedBytes store packets results
  ratio : 0 ≤ result.compressionRatio ∧ result.compressionRatio ≤ 1

theorem run_bytes (returns : (run rt optimizer store input).1 = .ok result)
    (distinct : (input.warmup.map Prod.fst ++ input.packets.map MeasuredPacket.ref).Nodup)
    (sized : ∀ packet ∈ input.packets,
      (store packet.ref).sizeBytes = (store packet.ref).payload.length)
    (clock : Nat → ℚ) :
    let warmed := warmUp rt optimizer store input.warmup
    BytesBalance store input.packets (measured rt warmed.2.1 warmed.2.2 input).results result
      ((run rt optimizer store input).2.1.stats clock) := by
  obtain ⟨ready, complete, reported, final⟩ := run_eq_ok returns
  obtain ⟨_, unwarmed, apart⟩ := List.nodup_append.mp distinct
  have same (packet : MeasuredPacket) (member : packet ∈ input.packets) :
      (warmUp rt optimizer store input.warmup).2.2 packet.ref = store packet.ref := by
    apply warmUp_elsewhere ready
    intro warm
    exact apart _ warm _ (List.mem_map_of_mem member) rfl
  intro warmed
  have bytes := measureAll_bytes complete unwarmed fun packet member => by
    change (warmed.2.2 packet.ref).sizeBytes = (warmed.2.2 packet.ref).payload.length
    rw [same packet member]
    exact sized packet member
  obtain ⟨latencies, _, reported⟩ := Option.bind_eq_some_iff.mp reported
  obtain ⟨total, _, reported⟩ := Option.bind_eq_some_iff.mp reported
  cases reported
  have dropped := droppedBytes_nonneg (fun packet member => by
    rw [sized packet member]
    exact Int.natCast_nonneg _) (measured rt warmed.2.1 warmed.2.2 input).results
  have balance : (measured rt warmed.2.1 warmed.2.2 input).final.bytesIn =
      (measured rt warmed.2.1 warmed.2.2 input).final.bytesOut +
        (measured rt warmed.2.1 warmed.2.2 input).final.optimizer.totalBytesSaved +
        droppedBytes store input.packets (measured rt warmed.2.1 warmed.2.2 input).results := by
    rw [← droppedBytes_congr same]
    simpa [warmed, measured, BandwidthOptimizer.resetStats] using bytes
  rw [final]
  refine ⟨balance, BenchmarkResult.compressionRatio_bounds ?_⟩
  change ((measured rt warmed.2.1 warmed.2.2 input).final.bytesOut : Int) ≤
    (measured rt warmed.2.1 warmed.2.2 input).final.bytesIn
  omega

end Run

/-- Whatever optimizer, mode, packets and timing a benchmark is given, what it reports agrees with
the statistics of the optimizer; and if the packets are distinct objects that carry as many bytes as
they say, then of the bytes that came in those that did not go out were saved by compression or
dropped. -/
theorem benchmark_books (rt : Runtime) (optimizer : BandwidthOptimizer) (store : Store)
    (input : BenchmarkInput) (result : BenchmarkResult)
    (returns : (run rt optimizer store input).1 = .ok result) (clock : Nat → ℚ) :
    let stats := (run rt optimizer store input).2.1.stats clock
    let warmed := warmUp rt optimizer store input.warmup
    BenchmarkBooks input.measureStages result stats ∧
      ((input.warmup.map Prod.fst ++ input.packets.map MeasuredPacket.ref).Nodup →
        (∀ packet ∈ input.packets,
          (store packet.ref).sizeBytes = (store packet.ref).payload.length) →
        BytesBalance store input.packets (measured rt warmed.2.1 warmed.2.2 input).results result
          stats) :=
  ⟨run_books returns clock, fun distinct sized => run_bytes returns distinct sized clock⟩

/-- A critical packet of three bytes, and others of a hundred. -/
def narrowPackets : Store := fun ref =>
  if ref = 0 then { payload := [1, 2, 3], priority := some .critical, sizeBytes := 3 }
  else { payload := .replicate 100 0, priority := some .medium, sizeBytes := 100 }

/-- The books of a run over a link of ten bytes a second, which drops a packet. -/
theorem benchmark_books_narrow :
    ∃ fresh result,
      BandwidthOptimizer.init { totalBandwidthBps := 10 } none (fun _ => 0) = .ok fresh ∧
      (run .plain fresh narrowPackets (oneTicks [0, 1])).1 = .ok result ∧
      let stats := (run .plain fresh narrowPackets (oneTicks [0, 1])).2.1.stats fun _ => 0
      BenchmarkBooks true result stats ∧ stats.packetsDropped = 1 ∧
        BytesBalance narrowPackets (oneTicks [0, 1]).packets
          (measured .plain fresh narrowPackets (oneTicks [0, 1])).results result stats := by
  have evaluated : (BandwidthOptimizer.init { totalBandwidthBps := 10 } none
      fun _ => 0).toOption.map (fun fresh =>
        let outcome := run .plain fresh narrowPackets (oneTicks [0, 1])
        (outcome.1.toOption.isSome, (outcome.2.1.stats fun _ => 0).packetsDropped)) =
      some (true, 1) := by
    decide +kernel
  cases constructed : BandwidthOptimizer.init { totalBandwidthBps := 10 } none fun _ => 0 with
  | error raised =>
      rw [constructed] at evaluated
      cases evaluated
  | ok fresh =>
      rw [constructed] at evaluated
      obtain ⟨answered, dropped⟩ := Prod.mk.inj (Option.some.inj evaluated)
      cases returns : (run .plain fresh narrowPackets (oneTicks [0, 1])).1 with
      | error raised =>
          rw [returns] at answered
          cases answered
      | ok result =>
          obtain ⟨books, bytes⟩ := benchmark_books .plain fresh narrowPackets (oneTicks [0, 1])
            result returns fun _ => 0
          exact ⟨fresh, result, rfl, returns, books, dropped,
            bytes (by decide) (by decide)⟩

end Benchmarker

end SmartBandwidth

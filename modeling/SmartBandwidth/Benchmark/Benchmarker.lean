import SmartBandwidth.Benchmark.LatencyStats
import SmartBandwidth.Lib.SampleLogs
import SmartBandwidth.Pipeline.Benchmark

/-!
# The benchmarker

A run warms the optimizer up, resets its statistics, and then measures packet after packet.  With
stage timing each executed stage appends its duration to its own list of samples, and the total
of a packet is taken from the last element of each list.
-/

namespace SmartBandwidth

/-- The timed stages, in the order of the samples. -/
inductive Stage where
  | flowTrack
  | classify
  | filter
  | compress
  | schedule
  deriving DecidableEq, Repr

namespace Stage

def all : List Stage := [flowTrack, classify, filter, compress, schedule]

instance : Fintype Stage where
  elems := {flowTrack, classify, filter, compress, schedule}
  complete := fun stage => by cases stage <;> decide

/-- The key of the samples. -/
def name : Stage → String
  | .flowTrack => "flow_track"
  | .classify => "classify"
  | .filter => "filter"
  | .compress => "compress"
  | .schedule => "schedule"

end Stage

/-- The readings of `perf_counter_ns` before and after some work. -/
structure Span where
  start : Int
  stop : Int

def Span.duration (span : Span) : Int := span.stop - span.start

/-- `stage_samples_ns`. -/
abbrev StageSamples := Stage → List Int

namespace StageSamples

def empty : StageSamples := fun _ => []

/-- One more sample of a stage. -/
def append (samples : StageSamples) (stage : Stage) (sample : Int) : StageSamples :=
  Function.update samples stage (samples stage ++ [sample])

/-- The sum of the last samples of the stages that have any. -/
def sumOfLast (samples : StageSamples) : Int :=
  (Stage.all.filterMap fun stage => (samples stage).getLast?).sum

end StageSamples

/-- A packet of the factory, and the readings while it is processed. -/
structure MeasuredPacket where
  ref : PacketRef
  readings : ProcessReadings
  stageSpans : Stage → Span
  span : Span

/-- How long a stage takes. -/
def MeasuredPacket.duration (packet : MeasuredPacket) (stage : Stage) : Int :=
  (packet.stageSpans stage).duration

namespace Benchmarker

open BandwidthOptimizer

/-- `_process_with_stage_timing`. -/
def processWithStageTiming (rt : Runtime) (optimizer : BandwidthOptimizer) (store : Store)
    (packet : MeasuredPacket) (stageSamples : StageSamples) :
    Except PyError ProcessResult × BandwidthOptimizer × Store × StageSamples :=
  let ref := packet.ref
  let readings := packet.readings
  let (record, flowTracker) := optimizer.flowTracker.update rt (store ref) readings.flow
  let optimizer := { optimizer with flowTracker := flowTracker }
  let stageSamples := stageSamples.append .flowTrack (packet.duration .flowTrack)
  match classifyStage rt optimizer.classifier (store ref) with
  | .error raised => (.error raised, optimizer, store, stageSamples)
  | .ok classified =>
      let current := hintStage flowTracker record classified
      let store := store.set ref current
      let stageSamples := stageSamples.append .classify (packet.duration .classify)
      let (decision, packetFilter) := optimizer.packetFilter.shouldDrop current
        (some optimizer.engine.length) readings.refill readings.draw
      let optimizer := { optimizer with packetFilter := packetFilter }
      let stageSamples := stageSamples.append .filter (packet.duration .filter)
      if decision.drop then
        (.ok {
            packet := ref
            dropped := true
            dropReason := decision.reason
            flowRecord := some record },
          { optimizer with
            totalIn := optimizer.totalIn + 1
            totalDropped := optimizer.totalDropped + 1 },
          store, stageSamples)
      else
        match PayloadCompressor.compress rt optimizer.config current.payload with
        | .error raised => (.error raised, optimizer, store, stageSamples)
        | .ok result =>
            let compressed := compressedPacket current result
            let saved := if result.wasCompressed then result.spaceSavedBytes else 0
            let stageSamples := stageSamples.append .compress (packet.duration .compress)
            let (_, engine, store) :=
              optimizer.engine.enqueue (store.set ref compressed) readings.arrival ref
            let stageSamples := stageSamples.append .schedule (packet.duration .schedule)
            (.ok {
                packet := ref
                dropped := false
                compressed := result.wasCompressed
                originalPayloadSize := current.payload.length
                compressedPayloadSize := compressed.payload.length
                flowRecord := some record },
              { optimizer with
                engine := engine
                totalIn := optimizer.totalIn + 1
                totalBytesSaved := optimizer.totalBytesSaved + saved },
              store, stageSamples)

/-- The variables of the measured loop. -/
structure Measurement where
  optimizer : BandwidthOptimizer
  store : Store
  totalSamplesNs : List Int := []
  stageSamplesNs : StageSamples := .empty
  packetsDropped : Nat := 0
  bytesIn : Int := 0
  bytesOut : Nat := 0

namespace Measurement

/-- The outcome of a packet enters the counters. -/
def count (measurement : Measurement) (result : ProcessResult) : Measurement :=
  if result.dropped then
    { measurement with packetsDropped := measurement.packetsDropped + 1 }
  else
    { measurement with
      bytesOut := measurement.bytesOut + (measurement.store result.packet).payload.length }

/-- One turn of the measured loop. -/
def measure (rt : Runtime) (measureStages : Bool) (measurement : Measurement)
    (packet : MeasuredPacket) : Except PyError ProcessResult × Measurement :=
  let measurement := { measurement with
    bytesIn := measurement.bytesIn + (measurement.store packet.ref).sizeBytes }
  if measureStages then
    let (outcome, optimizer, store, stageSamples) := processWithStageTiming rt
      measurement.optimizer measurement.store packet measurement.stageSamplesNs
    let measurement := { measurement with
      optimizer := optimizer
      store := store
      stageSamplesNs := stageSamples }
    match outcome with
    | .error raised => (.error raised, measurement)
    | .ok result =>
        let measurement := { measurement with
          totalSamplesNs := measurement.totalSamplesNs ++ [stageSamples.sumOfLast] }
        (.ok result, measurement.count result)
  else
    let (outcome, optimizer, store) := measurement.optimizer.process rt measurement.store
      packet.readings packet.ref
    let measurement := { measurement with optimizer := optimizer, store := store }
    match outcome with
    | .error raised => (.error raised, measurement)
    | .ok result =>
        let measurement := { measurement with
          totalSamplesNs := measurement.totalSamplesNs ++ [packet.span.duration] }
        (.ok result, measurement.count result)

end Measurement

/-- What the measured loop leaves: the results, and the exception that ended it early. -/
structure MeasuredRun where
  results : List ProcessResult
  raised : Option PyError
  final : Measurement

/-- The measured loop. -/
def measureAll (rt : Runtime) (measureStages : Bool) (measurement : Measurement) :
    List MeasuredPacket → MeasuredRun
  | [] => { results := [], raised := none, final := measurement }
  | packet :: rest =>
      match measurement.measure rt measureStages packet with
      | (.error raised, measurement) =>
          { results := [], raised := some raised, final := measurement }
      | (.ok result, measurement) =>
          let run := measureAll rt measureStages measurement rest
          { run with results := result :: run.results }

/-- The warm-up, ended by the first exception. -/
def warmUp (rt : Runtime) (optimizer : BandwidthOptimizer) (store : Store) :
    List (PacketRef × ProcessReadings) → Option PyError × BandwidthOptimizer × Store
  | [] => (none, optimizer, store)
  | (ref, readings) :: rest =>
      match optimizer.process rt store readings ref with
      | (.error raised, optimizer, store) => (some raised, optimizer, store)
      | (.ok _, optimizer, store) => warmUp rt optimizer store rest

end Benchmarker

/-- The configuration of a run, the packets of its factory, and the readings around the loop. -/
structure BenchmarkInput where
  warmup : List (PacketRef × ProcessReadings)
  packets : List MeasuredPacket
  measureStages : Bool := true
  span : Span
  rssBefore : Nat
  rssAfter : Nat

/-- `BenchmarkResult`. -/
structure BenchmarkResult where
  packetsProcessed : Nat
  durationSeconds : ℚ
  packetsPerSecond : ℚ
  totalLatency : LatencyStats
  stageLatency : List (String × LatencyStats)
  memoryRssBeforeBytes : Nat
  memoryRssAfterBytes : Nat
  packetsDropped : Nat
  bytesIn : Int
  bytesOut : Nat

/-- The exceptions that end a run. -/
inductive BenchmarkError where
  | raised (raised : PyError)
  | indexError

namespace Benchmarker

/-- Samples in microseconds. -/
def microseconds (samplesNs : List Int) : List ℚ :=
  samplesNs.map fun ns : Int => (ns : ℚ) / 1000

/-- The latencies of the stages that have samples. -/
def stageLatency (measureStages : Bool) (stageSamplesNs : StageSamples) :
    Option (List (String × LatencyStats)) :=
  if measureStages then
    (Stage.all.filter fun stage => !(stageSamplesNs stage).isEmpty).mapM fun stage =>
      (LatencyStats.fromSamples (microseconds (stageSamplesNs stage))).map (stage.name, ·)
  else
    some []

/-- The end of `run`, after the measured loop; none is an `IndexError`. -/
def report (input : BenchmarkInput) (measurement : Measurement) : Option BenchmarkResult := do
  let durationS : ℚ := input.span.duration / 10 ^ 9
  let stageLatency ← stageLatency input.measureStages measurement.stageSamplesNs
  let totalLatency ← LatencyStats.fromSamples (microseconds measurement.totalSamplesNs)
  some {
    packetsProcessed := input.packets.length
    durationSeconds := durationS
    packetsPerSecond := if 0 < durationS then input.packets.length / durationS else 0
    totalLatency := totalLatency
    stageLatency := stageLatency
    memoryRssBeforeBytes := input.rssBefore
    memoryRssAfterBytes := input.rssAfter
    packetsDropped := measurement.packetsDropped
    bytesIn := measurement.bytesIn
    bytesOut := measurement.bytesOut }

/-- The measured loop of a run that has warmed an optimizer up. -/
def measured (rt : Runtime) (optimizer : BandwidthOptimizer) (store : Store)
    (input : BenchmarkInput) : MeasuredRun :=
  measureAll rt input.measureStages { optimizer := optimizer.resetStats, store := store }
    input.packets

/-- `run`. -/
def run (rt : Runtime) (optimizer : BandwidthOptimizer) (store : Store) (input : BenchmarkInput) :
    Except BenchmarkError BenchmarkResult × BandwidthOptimizer × Store :=
  match warmUp rt optimizer store input.warmup with
  | (some raised, optimizer, store) => (.error (.raised raised), optimizer, store)
  | (none, optimizer, store) =>
      let run := measured rt optimizer store input
      match run.raised with
      | some raised => (.error (.raised raised), run.final.optimizer, run.final.store)
      | none =>
          match report input run.final with
          | none => (.error .indexError, run.final.optimizer, run.final.store)
          | some result => (.ok result, run.final.optimizer, run.final.store)

/-- The statistics of any samples can be taken, so that the report is always made. -/
theorem exists_report (input : BenchmarkInput) (measurement : Measurement) :
    ∃ result, report input measurement = some result := by
  have latencies : ∀ stages : List Stage, ∃ latencies : List (String × LatencyStats),
      stages.mapM (fun stage => (LatencyStats.fromSamples
        (microseconds (measurement.stageSamplesNs stage))).map (stage.name, ·)) =
        some latencies := by
    intro stages
    induction stages with
    | nil => exact ⟨[], rfl⟩
    | cons stage rest ih =>
        obtain ⟨stats, returned⟩ := LatencyStats.exists_fromSamples
          (microseconds (measurement.stageSamplesNs stage))
        obtain ⟨latencies, mapped⟩ := ih
        exact ⟨(stage.name, stats) :: latencies, by simp [returned, mapped]⟩
  have perStage : ∃ latency, stageLatency input.measureStages measurement.stageSamplesNs =
      some latency := by
    rw [stageLatency]
    split
    next => exact latencies _
    next => exact ⟨[], rfl⟩
  obtain ⟨latency, stageReturned⟩ := perStage
  obtain ⟨total, totalReturned⟩ := LatencyStats.exists_fromSamples
    (microseconds measurement.totalSamplesNs)
  rw [report, stageReturned, totalReturned]
  exact ⟨_, rfl⟩

/-- A run returns unless the pipeline raises. -/
theorem run_returns_iff {rt : Runtime} {optimizer : BandwidthOptimizer} {store : Store}
    {input : BenchmarkInput} :
    (∃ result, (run rt optimizer store input).1 = .ok result) ↔
      (warmUp rt optimizer store input.warmup).1 = none ∧
        (measured rt (warmUp rt optimizer store input.warmup).2.1
          (warmUp rt optimizer store input.warmup).2.2 input).raised = none := by
  simp only [run]
  generalize warmUp rt optimizer store input.warmup = warmed
  obtain ⟨raised, optimizer, store⟩ := warmed
  cases raised with
  | some raised => simp
  | none =>
      simp only [true_and]
      cases (measured rt optimizer store input).raised with
      | some raised => simp
      | none =>
          obtain ⟨result, reported⟩ := exists_report input
            (measured rt optimizer store input).final
          simp [reported]

end Benchmarker

end SmartBandwidth

import SmartBandwidth.Benchmark.Benchmarker

/-!
# Samples of packets

The total latency sample of a packet adds up the last sample of every stage.  A dropped packet
skips compression and scheduling, and their last samples are then those of an earlier packet.
-/

namespace SmartBandwidth

open SampleLogs

/-- The stages that a packet goes through. -/
def executedStages (dropped : Bool) : Finset Stage :=
  if dropped then {.flowTrack, .classify, .filter} else Finset.univ

/-- What a packet appends to the samples. -/
def MeasuredPacket.step (packet : MeasuredPacket) (dropped : Bool) : Step Stage Int where
  executed := executedStages dropped
  duration := packet.duration

namespace StageSamples

variable {samples : StageSamples}

theorem sum_all (amount : Stage → Int) : (Stage.all.map amount).sum = ∑ stage, amount stage := by
  simp [Stage.all, Finset.univ, Fintype.elems]

theorem sum_filterMap (stages : List Stage) :
    (stages.filterMap fun stage => (samples stage).getLast?).sum =
      (stages.map (latest samples)).sum := by
  induction stages with
  | nil => rfl
  | cons stage rest ih =>
      rw [List.filterMap_cons, List.map_cons, List.sum_cons, latest]
      cases (samples stage).getLast? with
      | none => rw [ih, Option.getD_none, zero_add]
      | some sample => rw [List.sum_cons, ih, Option.getD_some]

theorem sumOfLast_eq : samples.sumOfLast = total samples := by
  rw [sumOfLast, sum_filterMap, sum_all, total]

/-- A dropped packet appends to the first three stages. -/
theorem append_dropped (packet : MeasuredPacket) :
    ((samples.append .flowTrack (packet.duration .flowTrack)).append .classify
      (packet.duration .classify)).append .filter (packet.duration .filter) =
      record samples (packet.step true) := by
  funext stage
  cases stage <;> rfl

/-- A forwarded packet appends to all of them. -/
theorem append_forwarded (packet : MeasuredPacket) :
    ((((samples.append .flowTrack (packet.duration .flowTrack)).append .classify
      (packet.duration .classify)).append .filter (packet.duration .filter)).append .compress
      (packet.duration .compress)).append .schedule (packet.duration .schedule) =
      record samples (packet.step false) := by
  funext stage
  cases stage <;> rfl

/-- What a dropped packet leaves is in the logs of compression and scheduling. -/
theorem stale_dropped (packet : MeasuredPacket) :
    stale samples (packet.step true).executed =
      latest samples .compress + latest samples .schedule := by
  have skipped : (executedStages true)ᶜ = {.compress, .schedule} := by decide
  rw [stale, MeasuredPacket.step, skipped, Finset.sum_pair (by decide)]

theorem stale_forwarded (packet : MeasuredPacket) :
    stale samples (packet.step false).executed = 0 := by
  have skipped : (executedStages false)ᶜ = ∅ := by decide
  rw [stale, MeasuredPacket.step, skipped, Finset.sum_empty]

end StageSamples

namespace Benchmarker

open BandwidthOptimizer

section Packet

variable (rt : Runtime) (optimizer : BandwidthOptimizer) (store : Store)
variable (packet : MeasuredPacket)

/-- Whether the filter drops a packet in a state; a packet that is not classified is not dropped. -/
def filterDrops : Bool :=
  let (record, flowTracker) :=
    optimizer.flowTracker.update rt (store packet.ref) packet.readings.flow
  match classifyStage rt optimizer.classifier (store packet.ref) with
  | .error _ => false
  | .ok classified =>
      (optimizer.packetFilter.shouldDrop (hintStage flowTracker record classified)
        (some optimizer.engine.length) packet.readings.refill packet.readings.draw).1.drop

variable (samples : StageSamples)

/-- Sampling changes nothing of what the staged path does. -/
theorem processWithStageTiming_untimed :
    let (outcome, optimizer', store', _) :=
      processWithStageTiming rt optimizer store packet samples
    (outcome, optimizer', store') =
      optimizer.processWithStageTiming rt store packet.readings packet.ref := by
  simp only [processWithStageTiming, BandwidthOptimizer.processWithStageTiming]
  generalize optimizer.flowTracker.update rt (store packet.ref) packet.readings.flow = tracked
  cases classifyStage rt optimizer.classifier (store packet.ref) with
  | error raised => rfl
  | ok classified =>
      simp only
      split
      next => rfl
      next =>
        cases PayloadCompressor.compress rt optimizer.config
          (hintStage tracked.2 tracked.1 classified).payload with
        | error raised => rfl
        | ok result => rfl

variable {rt optimizer store packet samples}

/-- A packet on which the staged path returns appends to the stages it went through, which the
filter decides. -/
theorem processWithStageTiming_samples {result : ProcessResult}
    (returns : (processWithStageTiming rt optimizer store packet samples).1 = .ok result) :
    result.dropped = filterDrops rt optimizer store packet ∧
      (processWithStageTiming rt optimizer store packet samples).2.2.2 =
        record samples (packet.step result.dropped) := by
  revert returns
  simp only [processWithStageTiming, filterDrops]
  cases classifyStage rt optimizer.classifier (store packet.ref) with
  | error raised =>
      intro returns
      cases returns
  | ok classified =>
      simp only
      split
      next drops =>
        intro returns
        cases returns
        exact ⟨drops.symm, StageSamples.append_dropped packet⟩
      next passes =>
        split
        next =>
          intro returns
          cases returns
        next =>
          intro returns
          cases returns
          exact ⟨(Bool.eq_false_iff.mpr passes).symm, StageSamples.append_forwarded packet⟩

end Packet

namespace Measurement

/-- Whether the filter drops a packet in the state before it. -/
def drops (rt : Runtime) (measurement : Measurement) (packet : MeasuredPacket) : Bool :=
  filterDrops rt measurement.optimizer measurement.store packet

/-- The last samples of compression and scheduling together, zero before the first. -/
def leftover (measurement : Measurement) : Int :=
  latest measurement.stageSamplesNs .compress + latest measurement.stageSamplesNs .schedule

@[simp]
theorem count_samples (measurement : Measurement) (result : ProcessResult) :
    (measurement.count result).totalSamplesNs = measurement.totalSamplesNs ∧
      (measurement.count result).stageSamplesNs = measurement.stageSamplesNs := by
  rw [count]
  split <;> exact ⟨rfl, rfl⟩

/-- A turn of the loop records the packet, and the sum of the last samples after it. -/
theorem measure_records {rt : Runtime} {before after : Measurement} {packet : MeasuredPacket}
    {result : ProcessResult} (measured : before.measure rt true packet = (.ok result, after)) :
    result.dropped = before.drops rt packet ∧
      after.stageSamplesNs = record before.stageSamplesNs (packet.step result.dropped) ∧
      after.totalSamplesNs = before.totalSamplesNs ++
        [total (record before.stageSamplesNs (packet.step result.dropped))] := by
  simp only [measure, if_true] at measured
  generalize staged : processWithStageTiming rt before.optimizer before.store packet
    before.stageSamplesNs = outcome at measured
  obtain ⟨outcome, optimizer, store, samples⟩ := outcome
  cases outcome with
  | error raised => cases measured
  | ok other =>
      cases measured
      obtain ⟨decides, appends⟩ := processWithStageTiming_samples
        (show (processWithStageTiming rt before.optimizer before.store packet
          before.stageSamplesNs).1 = .ok result by rw [staged])
      rw [staged] at appends
      simp only at appends
      simp only [count_samples, StageSamples.sumOfLast_eq, appends]
      exact ⟨decides, trivial, trivial⟩

/-- A packet that raises records no total. -/
theorem measure_raised {rt : Runtime} {before after : Measurement} {packet : MeasuredPacket}
    {raised : PyError} (measured : before.measure rt true packet = (.error raised, after)) :
    after.totalSamplesNs = before.totalSamplesNs := by
  simp only [measure, if_true] at measured
  generalize processWithStageTiming rt before.optimizer before.store packet
    before.stageSamplesNs = outcome at measured
  obtain ⟨outcome, optimizer, store, samples⟩ := outcome
  cases outcome with
  | error other =>
      cases measured
      rfl
  | ok result => cases measured

end Measurement

/-- What the packets of a run append to the samples. -/
def steps (packets : List MeasuredPacket) (results : List ProcessResult) :
    List (Step Stage Int) :=
  (packets.zip results).map fun pair => pair.1.step pair.2.dropped

section Runs

variable {rt : Runtime} {start : Measurement} {packets : List MeasuredPacket}

theorem measureAll_results_le :
    (measureAll rt true start packets).results.length ≤ packets.length := by
  induction packets generalizing start with
  | nil => exact le_rfl
  | cons packet rest ih =>
      rw [measureAll]
      split
      next => exact Nat.zero_le _
      next => exact Nat.succ_le_succ ih

/-- The totals of a run are the sums of the last samples after each packet. -/
theorem measureAll_totals :
    (measureAll rt true start packets).final.totalSamplesNs =
      start.totalSamplesNs ++ totals start.stageSamplesNs
        (steps packets (measureAll rt true start packets).results) := by
  induction packets generalizing start with
  | nil => simp [measureAll, steps, totals]
  | cons packet rest ih =>
      rw [measureAll]
      split
      next raised after measured =>
        simp only [steps, List.zip_nil_right, List.map_nil, totals, List.append_nil]
        exact Measurement.measure_raised measured
      next result after measured =>
        obtain ⟨_, appends, sums⟩ := Measurement.measure_records measured
        simp only [ih, sums, appends, steps, List.zip_cons_cons, List.map_cons, totals]
        rw [List.append_assoc]
        rfl

/-- Before the packet of a result, the loop has gone through the packets before it; the filter
decides on the packet. -/
theorem measureAll_before {i : Nat} {packet : MeasuredPacket} {result : ProcessResult}
    (asked : packets[i]? = some packet)
    (answered : (measureAll rt true start packets).results[i]? = some result) :
    let before := (measureAll rt true start (packets.take i)).final
    result.dropped = before.drops rt packet ∧
      before.stageSamplesNs = recordAll start.stageSamplesNs
        ((steps packets (measureAll rt true start packets).results).take i) := by
  induction packets generalizing start i with
  | nil => cases asked
  | cons first rest ih =>
      cases measured : start.measure rt true first with
      | mk outcome after =>
          cases outcome with
          | error raised =>
              simp only [measureAll, measured] at answered
              cases answered
          | ok firstResult =>
              have records := Measurement.measure_records measured
              simp only [measureAll, measured] at answered ⊢
              cases i with
              | zero =>
                  cases asked
                  cases answered
                  exact ⟨records.1, rfl⟩
              | succ i =>
                  simp only [List.getElem?_cons_succ] at asked answered
                  have later := ih asked answered
                  simp only [List.take_succ_cons, measureAll, measured, steps,
                    List.zip_cons_cons, List.map_cons, recordAll, List.foldl_cons,
                    ← records.2.1]
                  exact later

theorem getElem?_steps {results : List ProcessResult} {i : Nat} {packet : MeasuredPacket}
    {result : ProcessResult} (asked : packets[i]? = some packet)
    (answered : results[i]? = some result) :
    (steps packets results)[i]? = some (packet.step result.dropped) := by
  have paired : (packets.zip results)[i]? = some (packet, result) :=
    List.getElem?_zip_eq_some.mpr ⟨asked, answered⟩
  rw [steps, List.getElem?_map, paired]
  rfl

/-- The last samples of compression and scheduling are from the last packet that was
forwarded. -/
theorem latest_steps (packets : List MeasuredPacket) (results : List ProcessResult)
    (logs : StageSamples) {stage : Stage} (skipped : stage ∉ executedStages true) :
    latest (recordAll logs (steps packets results)) stage =
      (((packets.zip results).reverse.find? fun pair => !pair.2.dropped).map
        fun pair => pair.1.duration stage).getD (latest logs stage) := by
  have forwarded : ((fun step : Step Stage Int => decide (stage ∈ step.executed)) ∘
      fun pair : MeasuredPacket × ProcessResult => pair.1.step pair.2.dropped) =
      fun pair => !pair.2.dropped := by
    funext pair
    simp only [Function.comp_apply, MeasuredPacket.step]
    cases pair.2.dropped with
    | false => simp [executedStages]
    | true => exact decide_eq_false skipped
  rw [latest_recordAll, steps, ← List.map_reverse, List.find?_map, forwarded, Option.map_map]
  rfl

end Runs

/-- A run that returns takes its latencies from the samples of its measured loop. -/
theorem run_totalLatency {rt : Runtime} {optimizer : BandwidthOptimizer} {store : Store}
    {input : BenchmarkInput} {result : BenchmarkResult}
    (returns : (run rt optimizer store input).1 = .ok result) :
    LatencyStats.fromSamples (microseconds
      (measured rt (warmUp rt optimizer store input.warmup).2.1
        (warmUp rt optimizer store input.warmup).2.2 input).final.totalSamplesNs) =
      some result.totalLatency := by
  simp only [run] at returns
  generalize warmUp rt optimizer store input.warmup = warmed at returns ⊢
  obtain ⟨raised, optimizer, store⟩ := warmed
  cases raised with
  | some raised => cases returns
  | none =>
      simp only at returns
      split at returns
      next => cases returns
      next =>
        split at returns
        next => cases returns
        next reported =>
          cases returns
          obtain ⟨_, _, reported⟩ := Option.bind_eq_some_iff.mp reported
          obtain ⟨totalLatency, summarised, reported⟩ := Option.bind_eq_some_iff.mp reported
          cases reported
          exact summarised

/-- The total latency of a run that measured a packet describes its samples. -/
theorem run_describes {rt : Runtime} {optimizer : BandwidthOptimizer} {store : Store}
    {input : BenchmarkInput} {result : BenchmarkResult}
    (returns : (run rt optimizer store input).1 = .ok result)
    {samplesNs : List Int} (nonempty : samplesNs ≠ [])
    (samples : (measured rt (warmUp rt optimizer store input.warmup).2.1
      (warmUp rt optimizer store input.warmup).2.2 input).final.totalSamplesNs = samplesNs) :
    result.totalLatency.Describes (microseconds samplesNs) := by
  have converted : microseconds samplesNs ≠ [] := by
    rw [microseconds, ne_eq, List.map_eq_nil_iff]
    exact nonempty
  obtain ⟨stats, returned, describes⟩ := LatencyStats.exists_describes converted
  have summarised := run_totalLatency returns
  rw [samples, returned, Option.some.injEq] at summarised
  rw [← summarised]
  exact describes

/-- In a run with stage timing, the total latency sample of a packet is the sum of the durations
of its own stages exactly if the filter does not drop it, or the last samples of compression and
scheduling before it add up to nothing. -/
theorem totalSamples_own_iff (rt : Runtime) (optimizer : BandwidthOptimizer) (store : Store)
    (input : BenchmarkInput) (stages : input.measureStages = true) :
    let warmed := (warmUp rt optimizer store input.warmup).2
    let loop := measured rt warmed.1 warmed.2 input
    (∀ result, (run rt optimizer store input).1 = .ok result →
      LatencyStats.fromSamples (microseconds loop.final.totalSamplesNs) =
        some result.totalLatency) ∧
    loop.final.totalSamplesNs.length = loop.results.length ∧
    ∀ (i : Nat) (packet : MeasuredPacket) (result : ProcessResult),
      input.packets[i]? = some packet → loop.results[i]? = some result →
      let before := (measured rt warmed.1 warmed.2
        { input with packets := input.packets.take i }).final
      (loop.final.totalSamplesNs[i]? =
          some (∑ stage ∈ executedStages result.dropped, packet.duration stage) ↔
        (before.drops rt packet = true → before.leftover = 0)) := by
  intro warmed loop
  have sums := @measureAll_totals rt { optimizer := warmed.1.resetStats, store := warmed.2 }
    input.packets
  simp only [loop, measured, stages]
  refine ⟨?_, ?_, ?_⟩
  · intro result returns
    have summarised := run_totalLatency returns
    simp only [measured, stages] at summarised
    exact summarised
  · rw [sums, List.nil_append, length_totals, steps, List.length_map, List.length_zip]
    exact min_eq_right measureAll_results_le
  · intro i packet result asked answered
    obtain ⟨decides, stored⟩ := measureAll_before asked answered
    rw [sums, List.nil_append]
    apply (totals_own_iff (getElem?_steps asked answered)).trans
    rw [← stored, ← decides]
    cases dropped : result.dropped with
    | false => simp [StageSamples.stale_forwarded]
    | true => simp [StageSamples.stale_dropped, Measurement.leftover]

/-- Packet 0 passes the filter, and the others are too large for it. -/
def largePackets : Store := fun ref =>
  if ref = 0 then { priority := some .critical }
  else { priority := some .medium, sizeBytes := 1000000000000 }

/-- A packet whose stages take a nanosecond each. -/
def oneTick (ref : PacketRef) : MeasuredPacket where
  ref := ref
  readings := .frozen 0 0
  stageSpans := fun _ => ⟨0, 1⟩
  span := ⟨0, 5⟩

/-- A run over such packets, without a warm-up. -/
def oneTicks (refs : List PacketRef) : BenchmarkInput where
  warmup := []
  packets := refs.map oneTick
  span := ⟨0, 10⟩
  rssBefore := 0
  rssAfter := 0

/-- A packet that is dropped before any is forwarded has a sample of its own. -/
theorem totalSamples_own_iff_first :
    ∃ fresh, init {} none (fun _ => 0) = .ok fresh ∧
      (measured .plain fresh largePackets (oneTicks [1])).final.totalSamplesNs[0]? =
        some (∑ stage ∈ executedStages true, (oneTick 1).duration stage) := by
  obtain ⟨fresh, constructed⟩ := default_constructs
  have evaluated : (init {} none fun _ => 0).toOption.map (fun fresh =>
      (measured .plain fresh largePackets (oneTicks [1])).results.map ProcessResult.dropped) =
      some [true] := by
    decide +kernel
  rw [constructed] at evaluated
  refine ⟨fresh, constructed, ?_⟩
  obtain ⟨result, results, dropped⟩ := List.map_eq_singleton_iff.mp (Option.some.inj evaluated)
  have own := (totalSamples_own_iff .plain fresh largePackets (oneTicks [1]) rfl).2.2 0
    (oneTick 1) result rfl (by
      change (measured .plain fresh largePackets (oneTicks [1])).results[0]? = some result
      rw [results]
      rfl)
  rw [dropped] at own
  exact own.mpr fun _ => rfl

/-- A packet that is dropped after one was forwarded takes over its compression and scheduling
samples. -/
theorem dropped_sample_not_own :
    ∃ fresh, init {} none (fun _ => 0) = .ok fresh ∧
      let loop := measured .plain fresh largePackets (oneTicks [0, 1])
      loop.results.map ProcessResult.dropped = [false, true] ∧
      loop.final.totalSamplesNs = [5, 5] ∧
      ∑ stage ∈ executedStages true, (oneTick 1).duration stage = 3 := by
  obtain ⟨fresh, constructed⟩ := default_constructs
  have evaluated : (init {} none fun _ => 0).toOption.map (fun fresh =>
      let loop := measured .plain fresh largePackets (oneTicks [0, 1])
      (loop.results.map ProcessResult.dropped, loop.final.totalSamplesNs)) =
      some ([false, true], [5, 5]) := by
    decide +kernel
  rw [constructed] at evaluated
  obtain ⟨outcomes, samples⟩ := Prod.mk.inj (Option.some.inj evaluated)
  exact ⟨fresh, constructed, outcomes, samples, by decide +kernel⟩

end Benchmarker

end SmartBandwidth

import SmartBandwidth.Sla.Backpressure
import SmartBandwidth.Pipeline.Conservation
import SmartBandwidth.Lib.EventLog
import SmartBandwidth.Lib.ResetCounter
import SmartBandwidth.Lib.Replay

/-!
# The estimated rates

A monitor samples an optimizer whose counters other calls may reset between two samples.  The
run keeps beside the monitor every sample it has ever taken, and with each of them the packets
that were really processed and served until then.
-/

namespace SmartBandwidth

/-! ## The counters of an optimizer -/

theorem Scheduler.insertEntry_dequeueCounts {K : Type} [LinearOrder K] (scheduler : Scheduler K)
    (priority : TrafficPriority) (entry : QueueEntry K) :
    (scheduler.insertEntry priority entry).2.dequeueCounts = scheduler.dequeueCounts := by
  simp only [insertEntry]
  split
  next =>
    split
    next => rfl
    next =>
      split
      next => rfl
      next => rfl
  next => rfl

/-- The packets the statistics of an engine report as served. -/
def Engine.served (engine : Engine) : Nat :=
  ∑ priority, engine.stats.dequeueCounts priority

namespace Engine

theorem enqueue_served (engine : Engine) (store : Store) (now : ℚ) (ref : PacketRef) :
    (engine.enqueue store now ref).2.1.served = engine.served := by
  cases engine with
  | plain scheduler =>
      exact congrArg (fun counts => ∑ priority, counts priority)
        (scheduler.draw.insertEntry_dequeueCounts _ _)
  | pvm policy scheduler tracker =>
      exact congrArg (fun counts => ∑ priority, counts priority)
        (scheduler.draw.insertEntry_dequeueCounts _ _)

theorem recordDropped_served (engine : Engine) (value now : ℚ) :
    (engine.recordDropped value now).served = engine.served := by
  rw [served, recordDropped_stats, served]

theorem recordDelivered_served (engine : Engine) (value now : ℚ) :
    (engine.recordDelivered value now).served = engine.served := by
  rw [served, recordDelivered_stats, served]

theorem resetStats_served (engine : Engine) : engine.resetStats.served = 0 := by
  cases engine <;> exact Finset.sum_const_zero

end Engine

/-- A call to `dequeue` counts the packet it returns. -/
theorem Scheduler.dequeue_served {K : Type} [LinearOrder K] (scheduler : Scheduler K)
    (store : Store) :
    ∑ priority, (scheduler.dequeue store).2.dequeueCounts priority =
      (∑ priority, scheduler.dequeueCounts priority) +
        (scheduler.dequeue store).1.toList.length := by
  have dequeues := scheduler.dequeue_dequeues store
  generalize scheduler.dequeue store = outcome at dequeues ⊢
  cases dequeues with
  | empty => rfl
  | served => exact TrafficPriority.sum_increment _ _

theorem Engine.dequeue_served (engine : Engine) (store : Store) :
    (engine.dequeue store).2.served =
      engine.served + (engine.dequeue store).1.toList.length := by
  cases engine with
  | plain scheduler => exact scheduler.dequeue_served store
  | pvm policy scheduler tracker => exact scheduler.dequeue_served store

/-- `process` serves no packet. -/
theorem BandwidthOptimizer.process_served (rt : Runtime) (optimizer : BandwidthOptimizer)
    (store : Store) (readings : ProcessReadings) (ref : PacketRef) :
    (optimizer.process rt store readings ref).2.1.engine.served = optimizer.engine.served := by
  have processes := optimizer.process_processes rt store readings ref
  generalize optimizer.process rt store readings ref = outcome at processes ⊢
  cases processes with
  | classifyRaised => rfl
  | filtered => exact Engine.recordDropped_served _ _ _
  | compressRaised => rfl
  | admitted => exact (Engine.recordDelivered_served _ _ _).trans (Engine.enqueue_served _ _ _ _)

/-! ## Sampled runs -/

/-- The calls a run is made of. -/
inductive SampledCall where
  | process (ref : PacketRef) (readings : ProcessReadings)
  | dequeue
  | resetStats
  | update (clock : Nat → ℚ) (now : ℚ)

/-- What a sample has read, and what had happened until then. -/
structure SampledCounts where
  received : Nat
  forwarded : Nat
  processed : ResetCounter
  dequeued : ResetCounter
  deriving DecidableEq, Repr

/-- A monitor over an optimizer, with the tallies of its `process` calls and its served packets
and the log of all samples. -/
structure SampledRun where
  monitor : BackpressureMonitor
  optimizer : BandwidthOptimizer
  store : Store
  processed : ResetCounter
  dequeued : ResetCounter
  log : List (ℚ × SampledCounts)

/-- The entry of `_samples` for an event of the log. -/
def rateSample (event : ℚ × SampledCounts) : RateSample where
  time := event.1
  packetsReceived := event.2.received
  packetsForwarded := event.2.forwarded

namespace SampledRun

/-- A monitor and an optimizer before the run. -/
def start (monitor : BackpressureMonitor) (optimizer : BandwidthOptimizer) (store : Store) :
    SampledRun where
  monitor := monitor
  optimizer := optimizer
  store := store
  processed := .new
  dequeued := .new
  log := []

/-- The event of the log for a sample at a time. -/
def event (run : SampledRun) (now : ℚ) : ℚ × SampledCounts :=
  (now,
    { received := run.optimizer.totalIn
      forwarded := run.optimizer.engine.served
      processed := run.processed
      dequeued := run.dequeued })

/-- One call.  The clock of `update` does not go back. -/
def perform (rt : Runtime) (run : SampledRun) : SampledCall → Option SampledRun
  | .process ref readings =>
      let (_, optimizer, store) := run.optimizer.process rt run.store readings ref
      some { run with
        optimizer := optimizer
        store := store
        processed := run.processed.count 1 }
  | .dequeue =>
      let (ref, optimizer) := run.optimizer.dequeue run.store
      some { run with
        optimizer := optimizer
        dequeued := run.dequeued.count ref.toList.length }
  | .resetStats =>
      some { run with
        optimizer := run.optimizer.resetStats
        processed := run.processed.reset run.optimizer.totalIn
        dequeued := run.dequeued.reset run.optimizer.engine.served }
  | .update clock now =>
      if ∀ earlier ∈ run.log, earlier.1 ≤ now then
        some { run with
          monitor := (run.monitor.update (run.optimizer.stats clock) now).2
          log := run.log ++ [run.event now] }
      else
        none

/-- The samples taken within the window that ends at a time. -/
def retained (run : SampledRun) (now : ℚ) : List (ℚ × SampledCounts) :=
  EventLog.since (now - run.monitor.window) run.log

/-- Over the retained samples the rates times the time span are what happened in it. -/
def RatesCount (run : SampledRun) (now : ℚ) : Prop :=
  ∀ oldest ∈ (run.retained now).head?, ∀ newest ∈ (run.retained now).getLast?,
    oldest.1 < newest.1 →
      run.monitor.state.arrivalRatePps * (newest.1 - oldest.1) =
          newest.2.processed.counted - oldest.2.processed.counted ∧
        run.monitor.state.drainRatePps * (newest.1 - oldest.1) =
          newest.2.dequeued.counted - oldest.2.dequeued.counted

instance (run : SampledRun) (now : ℚ) : Decidable (run.RatesCount now) :=
  inferInstanceAs (Decidable (∀ oldest ∈ (run.retained now).head?,
    ∀ newest ∈ (run.retained now).getLast?, oldest.1 < newest.1 → _ = _ ∧ _ = _))

/-- Between the oldest and the newest retained sample no reset erased a count, or there was
nothing to count. -/
def Unerased (run : SampledRun) (now : ℚ) : Prop :=
  ∀ oldest ∈ (run.retained now).head?, ∀ newest ∈ (run.retained now).getLast?,
    oldest.1 < newest.1 →
      oldest.2.processed.Unerased newest.2.processed ∧
        oldest.2.dequeued.Unerased newest.2.dequeued

instance (run : SampledRun) (now : ℚ) : Decidable (run.Unerased now) :=
  inferInstanceAs (Decidable (∀ oldest ∈ (run.retained now).head?,
    ∀ newest ∈ (run.retained now).getLast?, oldest.1 < newest.1 → _ ∧ _))

/-! ## What a run keeps -/

/-- What a sample has read agrees with its tallies. -/
structure Reads (base baseServed : Nat) (counts : SampledCounts) : Prop where
  received : counts.processed.Shows base counts.received
  forwarded : counts.dequeued.Shows baseServed counts.forwarded

/-- Two events of the log, in order. -/
structure Precedes (first second : ℚ × SampledCounts) : Prop where
  time : first.1 ≤ second.1
  processed : first.2.processed.Before second.2.processed
  dequeued : first.2.dequeued.Before second.2.dequeued

/-- The optimizer and the log agree with the tallies. -/
structure Tallied (run : SampledRun) (base baseServed : Nat) : Prop where
  received : run.processed.Shows base run.optimizer.totalIn
  served : run.dequeued.Shows baseServed run.optimizer.engine.served
  logged : ∀ event ∈ run.log, Reads base baseServed event.2
  ordered : run.log.Pairwise Precedes
  earlier : ∀ event ∈ run.log,
    event.2.processed.Before run.processed ∧ event.2.dequeued.Before run.dequeued

/-- The samples of a monitor serve all windows that end now or later. -/
def Keeps (monitor : BackpressureMonitor) (log : List (ℚ × SampledCounts)) : Prop :=
  ∃ kept : List (ℚ × SampledCounts), monitor.samples = kept.map rateSample ∧
    kept.Sublist log ∧ ∀ now, (∀ earlier ∈ log, earlier.1 ≤ now) →
      EventLog.AgreeFrom (now - monitor.window) kept log

section Steps

variable {run : SampledRun} {base baseServed : Nat}

/-- A call that moves the counters and the tallies alike keeps the log valid. -/
theorem Tallied.move (tallied : run.Tallied base baseServed) {optimizer : BandwidthOptimizer}
    {processed dequeued : ResetCounter}
    (received : processed.Shows base optimizer.totalIn)
    (served : dequeued.Shows baseServed optimizer.engine.served)
    (processedLater : run.processed.Before processed)
    (dequeuedLater : run.dequeued.Before dequeued) (store : Store) :
    Tallied { run with
      optimizer := optimizer
      store := store
      processed := processed
      dequeued := dequeued } base baseServed where
  received := received
  served := served
  logged := tallied.logged
  ordered := tallied.ordered
  earlier := fun event member =>
    ⟨(tallied.earlier event member).1.trans processedLater,
      (tallied.earlier event member).2.trans dequeuedLater⟩

theorem Tallied.update (tallied : run.Tallied base baseServed) {now : ℚ}
    (forward : ∀ earlier ∈ run.log, earlier.1 ≤ now) (monitor : BackpressureMonitor) :
    Tallied { run with
      monitor := monitor
      log := run.log ++ [run.event now] } base baseServed where
  received := tallied.received
  served := tallied.served
  logged := by
    rw [List.forall_mem_append, List.forall_mem_singleton]
    exact ⟨tallied.logged, tallied.received, tallied.served⟩
  ordered := by
    rw [List.pairwise_append]
    refine ⟨tallied.ordered, List.pairwise_singleton _ _, ?_⟩
    intro earlier member later same
    obtain rfl := List.mem_singleton.mp same
    exact ⟨forward earlier member, (tallied.earlier earlier member).1,
      (tallied.earlier earlier member).2⟩
  earlier := by
    rw [List.forall_mem_append, List.forall_mem_singleton]
    exact ⟨tallied.earlier, .refl _, .refl _⟩

theorem Tallied.step (tallied : run.Tallied base baseServed) {rt : Runtime}
    {call : SampledCall} {next : SampledRun} (performed : run.perform rt call = some next) :
    next.Tallied base baseServed := by
  cases call with
  | process ref readings =>
      cases performed
      have received := tallied.received.count 1
      rw [← @BandwidthOptimizer.process_totalIn rt run.optimizer run.store readings ref]
        at received
      have served := tallied.served
      rw [← run.optimizer.process_served rt run.store readings ref] at served
      exact tallied.move received served ((ResetCounter.Before.refl _).count 1) (.refl _) _
  | dequeue =>
      cases performed
      have served := tallied.served.count (run.optimizer.engine.dequeue run.store).1.toList.length
      rw [← Engine.dequeue_served] at served
      have received : run.processed.Shows base (run.optimizer.dequeue run.store).2.totalIn :=
        tallied.received
      exact tallied.move received served (.refl _) ((ResetCounter.Before.refl _).count _) _
  | resetStats =>
      cases performed
      have served := tallied.served.reset
      rw [← run.optimizer.engine.resetStats_served] at served
      exact tallied.move tallied.received.reset served ((ResetCounter.Before.refl _).reset _)
        ((ResetCounter.Before.refl _).reset _) _
  | update clock now =>
      simp only [perform] at performed
      split at performed
      next forward =>
        cases performed
        exact tallied.update forward _
      next => cases performed

end Steps

/-! ## The samples -/

section Samples

variable {monitor : BackpressureMonitor} {log : List (ℚ × SampledCounts)}

/-- Pruning the samples is pruning the kept part of the log. -/
theorem rateSample_dropWhile (kept : List (ℚ × SampledCounts)) (cutoff : ℚ) :
    (kept.map rateSample).dropWhile (fun sample => decide (sample.time < cutoff)) =
      (kept.dropWhile fun event => event.1 < cutoff).map rateSample := by
  rw [List.dropWhile_map]
  rfl

theorem Keeps.update (keeps : Keeps monitor log) {event : ℚ × SampledCounts}
    {raw : OptimizerStats} (sampled : BackpressureMonitor.sampleOf raw event.1 = rateSample event) :
    Keeps (monitor.update raw event.1).2 (log ++ [event]) := by
  obtain ⟨kept, samples, sublist, agrees⟩ := keeps
  refine ⟨(kept ++ [event]).dropWhile fun other => other.1 < event.1 - monitor.window, ?_, ?_, ?_⟩
  · rw [← rateSample_dropWhile, List.map_append, ← samples, List.map_singleton, ← sampled]
    rfl
  · exact (List.dropWhile_sublist _).trans (sublist.append_right _)
  · intro now later
    rw [List.forall_mem_append, List.forall_mem_singleton] at later
    exact ((agrees now later.1).append [event]).dropWhile (sub_le_sub_right later.2 _)

theorem Keeps.step {run next : SampledRun} (keeps : Keeps run.monitor run.log) {rt : Runtime}
    {call : SampledCall} (performed : run.perform rt call = some next) :
    Keeps next.monitor next.log := by
  cases call with
  | process ref readings =>
      cases performed
      exact keeps
  | dequeue =>
      cases performed
      exact keeps
  | resetStats =>
      cases performed
      exact keeps
  | update clock now =>
      simp only [perform] at performed
      split at performed
      next =>
        cases performed
        exact @Keeps.update _ _ keeps (run.event now) (run.optimizer.stats clock) rfl
      next => cases performed

/-- After an update the samples are those of its window. -/
theorem Keeps.update_samples (keeps : Keeps monitor log) {event : ℚ × SampledCounts}
    {raw : OptimizerStats} (sampled : BackpressureMonitor.sampleOf raw event.1 = rateSample event)
    (sorted : (log ++ [event]).Pairwise fun first second => first.1 ≤ second.1) :
    (monitor.update raw event.1).2.samples =
      (EventLog.since (event.1 - monitor.window) (log ++ [event])).map rateSample := by
  obtain ⟨kept, samples, sublist, agrees⟩ := keeps
  have keptSorted := sorted.sublist (sublist.append_right [event])
  have now : ∀ earlier ∈ log, earlier.1 ≤ event.1 := by
    intro earlier member
    exact (List.pairwise_append.mp sorted).2.2 earlier member event List.mem_cons_self
  rw [← (agrees event.1 now).append [event], ← EventLog.dropWhile_eq_since keptSorted,
    ← rateSample_dropWhile, List.map_append, ← samples, List.map_singleton, ← sampled]
  rfl

end Samples

/-! ## The rates -/

/-- The rates times the time span are the growth of the counters, cut off at zero. -/
theorem computeRates_mul {monitor : BackpressureMonitor} {oldest newest : RateSample}
    (first : monitor.samples.head? = some oldest)
    (last : monitor.samples.getLast? = some newest) (apart : oldest.time < newest.time) :
    monitor.computeRates.1 * (newest.time - oldest.time) =
        max 0 ((newest.packetsReceived : ℚ) - oldest.packetsReceived) ∧
      monitor.computeRates.2 * (newest.time - oldest.time) =
        max 0 ((newest.packetsForwarded : ℚ) - oldest.packetsForwarded) := by
  have span : 0 < newest.time - oldest.time := sub_pos.mpr apart
  have several : ¬ monitor.samples.length < 2 := by
    intro few
    rcases samplesEq : monitor.samples with _ | ⟨only, _ | ⟨second, rest⟩⟩
    · simp [samplesEq] at first
    · simp only [samplesEq, List.head?_cons, List.getLast?_singleton, Option.some.injEq]
        at first last
      rw [← first, ← last] at apart
      exact lt_irrefl _ apart
    · rw [samplesEq, List.length_cons, List.length_cons] at few
      omega
  have scaled (growth : ℚ) :
      max 0 (growth / (newest.time - oldest.time)) * (newest.time - oldest.time) =
        max 0 growth := by
    rw [max_mul_of_nonneg _ _ span.le, zero_mul, div_mul_cancel₀ _ span.ne']
  simp only [BackpressureMonitor.computeRates, several, ↓reduceIte, first, last,
    BackpressureMonitor.ratesBetween, not_le.mpr span]
  exact ⟨scaled _, scaled _⟩

/-- The oldest retained sample was taken before the newest. -/
theorem Tallied.precedes_of_retained {run : SampledRun} {base baseServed : Nat}
    (tallied : run.Tallied base baseServed) {now : ℚ} {oldest newest : ℚ × SampledCounts}
    (first : oldest ∈ (run.retained now).head?) (last : newest ∈ (run.retained now).getLast?)
    (apart : oldest.1 < newest.1) : Precedes oldest newest := by
  have ordered : (run.retained now).Pairwise Precedes := tallied.ordered.filter _
  have member : newest ∈ run.retained now := List.mem_of_mem_getLast? last
  rcases retainedEq : run.retained now with _ | ⟨head, rest⟩
  · rw [retainedEq] at member
    cases member
  · rw [retainedEq] at first ordered member
    obtain rfl : head = oldest := Option.some.inj first
    rcases List.mem_cons.mp member with same | later
    · exact absurd apart (by rw [same]; exact lt_irrefl _)
    · exact (List.pairwise_cons.mp ordered).1 newest later

/-- When the samples are those of the window, the rates count what happened exactly if nothing
that happened was erased. -/
theorem Tallied.ratesCount_iff {run : SampledRun} {base baseServed : Nat}
    (tallied : run.Tallied base baseServed) {now : ℚ}
    (samples : run.monitor.samples = (run.retained now).map rateSample)
    (rates : (run.monitor.state.arrivalRatePps, run.monitor.state.drainRatePps) =
      run.monitor.computeRates) : run.RatesCount now ↔ run.Unerased now := by
  obtain ⟨arrival, drain⟩ := Prod.ext_iff.mp rates
  rw [RatesCount, Unerased]
  apply forall₂_congr
  intro oldest first
  apply forall₂_congr
  intro newest last
  apply imp_congr_right
  intro apart
  have firstMember : oldest ∈ run.log :=
    List.mem_of_mem_filter (List.mem_of_mem_head? first)
  have lastMember : newest ∈ run.log :=
    List.mem_of_mem_filter (List.mem_of_mem_getLast? last)
  have precedes := tallied.precedes_of_retained first last apart
  have grown := @computeRates_mul run.monitor (rateSample oldest) (rateSample newest)
    (by rw [samples, List.head?_map, first]; rfl)
    (by rw [samples, List.getLast?_map, last]; rfl) apart
  have oldestReads := tallied.logged oldest firstMember
  have newestReads := tallied.logged newest lastMember
  rw [← arrival, ← drain] at grown
  rw [← ResetCounter.growth_iff_unerased precedes.processed oldestReads.received
      newestReads.received,
    ← ResetCounter.growth_iff_unerased precedes.dequeued oldestReads.forwarded
      newestReads.forwarded]
  exact and_congr (Eq.congr_left grown.1) (Eq.congr_left grown.2)

/-- In every run on a new monitor under a clock that does not go back, every update leaves exactly
the samples of its window, and its rates times their time span are the packets processed and
served between the oldest and the newest of them exactly if no reset between these two erased a
count, or there was nothing to count. -/
theorem rates_count_iff_unerased (rt : Runtime) {softThreshold hardThreshold window : ℚ}
    {monitor : BackpressureMonitor}
    (created : BackpressureMonitor.init softThreshold hardThreshold window = .ok monitor)
    (optimizer : BandwidthOptimizer) (store : Store) {calls : List SampledCall}
    {reached run : SampledRun}
    (replays : replay (perform rt) (start monitor optimizer store) calls = some reached)
    {clock : Nat → ℚ} {now : ℚ} (updates : reached.perform rt (.update clock now) = some run) :
    run.monitor.samples = (run.retained now).map rateSample ∧
      (run.RatesCount now ↔ run.Unerased now) := by
  let base := optimizer.totalIn
  let baseServed := optimizer.engine.served
  have fresh : (start monitor optimizer store).Tallied base baseServed :=
    ⟨ResetCounter.new_shows _, ResetCounter.new_shows _, nofun, .nil, nofun⟩
  have empty : Keeps monitor [] :=
    ⟨[], (BackpressureMonitor.init_parameters created).2.2.2, .slnil, fun _ _ => .refl _⟩
  have kept (state : SampledRun) (call : SampledCall) (next : SampledRun)
      (holds : state.Tallied base baseServed ∧ Keeps state.monitor state.log)
      (performs : state.perform rt call = some next) :
      next.Tallied base baseServed ∧ Keeps next.monitor next.log :=
    ⟨holds.1.step performs, holds.2.step performs⟩
  obtain ⟨tallied, keeps⟩ := replay.preserves kept ⟨fresh, empty⟩ replays
  have tallied := tallied.step updates
  simp only [perform] at updates
  split at updates
  next =>
    cases updates
    have sorted := tallied.ordered.imp fun precedes => precedes.time
    have samples := @Keeps.update_samples _ _ keeps (reached.event now)
      (reached.optimizer.stats clock) rfl sorted
    exact ⟨samples, tallied.ratesCount_iff samples rfl⟩
  next => cases updates

/-- A sample, a `process` call, and what comes until the second sample. -/
def sampledAround (between : List SampledCall) : List SampledCall :=
  .update (fun _ => 0) 0 :: .process 0 (.frozen 0 0) :: between

/-- A run on a default optimizer up to the second sample, evaluated. -/
theorem default_samples (between : List SampledCall) (told : Bool × Bool)
    (evaluated : (BandwidthOptimizer.init {} none fun _ => 0).toOption.bind (fun optimizer =>
      BackpressureMonitor.init.toOption.bind fun monitor =>
        (replay (perform .plain) (start monitor optimizer fun _ => { priority := some .critical })
          (sampledAround between)).bind fun reached =>
            (reached.perform .plain (.update (fun _ => 0) 1)).map fun run =>
              (decide (run.RatesCount 1), decide (run.Unerased 1))) = some told) :
    ∃ optimizer monitor reached run, BackpressureMonitor.init = .ok monitor ∧
      replay (perform .plain) (start monitor optimizer fun _ => { priority := some .critical })
        (sampledAround between) = some reached ∧
      reached.perform .plain (.update (fun _ => 0) 1) = some run ∧
      (decide (run.RatesCount 1), decide (run.Unerased 1)) = told := by
  obtain ⟨optimizer, constructed⟩ := BandwidthOptimizer.default_constructs
  obtain ⟨monitor, created⟩ := BackpressureMonitor.default_init
  simp only [constructed, created, Except.toOption, Option.bind_some] at evaluated
  obtain ⟨reached, replays, final⟩ := Option.bind_eq_some_iff.mp evaluated
  obtain ⟨run, updates, toldEq⟩ := Option.map_eq_some_iff.mp final
  exact ⟨optimizer, monitor, reached, run, created, replays, updates, toldEq⟩

/-- With nothing between, the rates count the processed packet. -/
theorem rates_count_undisturbed :
    ∃ optimizer monitor reached run, BackpressureMonitor.init = .ok monitor ∧
      replay (perform .plain) (start monitor optimizer fun _ => { priority := some .critical })
        (sampledAround []) = some reached ∧
      reached.perform .plain (.update (fun _ => 0) 1) = some run ∧ run.RatesCount 1 := by
  obtain ⟨optimizer, monitor, reached, run, created, replays, updates, told⟩ :=
    default_samples [] (true, true) (by decide +kernel)
  have counts := (rates_count_iff_unerased .plain created optimizer _ replays updates).2
  exact ⟨optimizer, monitor, reached, run, created, replays, updates,
    counts.mpr (of_decide_eq_true (Prod.ext_iff.mp told).2)⟩

/-- A reset between the two samples erases the packet from the arrival rate. -/
theorem rates_miss_erased :
    ∃ optimizer monitor reached run, BackpressureMonitor.init = .ok monitor ∧
      replay (perform .plain) (start monitor optimizer fun _ => { priority := some .critical })
        (sampledAround [.resetStats]) = some reached ∧
      reached.perform .plain (.update (fun _ => 0) 1) = some run ∧ ¬ run.RatesCount 1 := by
  obtain ⟨optimizer, monitor, reached, run, created, replays, updates, told⟩ :=
    default_samples [.resetStats] (false, false) (by decide +kernel)
  exact ⟨optimizer, monitor, reached, run, created, replays, updates,
    of_decide_eq_false (Prod.ext_iff.mp told).1⟩

end SampledRun

end SmartBandwidth

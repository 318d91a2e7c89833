import SmartBandwidth.Lib.SinceReset
import SmartBandwidth.Pipeline.Conservation
import SmartBandwidth.Sla.Rates

/-!
# The statistics against the replies

What an optimizer reports is read off the replies its callers have seen since the last reset,
also where calls raise.  A packet on which `process` raised is received and nothing else, so the
number of these calls closes the balance.
-/

namespace SmartBandwidth

/-! ## What a reply shows -/

/-- The call that clears the statistics. -/
def OptimizerCall.resets : OptimizerCall → Bool
  | .resetStats => true
  | .process _ _ | .dequeue | .drain | .drainNext => false

namespace OptimizerReply

/-- Packets handed in. -/
def received : OptimizerReply → Nat
  | .processed _ => 1
  | .packet _ | .packets _ | .done => 0

/-- Packets reported as dropped. -/
def dropped : OptimizerReply → Nat
  | .processed (.ok result) => if result.dropped then 1 else 0
  | .processed (.error _) | .packet _ | .packets _ | .done => 0

/-- Packets on which the pipeline raised. -/
def failed : OptimizerReply → Nat
  | .processed (.error _) => 1
  | .processed (.ok _) | .packet _ | .packets _ | .done => 0

/-- Payload bytes reported as saved. -/
def bytesSaved : OptimizerReply → Nat
  | .processed (.ok result) => result.bytesSaved
  | .processed (.error _) | .packet _ | .packets _ | .done => 0

/-- Packets handed out. -/
def served : OptimizerReply → Nat
  | .packet ref => ref.toList.length
  | .packets refs => refs.length
  | .processed _ | .done => 0

end OptimizerReply

/-! ## What a call adds -/

/-- The counters after a call that answers with `reply`. -/
structure AddsUp (optimizer next : BandwidthOptimizer) (reply : OptimizerReply) : Prop where
  received : next.totalIn = optimizer.totalIn + reply.received
  dropped : next.totalDropped = optimizer.totalDropped + reply.dropped
  filtered : ∑ priority, next.packetFilter.dropCounts priority =
    (∑ priority, optimizer.packetFilter.dropCounts priority) + reply.dropped
  saved : next.totalBytesSaved = optimizer.totalBytesSaved + reply.bytesSaved
  served : next.engine.served = optimizer.engine.served + reply.served
  accounted : next.engine.stats.accounted + reply.dropped + reply.failed =
    optimizer.engine.stats.accounted + reply.received

/-- A compression that is kept saves the difference of the payload sizes. -/
theorem PayloadCompressor.compress_saves {rt : Runtime} {config : OptimizerConfig}
    {packet : Packet} {result : CompressionResult}
    (compresses : PayloadCompressor.compress rt config packet.payload = .ok result) :
    (if result.wasCompressed then result.spaceSavedBytes else 0) =
      packet.payload.length -
        (BandwidthOptimizer.compressedPacket packet result).payload.length := by
  simp only [compress] at compresses
  split at compresses
  next =>
    cases compresses
    simp [unchanged, BandwidthOptimizer.compressedPacket]
  next =>
    split at compresses
    next => cases compresses
    next =>
      split at compresses
      next =>
        cases compresses
        simp [unchanged, BandwidthOptimizer.compressedPacket]
      next =>
        cases compresses
        simp [CompressionResult.spaceSavedBytes, BandwidthOptimizer.compressedPacket]

namespace Scheduler

variable {K : Type} [LinearOrder K]

theorem drainLoop_served (store : Store) (fuel : Nat) (scheduler : Scheduler K) :
    ∑ priority, (drainLoop store fuel scheduler).2.dequeueCounts priority =
      (∑ priority, scheduler.dequeueCounts priority) +
        (drainLoop store fuel scheduler).1.length := by
  induction fuel generalizing scheduler with
  | zero => rfl
  | succ fuel ih =>
      rw [drainLoop]
      split
      next => rfl
      next =>
        have served := scheduler.dequeue_served store
        cases answer : scheduler.dequeue store with
        | mk ref rest =>
            rw [answer] at served
            cases ref with
            | none => exact (ih rest).trans (congrArg (· + _) served)
            | some ref =>
                rw [ih rest, served, List.length_cons]
                exact Nat.add_right_comm _ 1 _

end Scheduler

theorem Engine.drain_served (engine : Engine) (store : Store) :
    (engine.drain store).2.served = engine.served + (engine.drain store).1.length := by
  cases engine with
  | plain scheduler => exact Scheduler.drainLoop_served store _ scheduler
  | pvm policy scheduler tracker => exact Scheduler.drainLoop_served store _ scheduler

namespace BandwidthOptimizer

theorem process_addsUp {optimizer : BandwidthOptimizer} (positive : 0 < optimizer.engine.maxSize)
    (rt : Runtime) (store : Store) (readings : ProcessReadings) (ref : PacketRef) :
    AddsUp optimizer (optimizer.process rt store readings ref).2.1
      (.processed (optimizer.process rt store readings ref).1) := by
  have served := process_served rt optimizer store readings ref
  have filterCounts (prepared : Prepared) :
      ∑ priority, (optimizer.filtering readings prepared).2.dropCounts priority =
        (∑ priority, optimizer.packetFilter.dropCounts priority) +
          if (optimizer.filtering readings prepared).1.drop then 1 else 0 :=
    PacketFilter.shouldDrop_dropCounts _ _ _ _ _
  have processes := optimizer.process_processes rt store readings ref
  generalize optimizer.process rt store readings ref = outcome at processes served ⊢
  cases processes with
  | classifyRaised => exact ⟨rfl, rfl, rfl, rfl, served, rfl⟩
  | @filtered prepared _ drops =>
      have counts := filterCounts prepared
      rw [if_pos drops] at counts
      exact ⟨rfl, rfl, counts, rfl, served,
        congrArg (·.accounted + 1) (Engine.recordDropped_stats _ _ _)⟩
  | @compressRaised prepared _ _ passes =>
      have counts := filterCounts prepared
      rw [if_neg (Bool.eq_false_iff.mp passes)] at counts
      exact ⟨rfl, rfl, counts, rfl, served, rfl⟩
  | @admitted prepared compression _ passes compresses =>
      have counts := filterCounts prepared
      rw [if_neg (Bool.eq_false_iff.mp passes)] at counts
      have enqueued := optimizer.engine.enqueue_accounted positive
        (store.set ref (compressedPacket prepared.packet compression)) readings.arrival ref
      refine ⟨rfl, rfl, counts, ?_, served, ?_⟩
      · exact congrArg (optimizer.totalBytesSaved + ·)
          (PayloadCompressor.compress_saves compresses)
      · exact (congrArg (·.accounted) (Engine.recordDelivered_stats _ _ _)).trans enqueued

theorem dequeue_addsUp (optimizer : BandwidthOptimizer) (store : Store) :
    AddsUp optimizer (optimizer.dequeue store).2 (.packet (optimizer.dequeue store).1) where
  received := rfl
  dropped := rfl
  filtered := rfl
  saved := rfl
  served := optimizer.engine.dequeue_served store
  accounted := optimizer.engine.dequeue_accounted store

/-- Every call but a reset adds what its reply shows. -/
theorem call_addsUp {state : BandwidthOptimizer × Store} (positive : 0 < state.1.engine.maxSize)
    (rt : Runtime) {call : OptimizerCall} (counted : call.resets = false) :
    AddsUp state.1 (BandwidthOptimizer.call rt state call).2.1
      (BandwidthOptimizer.call rt state call).1 := by
  cases call with
  | process ref readings => exact process_addsUp positive rt state.2 readings ref
  | dequeue => exact dequeue_addsUp state.1 state.2
  | drain =>
      exact ⟨rfl, rfl, rfl, rfl, state.1.engine.drain_served state.2,
        state.1.engine.drain_accounted state.2⟩
  | drainNext =>
      simp only [BandwidthOptimizer.call]
      split
      next => exact ⟨rfl, rfl, rfl, rfl, rfl, rfl⟩
      next => exact dequeue_addsUp state.1 state.2
  | resetStats => cases counted

end BandwidthOptimizer

/-! ## Whole runs -/

theorem lengthAtReset_snoc (rt : Runtime) (offset : Nat) (state : BandwidthOptimizer × Store)
    (calls : List OptimizerCall) (call : OptimizerCall) :
    lengthAtReset rt offset state (calls ++ [call]) =
      (Machine.run (BandwidthOptimizer.call rt) state calls).2.1.nextOffset
        (lengthAtReset rt offset state calls) call := by
  induction calls generalizing state offset with
  | nil => rfl
  | cons first rest ih => exact ih _ _

/-- The statistics say what the replies of `seen` have shown, with `carried` packets queued before
the first of them. -/
structure StatsTell (stats : OptimizerStats) (seen : List OptimizerReply) (carried : Nat) :
    Prop where
  received : stats.packetsReceived = (seen.map OptimizerReply.received).sum
  dropped : stats.packetsDropped = (seen.map OptimizerReply.dropped).sum
  byPriority : ∑ priority, stats.dropsByPriority priority = stats.packetsDropped
  saved : stats.bytesSavedCompression = (seen.map OptimizerReply.bytesSaved).sum
  served : ∑ priority, stats.queue.dequeueCounts priority =
    (seen.map OptimizerReply.served).sum
  balance : stats.packetsReceived + carried =
    stats.packetsDropped + ∑ priority, stats.queue.dequeueCounts priority +
      stats.queue.currentQueueSize + stats.queue.droppedOverflow +
      (seen.map OptimizerReply.failed).sum

namespace BandwidthOptimizer

section Run

variable (rt : Runtime) {config : OptimizerConfig} {policy : Option FlowValuePolicy}
variable {start : BandwidthOptimizer × Store}

/-- A total that a reset clears, and to which any other call adds what its reply shows. -/
theorem run_total (total : BandwidthOptimizer → Nat) {weight : OptimizerReply → Nat}
    (cleared : ∀ optimizer : BandwidthOptimizer, total optimizer.resetStats = 0)
    (added : ∀ {optimizer next : BandwidthOptimizer} {reply : OptimizerReply},
      AddsUp optimizer next reply → total next = total optimizer + weight reply)
    (configured : start.1.Configured config policy) (fresh : total start.1 = 0)
    (calls : List OptimizerCall) :
    total (Machine.run (call rt) start calls).2.1 =
      ((Machine.sinceReset OptimizerCall.resets calls
        (Machine.run (call rt) start calls).1).map weight).sum := by
  have kept (state : BandwidthOptimizer × Store) (input : OptimizerCall)
      (before : state.1.Configured config policy) :
      (call rt state input).2.1.Configured config policy :=
    call_configured before rt input
  have counts (state : BandwidthOptimizer × Store) (input : OptimizerCall)
      (before : state.1.Configured config policy) :
      total (call rt state input).2.1 =
        if input.resets then 0 else total state.1 + weight (call rt state input).1 := by
    cases resets : input.resets with
    | false => exact added (call_addsUp before.positive rt resets)
    | true =>
        cases input with
        | resetStats => exact cleared state.1
        | process | dequeue | drain | drainNext => cases resets
  exact Machine.counter_eq_sum (fun state => total state.1) kept counts configured
    fresh calls

/-- The balance of a run, in which the calls that raised have a place of their own. -/
theorem run_balance (configured : start.1.Configured config policy)
    (fresh : start.1.totalIn = start.1.totalDropped + start.1.engine.stats.accounted)
    (calls : List OptimizerCall) :
    let run := Machine.run (call rt) start calls
    run.2.1.totalIn + lengthAtReset rt 0 start calls =
      run.2.1.totalDropped + run.2.1.engine.stats.accounted +
        ((Machine.sinceReset OptimizerCall.resets calls run.1).map OptimizerReply.failed).sum := by
  induction calls using List.reverseRecOn with
  | nil => exact fresh
  | append_singleton calls input ih =>
      intro run
      have reached := run_configured configured rt calls
      have since := Machine.sinceReset_snoc (call rt) OptimizerCall.resets start calls input
      have final : run.2 = (call rt (Machine.run (call rt) start calls).2 input).2 :=
        Machine.run_snoc_final (call rt) start calls input
      rw [lengthAtReset_snoc, since, final]
      cases resets : input.resets with
      | false =>
          have adds := call_addsUp reached.positive rt resets
          have offset (state : BandwidthOptimizer) (carried : Nat) :
              state.nextOffset carried input = carried := by
            cases input with
            | resetStats => cases resets
            | process | dequeue | drain | drainNext => rfl
          have received := adds.received
          have dropped := adds.dropped
          have accounted := adds.accounted
          simp only [offset, Bool.false_eq_true, if_false, List.map_append, List.map_cons,
            List.map_nil, List.sum_append, List.sum_cons, List.sum_nil] at ih ⊢
          omega
      | true =>
          cases input with
          | resetStats =>
              have accounted := Engine.resetStats_accounted
                (Machine.run (call rt) start calls).2.1.engine
              simp only [if_true, List.map_nil, List.sum_nil]
              change 0 + (Machine.run (call rt) start calls).2.1.engine.length =
                0 + (Machine.run (call rt) start calls).2.1.engine.resetStats.stats.accounted + 0
              rw [accounted, Nat.add_zero]
          | process | dequeue | drain | drainNext => cases resets

end Run

end BandwidthOptimizer

/-- In every run of calls, raising or not, whatever the configuration, the mode and the rules, the
statistics are what the replies since the last reset add up to, and the packets on which calls
raised are the only ones that are neither dropped, served, queued nor lost to overflow. -/
theorem stats_tell_replies (rt : Runtime) (config : OptimizerConfig)
    (policy : Option FlowValuePolicy) (clock : TrafficPriority → ℚ)
    (fresh : BandwidthOptimizer)
    (constructed : BandwidthOptimizer.init config policy clock = .ok fresh)
    (classifier : TrafficClassifier) (store : Store) (calls : List OptimizerCall)
    (statsClock : Nat → ℚ) :
    let start := ({ fresh with classifier := classifier }, store)
    let run := Machine.run (BandwidthOptimizer.call rt) start calls
    StatsTell (run.2.1.stats statsClock) (Machine.sinceReset OptimizerCall.resets calls run.1)
      (lengthAtReset rt 0 start calls) := by
  intro start run
  have fromFresh := BandwidthOptimizer.init_configured constructed
  have configured : start.1.Configured config policy :=
    ⟨fromFresh.configEq, fromFresh.filterEq, fromFresh.policyEq, fromFresh.limitEq⟩
  have balanced := BandwidthOptimizer.init_balanced constructed
  have idle : fresh.engine.served = 0 := by
    rw [BandwidthOptimizer.init_engine constructed]
    cases policy <;> exact Finset.sum_const_zero
  obtain ⟨packetFilter, filtered, rfl⟩ := BandwidthOptimizer.init_eq_ok constructed
  have unfiltered : ∑ priority, packetFilter.dropCounts priority = 0 := balanced.dropped.symm
  have received := BandwidthOptimizer.run_total rt (·.totalIn) (fun _ => rfl) AddsUp.received
    configured rfl calls
  have dropped := BandwidthOptimizer.run_total rt (·.totalDropped) (fun _ => rfl) AddsUp.dropped
    configured rfl calls
  have byPriority := BandwidthOptimizer.run_total rt
    (fun optimizer => ∑ priority, optimizer.packetFilter.dropCounts priority)
    (fun _ => Finset.sum_const_zero) AddsUp.filtered configured unfiltered calls
  have saved := BandwidthOptimizer.run_total rt (·.totalBytesSaved) (fun _ => rfl) AddsUp.saved
    configured rfl calls
  have served := BandwidthOptimizer.run_total rt (fun optimizer => optimizer.engine.served)
    (fun optimizer => optimizer.engine.resetStats_served) AddsUp.served configured idle calls
  have balance := BandwidthOptimizer.run_balance rt configured balanced.received calls
  refine ⟨received, dropped, byPriority.trans dropped.symm, saved, served, ?_⟩
  simp only [SchedulerStats.accounted] at balance
  simp only [run, BandwidthOptimizer.stats]
  omega

/-- The statistics after a packet on which zlib raises, a dequeue and a reset. -/
theorem stats_tell_replies_raising :
    ∃ fresh, BandwidthOptimizer.init {} none (fun _ => 0) = .ok fresh ∧
      let start : BandwidthOptimizer × Store := ({ fresh with classifier := fresh.classifier },
        fun _ => { priority := some .critical, payload := List.replicate 300 97 })
      let calls := [.process 0 (.frozen 0 0), .dequeue, .resetStats, .process 1 (.frozen 0 0)]
      let run := Machine.run (BandwidthOptimizer.call .plain) start calls
      StatsTell (run.2.1.stats fun _ => 0)
        (Machine.sinceReset OptimizerCall.resets calls run.1)
        (lengthAtReset .plain 0 start calls) := by
  obtain ⟨fresh, constructed⟩ := BandwidthOptimizer.default_constructs
  exact ⟨fresh, constructed, stats_tell_replies .plain {} none (fun _ => 0) fresh constructed
    fresh.classifier _ _ _⟩

end SmartBandwidth

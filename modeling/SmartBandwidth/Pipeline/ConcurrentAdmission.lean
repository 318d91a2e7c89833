import SmartBandwidth.Pipeline.Processing
import SmartBandwidth.Lib.Dict
import SmartBandwidth.Lib.Replay

/-!
# Admission under concurrent calls

The filter reads the length of the queue, and the scheduler takes its lock later.  Between
the two steps of one call other calls may fill the queue, so that a packet which RED let
through is refused after all, and `process` still reports it as not dropped.
-/

namespace SmartBandwidth

namespace BandwidthOptimizer

/-! ## The two steps of `process` -/

/-- How the filter step of a call ends: the call is over, or its packet goes on to the
scheduler with its flow record. -/
inductive Filtered where
  | finished (result : Except PyError ProcessResult)
  | passed (record : FlowRecord)

/-- The first step of `process`: stages 0 to 2. -/
def filterStep (rt : Runtime) (optimizer : BandwidthOptimizer) (store : Store)
    (readings : ProcessReadings) (ref : PacketRef) : Filtered × BandwidthOptimizer × Store :=
  let tracked := optimizer.flowTracker.update rt (store ref) readings.flow
  let optimizer := { optimizer with
    totalIn := optimizer.totalIn + 1
    flowTracker := tracked.2 }
  match optimizer.prepare rt tracked (store ref) with
  | .error raised => (.finished (.error raised), optimizer, store)
  | .ok prepared =>
      let optimizer := { optimizer with flowTracker := prepared.flowTracker }
      let store := store.set ref prepared.packet
      let packet := store ref
      let (decision, packetFilter) := optimizer.packetFilter.shouldDrop packet
        (some optimizer.engine.length) readings.refill readings.draw
      let optimizer := { optimizer with packetFilter := packetFilter }
      if decision.drop then
        (.finished (.ok {
            packet := ref
            dropped := true
            dropReason := decision.reason
            flowRecord := some prepared.record }),
          { optimizer with
            engine := optimizer.engine.recordDropped packet.valueCoefficient readings.record
            totalDropped := optimizer.totalDropped + 1 },
          store)
      else
        (.passed prepared.record, optimizer, store)

/-- The two steps with nothing between them are `process`. -/
theorem process_eq_filterStep (rt : Runtime) (optimizer : BandwidthOptimizer) (store : Store)
    (readings : ProcessReadings) (ref : PacketRef) :
    optimizer.process rt store readings ref =
      match optimizer.filterStep rt store readings ref with
      | (.finished result, optimizer, store) => (result, optimizer, store)
      | (.passed record, optimizer, store) =>
          optimizer.deliver rt store readings ref record := by
  simp only [process, filterStep, filterStage]
  generalize prepare rt _ _ _ = preparation
  cases preparation with
  | error raised => rfl
  | ok prepared =>
      simp only
      split <;> rfl

/-- The scheduler's answer in the second step of `process`, which compresses and
enqueues; there is none if compression raises. -/
def answer (rt : Runtime) (optimizer : BandwidthOptimizer) (store : Store)
    (readings : ProcessReadings) (ref : PacketRef) : Option Bool :=
  match PayloadCompressor.compress rt optimizer.config (store ref).payload with
  | .error _ => none
  | .ok result =>
      some (optimizer.engine.enqueue (store.set ref (compressedPacket (store ref) result))
        readings.arrival ref).1

end BandwidthOptimizer

/-! ## Concurrent calls -/

/-- A call between its two steps. -/
structure PassedCall where
  ref : PacketRef
  readings : ProcessReadings
  record : FlowRecord

/-- A finished call: its result, and what the scheduler answered if it was asked. -/
structure FinishedCall where
  result : Except PyError ProcessResult
  answer : Option Bool

/-- An optimizer, its packets, the calls between their two steps, by thread, and the
finished calls. -/
structure ProcessCalls where
  optimizer : BandwidthOptimizer
  store : Store
  passed : Dict Nat PassedCall
  finished : List FinishedCall

/-- A step of some thread: the filter step of a call, its enqueue step, or a `dequeue`. -/
inductive ProcessAction where
  | filter (thread : Nat) (ref : PacketRef) (readings : ProcessReadings)
  | enqueue (thread : Nat)
  | dequeue

namespace ProcessCalls

/-- No call has begun. -/
def init (optimizer : BandwidthOptimizer) (store : Store) : ProcessCalls where
  optimizer := optimizer
  store := store
  passed := .empty
  finished := []

/-- The filter step of a call. -/
def filter (rt : Runtime) (calls : ProcessCalls) (thread : Nat) (ref : PacketRef)
    (readings : ProcessReadings) : ProcessCalls :=
  match calls.optimizer.filterStep rt calls.store readings ref with
  | (.finished result, optimizer, store) =>
      { calls with
        optimizer := optimizer
        store := store
        finished := calls.finished ++ [{ result := result, answer := none }] }
  | (.passed record, optimizer, store) =>
      { calls with
        optimizer := optimizer
        store := store
        passed := calls.passed.set thread
          { ref := ref, readings := readings, record := record } }

/-- The enqueue step of a call. -/
def enqueue (rt : Runtime) (calls : ProcessCalls) (thread : Nat) (call : PassedCall) :
    ProcessCalls :=
  let answer := calls.optimizer.answer rt calls.store call.readings call.ref
  let (result, optimizer, store) :=
    calls.optimizer.deliver rt calls.store call.readings call.ref call.record
  { optimizer := optimizer
    store := store
    passed := calls.passed.erase thread
    finished := calls.finished ++ [{ result := result, answer := answer }] }

/-- A step of a thread, if the thread is there. -/
def perform (rt : Runtime) (calls : ProcessCalls) : ProcessAction → Option ProcessCalls
  | .filter thread ref readings =>
      match calls.passed.get? thread with
      | none => some (calls.filter rt thread ref readings)
      | some _ => none
  | .enqueue thread =>
      match calls.passed.get? thread with
      | none => none
      | some call => some (calls.enqueue rt thread call)
  | .dequeue =>
      some { calls with optimizer := (calls.optimizer.dequeue calls.store).2 }

/-- Every call that has returned without a drop had its packet accepted. -/
def Honest (calls : ProcessCalls) : Prop :=
  ∀ call ∈ calls.finished, ∀ result, call.result = .ok result → result.dropped = false →
    call.answer = some true

end ProcessCalls

/-! ## When the scheduler refuses -/

/-- The queue is full of packets that are all sorted before the packet. -/
def Engine.Outranks (packet : Packet) : Engine → Prop
  | .plain scheduler => scheduler.maxSize ≤ scheduler.heap.length ∧
      ∀ queued ∈ scheduler.heap, queued.key < PriorityScheduler.key packet
  | .pvm _ scheduler _ => scheduler.maxSize ≤ scheduler.heap.length ∧
      ∀ queued ∈ scheduler.heap, queued.key < ValueScheduler.key packet

/-- The engine accepts a packet exactly when its queue does not outrank it. -/
theorem Engine.enqueue_accepts_iff {engine : Engine} (positive : 0 < engine.maxSize)
    (store : Store) (now : ℚ) (ref : PacketRef) :
    (engine.enqueue store now ref).1 = true ↔ ¬ engine.Outranks (store ref) := by
  cases engine with
  | plain scheduler =>
      have inserts := scheduler.draw.insertEntry_inserts positive
        (store ref).effectivePriority
        (scheduler.arriving PriorityScheduler.key ((store ref).stamped now) ref)
      simp only [Engine.enqueue, PriorityScheduler.enqueue, Scheduler.enqueue, Store.set_self]
      exact inserts.accepted_iff
  | pvm policy scheduler tracker =>
      have inserts := scheduler.draw.insertEntry_inserts positive
        (store ref).effectivePriority
        (scheduler.arriving ValueScheduler.key ((store ref).stamped now) ref)
      simp only [Engine.enqueue, ValueScheduler.enqueue, Scheduler.enqueue, Store.set_self]
      exact inserts.accepted_iff

/-- Compression does not change how a packet is sorted. -/
theorem Engine.outranks_compressedPacket (engine : Engine) (packet : Packet)
    (result : CompressionResult) :
    engine.Outranks (BandwidthOptimizer.compressedPacket packet result) ↔
      engine.Outranks packet := by
  have samePriority : (BandwidthOptimizer.compressedPacket packet result).effectivePriority =
      packet.effectivePriority := by
    rw [Packet.effectivePriority, compressedPacket_priority, Packet.effectivePriority]
  cases engine with
  | plain scheduler => simp only [Outranks, PriorityScheduler.key, samePriority]
  | pvm policy scheduler tracker =>
      simp only [Outranks, ValueScheduler.key, ValueScheduler.effectiveValue, samePriority,
        compressedPacket_valueCoefficient]

namespace ProcessCalls

/-- The enqueue step does not come upon a queue that outranks its packet, unless
compression raises before. -/
def NotOutranked (rt : Runtime) (calls : ProcessCalls) : ProcessAction → Prop
  | .enqueue thread => ∀ call, calls.passed.get? thread = some call →
      (∃ compression, PayloadCompressor.compress rt calls.optimizer.config
        (calls.store call.ref).payload = .ok compression) →
      ¬ calls.optimizer.engine.Outranks (calls.store call.ref)
  | .filter _ _ _ => True
  | .dequeue => True

section Steps

variable {rt : Runtime} {calls : ProcessCalls}

/-- One more finished call is honest or not. -/
theorem honest_snoc {next : ProcessCalls} {call : FinishedCall}
    (extended : next.finished = calls.finished ++ [call]) :
    next.Honest ↔ calls.Honest ∧ ∀ result, call.result = .ok result →
      result.dropped = false → call.answer = some true := by
  simp only [Honest, extended, List.forall_mem_append, List.forall_mem_singleton]

/-- A call that ends at the filter has raised or dropped its packet. -/
theorem filterStep_finished {optimizer next : BandwidthOptimizer} {store stored : Store}
    {readings : ProcessReadings} {ref : PacketRef} {result : Except PyError ProcessResult}
    (finishes : optimizer.filterStep rt store readings ref =
      (.finished result, next, stored)) {returned : ProcessResult}
    (returns : result = .ok returned) : returned.dropped = true := by
  simp only [BandwidthOptimizer.filterStep] at finishes
  split at finishes
  next =>
    cases finishes
    cases returns
  next =>
    split at finishes
    next =>
      cases finishes
      cases returns
      rfl
    next => cases finishes

/-- What the enqueue step tells and what the scheduler answers. -/
theorem deliver_answer (positive : 0 < calls.optimizer.engine.maxSize) (call : PassedCall) :
    (∀ result,
      (calls.optimizer.deliver rt calls.store call.readings call.ref call.record).1 =
        .ok result → result.dropped = false →
        calls.optimizer.answer rt calls.store call.readings call.ref = some true) ↔
      ((∃ compression, PayloadCompressor.compress rt calls.optimizer.config
        (calls.store call.ref).payload = .ok compression) →
        ¬ calls.optimizer.engine.Outranks (calls.store call.ref)) := by
  simp only [BandwidthOptimizer.deliver, BandwidthOptimizer.answer]
  cases compresses : PayloadCompressor.compress rt calls.optimizer.config
      (calls.store call.ref).payload with
  | error raised => simp
  | ok compression =>
      simp only [Except.ok.injEq, forall_eq', forall_const, Option.some.injEq, exists_eq',
        Engine.enqueue_accepts_iff positive, Store.set_self,
        Engine.outranks_compressedPacket]

/-- What a step can do. -/
inductive Performs (rt : Runtime) (calls : ProcessCalls) : ProcessAction → ProcessCalls → Prop where
  | filter {thread : Nat} {ref : PacketRef} {readings : ProcessReadings} :
      Performs rt calls (.filter thread ref readings) (calls.filter rt thread ref readings)
  | enqueue {thread : Nat} {call : PassedCall} : calls.passed.get? thread = some call →
      Performs rt calls (.enqueue thread) (calls.enqueue rt thread call)
  | dequeue : Performs rt calls .dequeue
      { calls with optimizer := (calls.optimizer.dequeue calls.store).2 }

theorem performs_of_perform {action : ProcessAction} {next : ProcessCalls}
    (performed : calls.perform rt action = some next) : Performs rt calls action next := by
  cases action with
  | filter thread ref readings =>
      simp only [perform] at performed
      split at performed
      · cases performed
        exact .filter
      · cases performed
  | enqueue thread =>
      simp only [perform] at performed
      split at performed
      · cases performed
      next call begun =>
        cases performed
        exact .enqueue begun
  | dequeue =>
      cases performed
      exact .dequeue

theorem filterStep_maxSize (rt : Runtime) (optimizer : BandwidthOptimizer) (store : Store)
    (readings : ProcessReadings) (ref : PacketRef) :
    (optimizer.filterStep rt store readings ref).2.1.engine.maxSize =
      optimizer.engine.maxSize := by
  simp only [BandwidthOptimizer.filterStep]
  split
  next => rfl
  next =>
    split
    next => exact (optimizer.engine.recordDropped_kept _ _).1
    next => rfl

theorem deliver_maxSize (rt : Runtime) (optimizer : BandwidthOptimizer) (store : Store)
    (readings : ProcessReadings) (ref : PacketRef) (record : FlowRecord) :
    (optimizer.deliver rt store readings ref record).2.1.engine.maxSize =
      optimizer.engine.maxSize := by
  simp only [BandwidthOptimizer.deliver]
  split
  next => rfl
  next =>
    exact (Engine.recordDelivered_kept _ _ _).1.trans (optimizer.engine.enqueue_kept _ _ _).1

/-- No step changes the limit of the queue. -/
theorem perform_maxSize {action : ProcessAction} {next : ProcessCalls}
    (performed : calls.perform rt action = some next) :
    next.optimizer.engine.maxSize = calls.optimizer.engine.maxSize := by
  cases performs_of_perform performed with
  | @filter thread ref readings =>
      have kept := filterStep_maxSize rt calls.optimizer calls.store readings ref
      simp only [filter]
      split
      next stepped =>
        rw [stepped] at kept
        exact kept
      next stepped =>
        rw [stepped] at kept
        exact kept
  | enqueue => exact deliver_maxSize rt _ _ _ _ _
  | dequeue => exact (calls.optimizer.engine.dequeue_kept calls.store).1

/-- A step keeps honesty exactly when it is not an enqueue step that is outranked. -/
theorem perform_honest_iff (positive : 0 < calls.optimizer.engine.maxSize)
    {action : ProcessAction} {next : ProcessCalls}
    (performed : calls.perform rt action = some next) :
    next.Honest ↔ calls.Honest ∧ calls.NotOutranked rt action := by
  cases performs_of_perform performed with
  | @filter thread ref readings =>
      simp only [filter, NotOutranked, and_true]
      split
      next result optimizer store stepped =>
        rw [honest_snoc rfl, and_iff_left]
        intro returned returns kept
        rw [filterStep_finished stepped returns] at kept
        cases kept
      next => exact Iff.rfl
  | @enqueue thread call begun =>
      rw [honest_snoc rfl, NotOutranked]
      apply and_congr_right'
      simp only [begun, Option.some.injEq, forall_eq']
      exact deliver_answer positive call
  | dequeue =>
      simp only [Honest, NotOutranked, and_true]

end Steps

/-- Over any interleaving of calls on an optimizer without a value policy, every call that
has returned without a drop had its packet accepted, exactly as long as no enqueue step
has come upon a queue full of more important packets. -/
theorem honest_iff_notOutranked (rt : Runtime) (config : OptimizerConfig)
    (clock : TrafficPriority → ℚ) (fresh : BandwidthOptimizer)
    (constructed : BandwidthOptimizer.init config none clock = .ok fresh)
    (classifier : TrafficClassifier) (store : Store) (actions : List ProcessAction)
    (calls : ProcessCalls)
    (replays : replay (perform rt) (init { fresh with classifier := classifier } store)
      actions = some calls) :
    calls.Honest ↔
      replay.Meets (perform rt) (NotOutranked rt)
        (init { fresh with classifier := classifier } store) actions := by
  have positive : 0 < fresh.engine.maxSize :=
    (BandwidthOptimizer.init_configured constructed).positive
  have exact_step : ∀ state action next, perform rt state action = some next →
      ((0 < next.optimizer.engine.maxSize ∧ next.Honest) ↔
        (0 < state.optimizer.engine.maxSize ∧ state.Honest) ∧ state.NotOutranked rt action) := by
    intro state action next performs
    rw [perform_maxSize performs, and_assoc]
    exact and_congr_right fun room => perform_honest_iff room performs
  have kept : ∀ state action next,
      state.optimizer.engine.maxSize = fresh.engine.maxSize →
      perform rt state action = some next →
      next.optimizer.engine.maxSize = fresh.engine.maxSize :=
    fun _ _ _ before performs => (perform_maxSize performs).trans before
  have limit := replay.preserves kept rfl replays
  have starts : (init { fresh with classifier := classifier } store).Honest :=
    fun call member => nomatch member
  have exact_run := replay.property_iff_meets exact_step replays
  rw [limit] at exact_run
  simpa only [positive, true_and, starts, and_self,
    show 0 < (init { fresh with classifier := classifier } store).optimizer.engine.maxSize
      from positive] using exact_run

/-- Packet 0 is of high and every other packet of low class. -/
def highThenLow : Store := fun ref =>
  { priority := some (if ref = 0 then .high else .low) }

/-- What each finished call told about its packet, and what the scheduler answered. -/
def toldAndAnswered (calls : ProcessCalls) : List (Option Bool × Option Bool) :=
  calls.finished.map fun call => (call.result.toOption.map ProcessResult.dropped, call.answer)

/-- A run on a queue of one packet, evaluated. -/
theorem singleSlot_replays (actions : List ProcessAction)
    (told : List (Option Bool × Option Bool))
    (evaluated : (BandwidthOptimizer.init singleSlot none fun _ => 0).toOption.bind
      (fun fresh => (replay (perform .plain) (init fresh highThenLow) actions).map
        toldAndAnswered) = some told) :
    ∃ fresh calls, BandwidthOptimizer.init singleSlot none (fun _ => 0) = .ok fresh ∧
      replay (perform .plain) (init fresh highThenLow) actions = some calls ∧
      toldAndAnswered calls = told := by
  obtain ⟨fresh, constructed⟩ :
      ∃ fresh, BandwidthOptimizer.init singleSlot none (fun _ => 0) = .ok fresh := by
    apply BandwidthOptimizer.init_constructs
    decide +kernel
  rw [constructed] at evaluated
  obtain ⟨calls, replays, toldEq⟩ := Option.map_eq_some_iff.mp evaluated
  exact ⟨fresh, calls, constructed, replays, toldEq⟩

/-- Calls that are told and answered alike are honest. -/
theorem honest_iff_told {calls : ProcessCalls} :
    calls.Honest ↔ ∀ entry ∈ toldAndAnswered calls, entry.1 = some false →
      entry.2 = some true := by
  simp only [Honest, toldAndAnswered, List.forall_mem_map]
  constructor
  · intro honest call member told
    cases returns : call.result with
    | error raised => simp [returns, Except.toOption] at told
    | ok result =>
        simp only [returns, Except.toOption, Option.map_some, Option.some.injEq] at told
        exact honest call member result returns told
  · intro agree call member result returns kept
    apply agree call member
    simp [returns, Except.toOption, kept]

/-- Two calls pass the filter before either packet is queued, the low one first: no queue
outranks its packet. -/
theorem honest_iff_notOutranked_interleaved :
    ∃ fresh, BandwidthOptimizer.init singleSlot none (fun _ => 0) = .ok fresh ∧
      replay.Meets (perform .plain) (NotOutranked .plain) (init fresh highThenLow)
        [.filter 0 1 (.frozen 0 0), .filter 1 0 (.frozen 0 0), .enqueue 0, .enqueue 1] := by
  obtain ⟨fresh, calls, constructed, replays, told⟩ := singleSlot_replays
    [.filter 0 1 (.frozen 0 0), .filter 1 0 (.frozen 0 0), .enqueue 0, .enqueue 1]
    [(some false, some true), (some false, some true)] (by decide +kernel)
  refine ⟨fresh, constructed, ?_⟩
  apply (honest_iff_notOutranked .plain singleSlot (fun _ => 0) fresh constructed
    fresh.classifier highThenLow _ calls replays).mp
  rw [honest_iff_told, told]
  decide

/-- Two packets pass RED on the same empty queue of one; the second is refused, and its
call returns without a drop. -/
theorem refused_packet_reported_queued :
    1 ≤ singleSlot.maxQueueSize ∧ singleSlot.redMinThreshold ≤ singleSlot.redMaxThreshold ∧
      singleSlot.redMaxThreshold ≤ 1 ∧
      ∃ fresh calls, BandwidthOptimizer.init singleSlot none (fun _ => 0) = .ok fresh ∧
        replay (perform .plain) (init fresh highThenLow)
          [.filter 0 0 (.frozen 0 0), .filter 1 1 (.frozen 0 0), .enqueue 0, .enqueue 1] =
            some calls ∧
        ¬ calls.Honest := by
  obtain ⟨fresh, calls, constructed, replays, told⟩ :=
    singleSlot_replays
      [.filter 0 0 (.frozen 0 0), .filter 1 1 (.frozen 0 0), .enqueue 0, .enqueue 1]
      [(some false, some true), (some false, some false)] (by decide +kernel)
  refine ⟨by decide, by decide +kernel, by decide +kernel, fresh, calls, constructed, replays,
    ?_⟩
  rw [honest_iff_told, told]
  decide

end ProcessCalls

end SmartBandwidth

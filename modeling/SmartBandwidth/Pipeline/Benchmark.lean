import SmartBandwidth.Pipeline.Processing
import Mathlib.Tactic.Linarith

/-!
# The benchmark's staged path

To time the stages one by one the benchmark runs them itself instead of calling
`process`.  Its copy of the pipeline counts a packet only when it returns, and it knows
nothing of value coefficients and value books.
-/

namespace SmartBandwidth

namespace BandwidthOptimizer

/-- `_process_with_stage_timing`, without the time samples. -/
def processWithStageTiming (rt : Runtime) (optimizer : BandwidthOptimizer) (store : Store)
    (readings : ProcessReadings) (ref : PacketRef) :
    Except PyError ProcessResult × BandwidthOptimizer × Store :=
  let (record, flowTracker) := optimizer.flowTracker.update rt (store ref) readings.flow
  let optimizer := { optimizer with flowTracker := flowTracker }
  match classifyStage rt optimizer.classifier (store ref) with
  | .error raised => (.error raised, optimizer, store)
  | .ok classified =>
      let packet := hintStage flowTracker record classified
      let store := store.set ref packet
      let (decision, packetFilter) := optimizer.packetFilter.shouldDrop packet
        (some optimizer.engine.length) readings.refill readings.draw
      let optimizer := { optimizer with packetFilter := packetFilter }
      if decision.drop then
        (.ok {
            packet := ref
            dropped := true
            dropReason := decision.reason
            flowRecord := some record },
          { optimizer with
            totalIn := optimizer.totalIn + 1
            totalDropped := optimizer.totalDropped + 1 },
          store)
      else
        match PayloadCompressor.compress rt optimizer.config packet.payload with
        | .error raised => (.error raised, optimizer, store)
        | .ok result =>
            let compressed := compressedPacket packet result
            let saved := if result.wasCompressed then result.spaceSavedBytes else 0
            let (_, engine, store) :=
              optimizer.engine.enqueue (store.set ref compressed) readings.arrival ref
            (.ok {
                packet := ref
                dropped := false
                compressed := result.wasCompressed
                originalPayloadSize := packet.payload.length
                compressedPayloadSize := compressed.payload.length
                flowRecord := some record },
              { optimizer with
                engine := engine
                totalIn := optimizer.totalIn + 1
                totalBytesSaved := optimizer.totalBytesSaved + saved },
              store)

/-- Neither classification nor, for a packet that passes the filter, compression raises. -/
def RaisesNothing (rt : Runtime) (optimizer : BandwidthOptimizer) (store : Store)
    (readings : ProcessReadings) (ref : PacketRef) : Prop :=
  ∃ prepared, optimizer.preparation rt store readings ref = .ok prepared ∧
    ((optimizer.filtering readings prepared).1.drop = false →
      ∃ result, PayloadCompressor.compress rt optimizer.config prepared.packet.payload =
        .ok result)

section Paths

variable {rt : Runtime} {optimizer : BandwidthOptimizer} {store : Store}
variable {readings : ProcessReadings} {ref : PacketRef}

/-- The staged path does not count a packet on which it raises. -/
theorem processWithStageTiming_totalIn {raised : PyError}
    (raises : (optimizer.processWithStageTiming rt store readings ref).1 = .error raised) :
    (optimizer.processWithStageTiming rt store readings ref).2.1.totalIn =
      optimizer.totalIn := by
  revert raises
  simp only [processWithStageTiming]
  cases classifyStage rt optimizer.classifier (store ref) with
  | error raised => exact fun _ => rfl
  | ok classified =>
      simp only
      split
      next => exact nofun
      next =>
        split
        next => exact fun _ => rfl
        next => exact nofun

theorem process_returns_iff :
    (∃ result, (optimizer.process rt store readings ref).1 = .ok result) ↔
      optimizer.RaisesNothing rt store readings ref := by
  have processes := optimizer.process_processes rt store readings ref
  generalize optimizer.process rt store readings ref = outcome at processes ⊢
  cases processes with
  | classifyRaised raises =>
      constructor
      · rintro ⟨_, returns⟩
        cases returns
      · rintro ⟨_, prepares, _⟩
        rw [raises] at prepares
        cases prepares
  | filtered prepares drops =>
      constructor
      · intro _
        refine ⟨_, prepares, fun passes => ?_⟩
        rw [drops] at passes
        cases passes
      · intro _
        exact ⟨_, rfl⟩
  | compressRaised prepares passes raises =>
      constructor
      · rintro ⟨_, returns⟩
        cases returns
      · rintro ⟨_, prepares', compresses⟩
        cases prepares.symm.trans prepares'
        obtain ⟨_, compresses⟩ := compresses passes
        rw [raises] at compresses
        cases compresses
  | admitted prepares passes compresses =>
      constructor
      · intro _
        exact ⟨_, prepares, fun _ => ⟨_, compresses⟩⟩
      · intro _
        exact ⟨_, rfl⟩

/-- The staged path leaves the value books alone. -/
theorem processWithStageTiming_valueTracker :
    (optimizer.processWithStageTiming rt store readings ref).2.1.engine.valueTracker =
      optimizer.engine.valueTracker := by
  simp only [processWithStageTiming]
  cases classifyStage rt optimizer.classifier (store ref) with
  | error raised => rfl
  | ok classified =>
      simp only
      split
      next => rfl
      next =>
        split
        next => rfl
        next =>
          simp only
          cases optimizer.engine <;> rfl

/-- With a policy, `process` enters every packet on which it returns into the books. -/
theorem process_books {policy : FlowValuePolicy} {scheduler : ValueScheduler}
    {tracker : ValueLossTracker} (engineEq : optimizer.engine = .pvm policy scheduler tracker)
    {result : ProcessResult}
    (returns : (optimizer.process rt store readings ref).1 = .ok result) :
    ∃ value, (optimizer.process rt store readings ref).2.1.engine.valueTracker =
        some (tracker.recordDropped value readings.record) ∨
      (optimizer.process rt store readings ref).2.1.engine.valueTracker =
        some (tracker.recordDelivered value readings.record) := by
  have processes := optimizer.process_processes rt store readings ref
  generalize optimizer.process rt store readings ref = outcome at processes returns ⊢
  cases processes with
  | classifyRaised => cases returns
  | @filtered prepared =>
      refine ⟨prepared.packet.valueCoefficient, .inl ?_⟩
      rw [engineEq]
      rfl
  | compressRaised => cases returns
  | @admitted prepared compression =>
      refine ⟨(compressedPacket prepared.packet compression).valueCoefficient, .inr ?_⟩
      rw [optimizer.scheduling_pvm store readings ref prepared compression engineEq]
      rfl

end Paths

end BandwidthOptimizer

/-! ## The books always change -/

namespace ValueLossTracker

/-- Dropping a prefix never makes up for an event that stays. -/
theorem dropWhile_append_ne {α : Type} {old : α → Bool} {event : α} (stays : old event = false)
    (events : List α) : (events ++ [event]).dropWhile old ≠ events := by
  intro same
  cases events with
  | nil => simp [stays] at same
  | cons first rest =>
      cases dropped : old first with
      | false =>
          rw [List.cons_append, List.dropWhile_cons, dropped] at same
          simp at same
      | true =>
          have head := List.head?_dropWhile_not old (first :: rest ++ [event])
          rw [same, List.head?_cons] at head
          simp [dropped] at head

/-- Eviction never makes up for the event recorded now, unless the window is negative. -/
theorem evicted_ne {window : ℚ} (positive : 0 ≤ window) (value now : ℚ)
    (events : List (ℚ × ℚ)) :
    (events ++ [(now, value)]).dropWhile (fun event => event.1 < now - 2 * window) ≠ events := by
  apply dropWhile_append_ne
  rw [decide_eq_false_iff_not, not_lt]
  linarith

theorem recordDelivered_ne {tracker : ValueLossTracker} (window : 0 ≤ tracker.window)
    (value now : ℚ) : tracker.recordDelivered value now ≠ tracker := fun same =>
  evicted_ne window value now tracker.delivered (congrArg delivered same)

theorem recordDropped_ne {tracker : ValueLossTracker} (window : 0 ≤ tracker.window)
    (value now : ℚ) : tracker.recordDropped value now ≠ tracker := fun same =>
  evicted_ne window value now tracker.dropped (congrArg dropped same)

end ValueLossTracker

/-- The window of the value books, if there are any. -/
def Engine.window (engine : Engine) : Option ℚ :=
  engine.valueTracker.map ValueLossTracker.window

namespace Engine

theorem window_enqueue (engine : Engine) (store : Store) (now : ℚ) (ref : PacketRef) :
    (engine.enqueue store now ref).2.1.window = engine.window := by
  cases engine <;> rfl

theorem window_dequeue (engine : Engine) (store : Store) :
    (engine.dequeue store).2.window = engine.window := by
  cases engine <;> rfl

theorem window_drain (engine : Engine) (store : Store) :
    (engine.drain store).2.window = engine.window := by
  cases engine <;> rfl

theorem window_resetStats (engine : Engine) : engine.resetStats.window = engine.window := by
  cases engine <;> rfl

theorem window_recordDropped (engine : Engine) (value now : ℚ) :
    (engine.recordDropped value now).window = engine.window := by
  cases engine <;> rfl

theorem window_recordDelivered (engine : Engine) (value now : ℚ) :
    (engine.recordDelivered value now).window = engine.window := by
  cases engine <;> rfl

end Engine

/-! ## When the two paths agree -/

namespace BandwidthOptimizer

/-- No call changes the window of the value books. -/
theorem call_window (rt : Runtime) (state : BandwidthOptimizer × Store)
    (input : OptimizerCall) :
    (call rt state input).2.1.engine.window = state.1.engine.window := by
  cases input with
  | process ref readings =>
      have processes := state.1.process_processes rt state.2 readings ref
      simp only [call]
      generalize state.1.process rt state.2 readings ref = outcome at processes ⊢
      cases processes with
      | classifyRaised => rfl
      | filtered => exact state.1.engine.window_recordDropped _ _
      | compressRaised => rfl
      | admitted =>
          exact (Engine.window_recordDelivered _ _ _).trans (state.1.engine.window_enqueue _ _ _)
  | dequeue => exact state.1.engine.window_dequeue state.2
  | drain => exact state.1.engine.window_drain state.2
  | drainNext =>
      simp only [call]
      split
      next => rfl
      next => exact state.1.engine.window_dequeue state.2
  | resetStats => exact state.1.engine.window_resetStats

section Agreement

variable {rt : Runtime} {optimizer : BandwidthOptimizer} {store : Store}
variable {readings : ProcessReadings} {ref : PacketRef}

/-- Without a policy the paths agree where nothing raises. -/
theorem staged_eq_process (noPolicy : optimizer.engine.flowValuePolicy = none)
    (raisesNothing : optimizer.RaisesNothing rt store readings ref) :
    optimizer.processWithStageTiming rt store readings ref =
      optimizer.process rt store readings ref := by
  obtain ⟨prepared, prepares, compresses⟩ := raisesNothing
  obtain ⟨scheduler, engineEq⟩ := Engine.eq_plain noPolicy
  obtain ⟨classified, classifies, rfl⟩ := preparation_eq_ok prepares
  simp only [filtering, engineEq, Engine.flowValuePolicy, valueStage] at compresses
  simp only [processWithStageTiming, process, prepare, classifies, engineEq,
    Engine.flowValuePolicy, valueStage, filterStage, Store.set_self]
  split
  next => rfl
  next passes =>
    obtain ⟨result, compressed⟩ := compresses (Bool.eq_false_iff.mpr passes)
    simp only [deliver, Store.set_self, compressed]
    rfl

/-- Where the paths agree, `process` returns. -/
theorem raisesNothing_of_staged_eq
    (agree : optimizer.processWithStageTiming rt store readings ref =
      optimizer.process rt store readings ref) :
    optimizer.RaisesNothing rt store readings ref := by
  rw [← process_returns_iff]
  cases outcome : (optimizer.process rt store readings ref).1 with
  | ok result => exact ⟨result, rfl⟩
  | error raised =>
      have uncounted := processWithStageTiming_totalIn (agree ▸ outcome)
      rw [agree, process_totalIn] at uncounted
      exact absurd uncounted (Nat.succ_ne_self _)

end Agreement

/-- In every state that calls reach, the window of the books is the constructor's. -/
theorem run_window {config : OptimizerConfig} {policy : Option FlowValuePolicy}
    {clock : TrafficPriority → ℚ} {fresh : BandwidthOptimizer}
    (constructed : init config policy clock = .ok fresh) (classifier : TrafficClassifier)
    (rt : Runtime) (store : Store) (calls : List OptimizerCall) :
    ∀ tracker, (Machine.run (call rt) ({ fresh with classifier := classifier }, store)
      calls).2.1.engine.valueTracker = some tracker → 0 ≤ tracker.window := by
  have starts : fresh.engine.window = none ∨ fresh.engine.window = some 5 := by
    rw [init_engine constructed]
    cases policy with
    | none => exact .inl rfl
    | some values =>
        have five : ValueLossTracker.init.window = 5 := by decide +kernel
        exact .inr (congrArg some five)
  have kept : ∀ (state : BandwidthOptimizer × Store) (input : OptimizerCall),
      state.1.engine.window = fresh.engine.window →
      (call rt state input).2.1.engine.window = fresh.engine.window :=
    fun _ _ before => (call_window rt _ _).trans before
  have reached : (Machine.run (call rt) ({ fresh with classifier := classifier }, store)
      calls).2.1.engine.window = fresh.engine.window := Machine.run_invariant kept rfl calls
  intro tracker present
  rw [← reached, Engine.window, present] at starts
  rcases starts with none | five
  · cases none
  · rw [Option.map_some, Option.some.injEq] at five
    rw [five]
    decide +kernel

/-- The staged path does what `process` does exactly without a value policy and when
neither classification nor compression raises. -/
theorem staged_eq_process_iff (rt : Runtime) (optimizer : BandwidthOptimizer)
    (window : ∀ tracker, optimizer.engine.valueTracker = some tracker → 0 ≤ tracker.window)
    (store : Store) (readings : ProcessReadings) (ref : PacketRef) :
    optimizer.processWithStageTiming rt store readings ref =
        optimizer.process rt store readings ref ↔
      optimizer.engine.flowValuePolicy = none ∧
        optimizer.RaisesNothing rt store readings ref := by
  constructor
  · intro agree
    have raisesNothing := raisesNothing_of_staged_eq agree
    refine ⟨?_, raisesNothing⟩
    cases engineEq : optimizer.engine with
    | plain scheduler => rfl
    | pvm policy scheduler tracker =>
        obtain ⟨result, returns⟩ := process_returns_iff.mpr raisesNothing
        have positive := window tracker (by rw [engineEq]; rfl)
        have unchanged : (optimizer.process rt store readings ref).2.1.engine.valueTracker =
            some tracker := by
          rw [← agree, processWithStageTiming_valueTracker, engineEq]
          rfl
        obtain ⟨value, dropped | delivered⟩ := process_books engineEq returns
        · rw [unchanged, Option.some.injEq] at dropped
          exact absurd dropped.symm (ValueLossTracker.recordDropped_ne positive _ _)
        · rw [unchanged, Option.some.injEq] at delivered
          exact absurd delivered.symm (ValueLossTracker.recordDelivered_ne positive _ _)
  · rintro ⟨noPolicy, raisesNothing⟩
    exact staged_eq_process noPolicy raisesNothing

/-- A short packet with a class takes both paths alike through a default optimizer. -/
theorem staged_eq_process_short :
    ∃ fresh, init {} none (fun _ => 0) = .ok fresh ∧
      fresh.processWithStageTiming .plain criticalPackets (.frozen 0 0) 0 =
        fresh.process .plain criticalPackets (.frozen 0 0) 0 := by
  obtain ⟨fresh, constructed⟩ := default_constructs
  have engineEq := init_engine constructed
  refine ⟨fresh, constructed, ?_⟩
  apply (staged_eq_process_iff .plain fresh (by rw [engineEq]; exact nofun) criticalPackets
    (.frozen 0 0) 0).mpr
  refine ⟨by rw [engineEq]; rfl, process_returns_iff.mp ?_⟩
  have short : ((criticalPackets 0).payload.length : Int) <
      fresh.config.compressionThresholdBytes := by
    rw [(init_configured constructed).configEq]
    decide
  exact process_of_short rfl short _

/-- The keys of the queue and the value booked as delivered. -/
def keysAndBooks : Engine → List ℚ × ℚ
  | .plain _ => ([], 0)
  | .pvm _ scheduler tracker => (scheduler.heap.map QueueEntry.key, tracker.totalDelivered)

/-- With a policy the staged path queues a packet at its default value and books
nothing. -/
theorem staged_ne_process :
    ∃ fresh, init singleSlot (some callsFirst) (fun _ => 0) = .ok fresh ∧
      fresh.processWithStageTiming .plain criticalPackets (.frozen 0 0) 0 ≠
        fresh.process .plain criticalPackets (.frozen 0 0) 0 := by
  obtain ⟨fresh, constructed⟩ := singleSlot_constructs
  have evaluated : (init singleSlot (some callsFirst) fun _ => 0).toOption.map (fun fresh =>
      (keysAndBooks
          (fresh.processWithStageTiming .plain criticalPackets (.frozen 0 0) 0).2.1.engine,
        keysAndBooks (fresh.process .plain criticalPackets (.frozen 0 0) 0).2.1.engine)) =
      some (([-5], 0), ([-50], 10)) := by
    decide +kernel
  rw [constructed] at evaluated
  refine ⟨fresh, constructed, fun agree => ?_⟩
  have pair := Option.some.inj evaluated
  rw [Prod.mk.injEq, agree] at pair
  have same := pair.1.symm.trans pair.2
  revert same
  decide +kernel

end BandwidthOptimizer

end SmartBandwidth

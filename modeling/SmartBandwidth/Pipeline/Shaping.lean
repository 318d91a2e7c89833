import SmartBandwidth.Pipeline.QueueLoad
import SmartBandwidth.Flow.Identity

/-!
# Shaping without values

A shaper is the pipeline with its values and the order of its queue taken away: it tracks flows,
classifies, filters, compresses and counts, and of the queue it knows the length only.  Both modes
of the optimizer refine it, so nothing that it shows depends on what packets are worth.
-/

namespace SmartBandwidth

/-! ## Packets and flows without their values -/

/-- The packet with the default coefficient. -/
def Packet.unvalued (packet : Packet) : Packet := { packet with valueCoefficient := 1 }

/-- All packets with the default coefficient. -/
def Store.unvalued (store : Store) : Store := fun ref => (store ref).unvalued

theorem Store.unvalued_set (store : Store) (ref : PacketRef) (packet : Packet) :
    (store.set ref packet).unvalued = store.unvalued.set ref packet.unvalued := by
  funext query
  by_cases same : query = ref
  · subst same
    rw [unvalued, set_self, set_self]
  · rw [unvalued, set_of_ne _ _ same, set_of_ne _ _ same, unvalued]

/-- The record with the default coefficient. -/
def FlowRecord.unvalued (record : FlowRecord) : FlowRecord := { record with valueCoefficient := 1 }

theorem FlowRecord.updateBurst_unvalued (record : FlowRecord) (now : ℚ) :
    (record.updateBurst now).unvalued = record.unvalued.updateBurst now := by
  by_cases passed : record.burstWindowDuration < now - record.burstWindowStart
  · simp only [updateBurst, unvalued, passed, ↓reduceIte]
    rfl
  · simp only [updateBurst, unvalued, passed, ↓reduceIte]

theorem FlowRecord.update_unvalued (record : FlowRecord) (packet : Packet) (now : ℚ) :
    (record.update packet now).unvalued = record.unvalued.update packet.unvalued now := by
  have burst := updateBurst_unvalued
    ((FlowRecord.updateIpt { record with
      lastSeen := now
      packetCount := record.packetCount + 1
      byteCount := record.byteCount + packet.sizeBytes } now).updateSize packet.sizeBytes) now
  exact congrArg FlowRecord.refreshScores burst

namespace FlowTracker

/-- The table with the records' default coefficients. -/
def unvalued (tracker : FlowTracker) : FlowTracker :=
  { tracker with table := tracker.table.map FlowRecord.unvalued }

theorem evictExpired_unvalued (tracker : FlowTracker) (now : ℚ) :
    (tracker.evictExpired now).unvalued = tracker.unvalued.evictExpired now := by
  rw [evictExpired, unvalued, evictExpired, unvalued]
  congr 1
  apply Dict.map_filter
  intro _ _
  rfl

theorem longestIdle_unvalued (clock : Nat → ℚ) (slot : Nat) (oldest : FlowKey) (idle : ℚ)
    (entries : List (FlowKey × FlowRecord)) :
    longestIdle clock slot oldest idle
        (entries.map fun entry => (entry.1, entry.2.unvalued)) =
      longestIdle clock slot oldest idle entries := by
  induction entries generalizing slot oldest idle with
  | nil => rfl
  | cons entry rest ih =>
      rw [List.map_cons, longestIdle, longestIdle, ih, ih]
      rfl

theorem evictOldest_unvalued (tracker : FlowTracker) (clock : Nat → ℚ) :
    (tracker.evictOldest clock).unvalued = tracker.unvalued.evictOldest clock := by
  have mapped : tracker.unvalued.table.entries =
      tracker.table.entries.map fun entry => (entry.1, entry.2.unvalued) := rfl
  rw [evictOldest, evictOldest, mapped]
  cases tracker.table.entries with
  | nil => rfl
  | cons entry rest =>
      simp only [List.map_cons, longestIdle_unvalued]
      exact congrArg (fun table => { tracker with table := table }) (Dict.map_erase _ _ _)

theorem writeBack_unvalued (tracker : FlowTracker) (record : FlowRecord) (key : FlowKey) :
    (tracker.writeBack record key).unvalued = tracker.unvalued.writeBack record.unvalued key :=
  congrArg (fun table => { tracker with table := table }) (Dict.map_set _ _ _ _)

theorem lookup_unvalued (tracker : FlowTracker) (key : FlowKey) (readings : FlowReadings) :
    tracker.unvalued.lookup key readings =
      ((tracker.lookup key readings).1.unvalued, (tracker.lookup key readings).2.unvalued) := by
  rw [lookup, lookup, ← evictExpired_unvalued]
  generalize tracker.evictExpired readings.expire = kept
  have found : kept.unvalued.table.get? key = (kept.table.get? key).map FlowRecord.unvalued :=
    Dict.get?_map _ _ _
  have sized : kept.unvalued.table.size = kept.table.size := Dict.size_map _ _
  simp only [found]
  cases kept.table.get? key with
  | some record => rfl
  | none =>
      simp only [Option.map_none, sized, ← evictOldest_unvalued]
      change (_, writeBack _ _ _) = (_, (writeBack _ _ _).unvalued)
      rw [writeBack_unvalued, apply_ite FlowTracker.unvalued]
      rfl

theorem update_unvalued (rt : Runtime) (tracker : FlowTracker) (packet : Packet)
    (readings : FlowReadings) :
    tracker.unvalued.update rt packet.unvalued readings =
      ((tracker.update rt packet readings).1.unvalued,
        (tracker.update rt packet readings).2.unvalued) := by
  have key : FlowKey.fromPacket rt packet.unvalued = FlowKey.fromPacket rt packet := rfl
  simp only [update, key, lookup_unvalued, writeBack_unvalued, FlowRecord.update_unvalued]

end FlowTracker

namespace BandwidthOptimizer

theorem classifyStage_unvalued (rt : Runtime) (classifier : TrafficClassifier) (packet : Packet) :
    classifyStage rt classifier packet.unvalued =
      (classifyStage rt classifier packet).map Packet.unvalued := by
  have same : classifier.classify rt packet.unvalued = classifier.classify rt packet :=
    TrafficClassifier.classify_of_flow rfl rfl classifier
  simp only [classifyStage, same]
  cases given : packet.priority with
  | some priority => simp [Packet.unvalued, given, Except.map]
  | none =>
      simp only [Packet.unvalued, given]
      cases classifier.classify rt packet <;> rfl

theorem hintStage_unvalued (tracker : FlowTracker) (record : FlowRecord) (packet : Packet) :
    hintStage tracker.unvalued record.unvalued packet.unvalued =
      (hintStage tracker record packet).unvalued := by
  obtain ⟨_, _, _, _, _, _, _, priority, _, _⟩ := packet
  cases priority <;> rfl

theorem compressedPacket_unvalued (packet : Packet) (result : CompressionResult) :
    (compressedPacket packet result).unvalued = compressedPacket packet.unvalued result := by
  rw [compressedPacket, compressedPacket]
  split <;> rfl

end BandwidthOptimizer

/-! ## The shaper -/

/-- The result with the default coefficient in its flow record. -/
def ProcessResult.unvalued (result : ProcessResult) : ProcessResult :=
  { result with flowRecord := result.flowRecord.map FlowRecord.unvalued }

/-- What the pipeline keeps besides the values of its packets and their order. -/
structure Shaper where
  config : OptimizerConfig
  classifier : TrafficClassifier
  packetFilter : PacketFilter
  flowTracker : FlowTracker
  load : QueueLoad
  received : Nat
  dropped : Nat
  bytesSaved : Nat

/-- What a caller sees of a call but values and the identity of served packets. -/
inductive ShapedReply where
  | processed (result : Except PyError ProcessResult)
  | handed (served : Bool)
  | drained (count : Nat)
  | done
  deriving DecidableEq

namespace Shaper

/-- An admitted packet is compressed and queued. -/
def deliver (rt : Runtime) (shaper : Shaper) (store : Store) (readings : ProcessReadings)
    (ref : PacketRef) (record : FlowRecord) : Except PyError ProcessResult × Shaper × Store :=
  let packet := store ref
  match PayloadCompressor.compress rt shaper.config packet.payload with
  | .error raised => (.error raised, shaper, store)
  | .ok result =>
      let compressed := BandwidthOptimizer.compressedPacket packet result
      (.ok {
          packet := ref
          dropped := false
          compressed := result.wasCompressed
          originalPayloadSize := packet.payload.length
          compressedPayloadSize := compressed.payload.length
          flowRecord := some record },
        { shaper with
          load := shaper.load.arrive
          bytesSaved := shaper.bytesSaved +
            if result.wasCompressed then result.spaceSavedBytes else 0 },
        store.set ref (compressed.stamped readings.arrival))

/-- A classified packet is filtered, and delivered if it passes. -/
def filter (rt : Runtime) (shaper : Shaper) (store : Store) (readings : ProcessReadings)
    (ref : PacketRef) (record : FlowRecord) : Except PyError ProcessResult × Shaper × Store :=
  let (decision, packetFilter) := shaper.packetFilter.shouldDrop (store ref)
    (some shaper.load.queued) readings.refill readings.draw
  let shaper := { shaper with packetFilter := packetFilter }
  if decision.drop then
    (.ok {
        packet := ref
        dropped := true
        dropReason := decision.reason
        flowRecord := some record },
      { shaper with dropped := shaper.dropped + 1 },
      store)
  else
    shaper.deliver rt store readings ref record

/-- The pipeline without its value stage. -/
def process (rt : Runtime) (shaper : Shaper) (store : Store) (readings : ProcessReadings)
    (ref : PacketRef) : Except PyError ProcessResult × Shaper × Store :=
  let (record, flowTracker) := shaper.flowTracker.update rt (store ref) readings.flow
  let shaper := { shaper with received := shaper.received + 1, flowTracker := flowTracker }
  match BandwidthOptimizer.classifyStage rt shaper.classifier (store ref) with
  | .error raised => (.error raised, shaper, store)
  | .ok classified =>
      shaper.filter rt
        (store.set ref (BandwidthOptimizer.hintStage flowTracker record classified))
        readings ref record

/-- Some queued packet is served, if there is one. -/
def dequeue (shaper : Shaper) : Bool × Shaper :=
  (decide (0 < shaper.load.queued),
    { shaper with load := shaper.load.serve (min 1 shaper.load.queued) })

/-- A call on a shaper. -/
def call (rt : Runtime) (state : Shaper × Store) : OptimizerCall → ShapedReply × (Shaper × Store)
  | .process ref readings =>
      let (result, shaper, store) := state.1.process rt state.2 readings ref
      (.processed result, (shaper, store))
  | .dequeue | .drainNext =>
      let (served, shaper) := state.1.dequeue
      (.handed served, (shaper, state.2))
  | .drain =>
      (.drained state.1.load.queued,
        ({ state.1 with load := state.1.load.serve state.1.load.queued }, state.2))
  | .resetStats =>
      (.done,
        ({ state.1 with
            received := 0
            dropped := 0
            bytesSaved := 0
            packetFilter := state.1.packetFilter.resetDropCounts
            load := state.1.load.reset },
          state.2))

end Shaper

/-- What a reply shows but values and the identity of served packets. -/
def OptimizerReply.shape : OptimizerReply → ShapedReply
  | .processed result => .processed (result.map ProcessResult.unvalued)
  | .packet ref => .handed ref.isSome
  | .packets refs => .drained refs.length
  | .done => .done

namespace BandwidthOptimizer

/-- The optimizer with its values and the order of its queue taken away. -/
def shape (optimizer : BandwidthOptimizer) : Shaper where
  config := optimizer.config
  classifier := optimizer.classifier
  packetFilter := optimizer.packetFilter
  flowTracker := optimizer.flowTracker.unvalued
  load := optimizer.engine.load
  received := optimizer.totalIn
  dropped := optimizer.totalDropped
  bytesSaved := optimizer.totalBytesSaved

/-! ## The refinement -/

theorem valueStage_unvalued (rt : Runtime) (policy : Option FlowValuePolicy) {key : FlowKey}
    {prepared : Prepared}
    (recorded : prepared.flowTracker.writeBack prepared.record key = prepared.flowTracker) :
    (valueStage rt policy key prepared).packet.unvalued = prepared.packet.unvalued ∧
      (valueStage rt policy key prepared).record.unvalued = prepared.record.unvalued ∧
      (valueStage rt policy key prepared).flowTracker.unvalued =
        prepared.flowTracker.unvalued := by
  cases policy with
  | none => exact ⟨rfl, rfl, rfl⟩
  | some policy =>
      refine ⟨rfl, rfl, ?_⟩
      conv_rhs => rw [← recorded, FlowTracker.writeBack_unvalued]
      exact FlowTracker.writeBack_unvalued _ _ _

/-- An update has written its record to the table. -/
theorem update_recorded (rt : Runtime) (tracker : FlowTracker) (packet : Packet)
    (readings : FlowReadings) :
    (tracker.update rt packet readings).2.writeBack (tracker.update rt packet readings).1
        (FlowKey.fromPacket rt packet) =
      (tracker.update rt packet readings).2 := by
  simp only [FlowTracker.update, FlowTracker.writeBack, Dict.set_set]

section Process

variable {rt : Runtime} {optimizer : BandwidthOptimizer} {store : Store}
variable {readings : ProcessReadings} {ref : PacketRef}

/-- The shaper prepares what the optimizer does. -/
structure ShapesPreparation (rt : Runtime) (optimizer : BandwidthOptimizer) (store : Store)
    (readings : ProcessReadings) (ref : PacketRef) (prepared : Prepared)
    (classified : Packet) : Prop where
  classifies : classifyStage rt optimizer.classifier (store.unvalued ref) = .ok classified
  updates : optimizer.flowTracker.unvalued.update rt (store.unvalued ref) readings.flow =
    (prepared.record.unvalued, prepared.flowTracker.unvalued)
  hints : hintStage prepared.flowTracker.unvalued prepared.record.unvalued classified =
    prepared.packet.unvalued

theorem shapesPreparation {prepared : Prepared}
    (prepares : optimizer.preparation rt store readings ref = .ok prepared) :
    ∃ classified, ShapesPreparation rt optimizer store readings ref prepared classified := by
  obtain ⟨classified, classifies, rfl⟩ := preparation_eq_ok prepares
  have updates := optimizer.flowTracker.update_unvalued rt (store ref) readings.flow
  have recorded := update_recorded rt optimizer.flowTracker (store ref) readings.flow
  generalize optimizer.flowTracker.update rt (store ref) readings.flow = tracked
    at updates recorded
  obtain ⟨record, flowTracker⟩ := tracked
  let hinted : Prepared := ⟨hintStage flowTracker record classified, record, flowTracker⟩
  have written : hinted.flowTracker.writeBack hinted.record (FlowKey.fromPacket rt (store ref)) =
      hinted.flowTracker := recorded
  obtain ⟨packetEq, recordEq, trackerEq⟩ :=
    valueStage_unvalued rt optimizer.engine.flowValuePolicy written
  refine ⟨classified.unvalued, ?_, ?_, ?_⟩
  · exact (classifyStage_unvalued rt optimizer.classifier (store ref)).trans
      (congrArg (Except.map Packet.unvalued) classifies)
  · rw [recordEq, trackerEq]
    exact updates
  · rw [recordEq, trackerEq, packetEq]
    exact hintStage_unvalued flowTracker record classified

theorem classifyStage_of_preparation {raised : PyError}
    (raises : optimizer.preparation rt store readings ref = .error raised) :
    classifyStage rt optimizer.classifier (store.unvalued ref) = .error raised := by
  rw [preparation, prepare] at raises
  rw [Store.unvalued, classifyStage_unvalued]
  cases classifies : classifyStage rt optimizer.classifier (store ref) with
  | error other =>
      rw [classifies] at raises
      cases raises
      rfl
  | ok classified =>
      rw [classifies] at raises
      cases raises

theorem scheduling_load (positive : 0 < optimizer.engine.maxSize) (prepared : Prepared)
    (result : CompressionResult) :
    (optimizer.scheduling store readings ref prepared result).2.1.load =
      optimizer.engine.load.arrive :=
  optimizer.engine.enqueue_load positive _ _ _

/-- The shaper of the optimizer after stage 1c. -/
def preparedShape (optimizer : BandwidthOptimizer) (prepared : Prepared) : Shaper :=
  { optimizer.shape with
    received := optimizer.totalIn + 1
    flowTracker := prepared.flowTracker.unvalued }

theorem process_of_shapes {prepared : Prepared} {classified : Packet}
    (shapes : ShapesPreparation rt optimizer store readings ref prepared classified) :
    optimizer.shape.process rt store.unvalued readings ref =
      (optimizer.preparedShape prepared).filter rt (store.set ref prepared.packet).unvalued
        readings ref prepared.record.unvalued := by
  have updates := shapes.updates
  have classifies := shapes.classifies
  rw [Store.unvalued_set, ← shapes.hints]
  simp only [Shaper.process, shape, updates, classifies]
  rfl

/-- The filter decides on the packet whatever its value. -/
theorem filter_unvalued (prepared : Prepared) :
    (optimizer.preparedShape prepared).filter rt (store.set ref prepared.packet).unvalued readings
        ref prepared.record.unvalued =
      let shaper := { optimizer.preparedShape prepared with
        packetFilter := (optimizer.filtering readings prepared).2 }
      if (optimizer.filtering readings prepared).1.drop then
        (.ok {
            packet := ref
            dropped := true
            dropReason := (optimizer.filtering readings prepared).1.reason
            flowRecord := some prepared.record.unvalued },
          { shaper with dropped := optimizer.totalDropped + 1 },
          (store.set ref prepared.packet).unvalued)
      else
        shaper.deliver rt (store.set ref prepared.packet).unvalued readings ref
          prepared.record.unvalued := by
  have packetEq : (store.set ref prepared.packet).unvalued ref = prepared.packet.unvalued :=
    congrArg Packet.unvalued (Store.set_self store ref prepared.packet)
  have decides : optimizer.packetFilter.shouldDrop prepared.packet.unvalued
      (some optimizer.engine.load.queued) readings.refill readings.draw =
        optimizer.filtering readings prepared := by
    rw [Engine.load_queued]
    rfl
  rw [Shaper.filter, packetEq, preparedShape, shape]
  simp only [decides]

theorem process_shape (positive : 0 < optimizer.engine.maxSize) :
    optimizer.shape.process rt store.unvalued readings ref =
      ((optimizer.process rt store readings ref).1.map ProcessResult.unvalued,
        (optimizer.process rt store readings ref).2.1.shape,
        (optimizer.process rt store readings ref).2.2.unvalued) := by
  have processes := optimizer.process_processes rt store readings ref
  generalize optimizer.process rt store readings ref = outcome at processes ⊢
  cases processes with
  | classifyRaised raises =>
      have classifies := classifyStage_of_preparation raises
      have updates : optimizer.flowTracker.unvalued.update rt (store.unvalued ref) readings.flow =
        _ := optimizer.flowTracker.update_unvalued rt (store ref) readings.flow
      simp only [Shaper.process, shape, updates, classifies]
      rfl
  | @filtered prepared prepares drops =>
      obtain ⟨classified, shapes⟩ := shapesPreparation prepares
      rw [process_of_shapes shapes, filter_unvalued]
      simp only [drops, if_true]
      simp only [shape, Engine.recordDropped_load]
      rfl
  | @compressRaised prepared raised prepares passes raises =>
      obtain ⟨classified, shapes⟩ := shapesPreparation prepares
      rw [process_of_shapes shapes, filter_unvalued]
      have raises' : PayloadCompressor.compress rt optimizer.config
          ((store.set ref prepared.packet).unvalued ref).payload = .error raised := by
        rw [Store.unvalued, Store.set_self]
        exact raises
      simp only [passes, Bool.false_eq_true, if_false, Shaper.deliver, preparedShape, shape,
        raises']
      rfl
  | @admitted prepared result prepares passes compresses =>
      obtain ⟨classified, shapes⟩ := shapesPreparation prepares
      rw [process_of_shapes shapes, filter_unvalued]
      have compresses' : PayloadCompressor.compress rt optimizer.config
          ((store.set ref prepared.packet).unvalued ref).payload = .ok result := by
        rw [Store.unvalued, Store.set_self]
        exact compresses
      simp only [passes, Bool.false_eq_true, if_false, Shaper.deliver, preparedShape, shape,
        compresses', Engine.recordDelivered_load, scheduling_load positive, scheduling_store]
      rw [Store.unvalued_set, Store.unvalued_set, Store.set_set, Store.set_self,
        ← compressedPacket_unvalued]
      rfl

end Process

/-- An optimizer and its packets with their values taken away. -/
def shaped (state : BandwidthOptimizer × Store) : Shaper × Store :=
  (state.1.shape, state.2.unvalued)

theorem dequeue_shape (optimizer : BandwidthOptimizer) (store : Store) :
    optimizer.shape.dequeue =
      ((optimizer.dequeue store).1.isSome, (optimizer.dequeue store).2.shape) := by
  obtain ⟨answers, loads⟩ := optimizer.engine.dequeue_load store
  have after := congrArg (fun load => { optimizer.shape with load := load }) loads
  exact Prod.ext answers.symm after.symm

/-- Every call of the optimizer is the same call of its shaper. -/
theorem call_shape (rt : Runtime) (state : BandwidthOptimizer × Store)
    (positive : 0 < state.1.engine.maxSize) (call : OptimizerCall) :
    Shaper.call rt (shaped state) call =
      ((BandwidthOptimizer.call rt state call).1.shape,
        shaped (BandwidthOptimizer.call rt state call).2) := by
  cases call with
  | process ref readings =>
      have processed := @process_shape rt state.1 state.2 readings ref positive
      simp only [Shaper.call, shaped, processed]
      rfl
  | dequeue =>
      simp only [Shaper.call, shaped, dequeue_shape state.1 state.2]
      rfl
  | drain =>
      obtain ⟨count, loads⟩ := state.1.engine.drain_load state.2
      simp only [BandwidthOptimizer.call, drain, OptimizerReply.shape, shaped, shape, count, loads]
      rfl
  | drainNext =>
      simp only [Shaper.call, shaped, BandwidthOptimizer.call]
      split
      next empty =>
        have none : state.1.engine.load.queued = 0 := state.1.engine.load_queued.trans empty
        simp only [Shaper.dequeue, shape, none]
        rfl
      next =>
        rw [dequeue_shape state.1 state.2]
        rfl
  | resetStats =>
      simp only [BandwidthOptimizer.call, resetStats, shaped, shape, state.1.engine.resetStats_load]
      rfl

end BandwidthOptimizer

end SmartBandwidth

import SmartBandwidth.Pipeline.Processing
import Mathlib.Data.Multiset.AddSub
import Mathlib.Algebra.BigOperators.Group.Multiset.Basic
import Mathlib.Tactic.Abel
import Mathlib.Tactic.Linarith

/-!
# The value books

The tracker books every packet the filter passes as delivered.  A packet that the full
scheduler then refuses, or displaces later, stays booked as delivered, so the books are
right exactly as long as the packets lost that way are worth nothing.
-/

namespace SmartBandwidth

/-! ## What the full scheduler discards -/

/-- The packet that an arriving entry makes the scheduler discard: at a full queue, the
arrival itself if its key is worse than the worst one, and the worst entry otherwise. -/
def Scheduler.discarded {K : Type} [LinearOrder K] (scheduler : Scheduler K)
    (entry : QueueEntry K) : List PacketRef :=
  if scheduler.maxSize ≤ scheduler.heap.length then
    match findWorst scheduler.heap with
    | none => []
    | some (_, worst) => if worst.key < entry.key then [entry.packet] else [worst.packet]
  else
    []

theorem Scheduler.discarded_length_le {K : Type} [LinearOrder K] (scheduler : Scheduler K)
    (entry : QueueEntry K) : (scheduler.discarded entry).length ≤ 1 := by
  rw [discarded]
  split
  next =>
    split
    next => exact Nat.zero_le 1
    next => split <;> exact le_rfl
  next => exact Nat.zero_le 1

/-- The arrival and the packets queued before it are the packets queued after it and the
one that was discarded. -/
theorem Scheduler.insertEntry_discarded {K : Type} [LinearOrder K] (scheduler : Scheduler K)
    (positive : 0 < scheduler.maxSize) (priority : TrafficPriority) (entry : QueueEntry K) :
    (entry.packet :: scheduler.heap.map QueueEntry.packet).Perm
      (scheduler.discarded entry ++
        (scheduler.insertEntry priority entry).2.heap.map QueueEntry.packet) := by
  by_cases full : scheduler.maxSize ≤ scheduler.heap.length
  · have inhabited : scheduler.heap ≠ [] :=
      List.ne_nil_of_length_pos (positive.trans_le full)
    obtain ⟨idx, worst, scan, found, _⟩ := findWorst_spec inhabited
    simp only [insertEntry, discarded, full, ↓reduceIte, scan]
    by_cases outranked : worst.key < entry.key
    · rw [if_pos outranked, if_pos outranked]
      exact List.Perm.refl _
    · rw [if_neg outranked, if_neg outranked]
      exact ((evicted_perm found priority entry).map QueueEntry.packet).symm
  · simp only [insertEntry, discarded, full, ↓reduceIte, List.nil_append]
    exact ((scheduler.push_perm priority entry).map QueueEntry.packet).symm

/-- The packets the full scheduler discards in one call: a packet that the filter passes
is offered with its effective value. -/
def overflowLoss (rt : Runtime) (state : BandwidthOptimizer × Store) :
    OptimizerCall → List PacketRef
  | .process ref readings =>
      match state.1.preparation rt state.2 readings ref, state.1.engine with
      | .ok prepared, .pvm _ scheduler _ =>
          if (state.1.filtering readings prepared).1.drop then
            []
          else
            scheduler.discarded (scheduler.arriving ValueScheduler.key prepared.packet ref)
      | .ok _, .plain _ | .error _, _ => []
  | .dequeue | .drain | .drainNext | .resetStats => []

/-- The packets the full scheduler discards in a run. -/
def overflowLosses (rt : Runtime) (state : BandwidthOptimizer × Store) :
    List OptimizerCall → List PacketRef
  | [] => []
  | call :: rest =>
      overflowLoss rt state call ++
        overflowLosses rt (BandwidthOptimizer.call rt state call).2 rest

theorem overflowLoss_length_le (rt : Runtime) (state : BandwidthOptimizer × Store)
    (call : OptimizerCall) : (overflowLoss rt state call).length ≤ 1 := by
  cases call with
  | process ref readings =>
      simp only [overflowLoss]
      split
      next =>
        split
        next => exact Nat.zero_le 1
        next => exact Scheduler.discarded_length_le _ _
      next => exact Nat.zero_le 1
      next => exact Nat.zero_le 1
  | dequeue | drain | drainNext | resetStats => exact Nat.zero_le 1

theorem overflowLosses_append (rt : Runtime) (state : BandwidthOptimizer × Store)
    (first second : List OptimizerCall) :
    overflowLosses rt state (first ++ second) =
      overflowLosses rt state first ++
        overflowLosses rt (Machine.run (BandwidthOptimizer.call rt) state first).2 second := by
  induction first generalizing state with
  | nil => rfl
  | cons call first ih =>
      simp only [List.cons_append, overflowLosses, ih, List.append_assoc, Machine.run_cons]

/-! ## The books -/

/-- The packets that dequeue calls returned, in order. -/
def dequeuedRefs (replies : List OptimizerReply) : List PacketRef :=
  replies.filterMap fun
    | .packet ref => ref
    | .processed _ | .packets _ | .done => none

theorem dequeuedRefs_packet (ref : Option PacketRef) (replies : List OptimizerReply) :
    dequeuedRefs (.packet ref :: replies) = ref.toList ++ dequeuedRefs replies := by
  cases ref <;> rfl

/-- The sum of the value coefficients of packets. -/
def totalValue (store : Store) (refs : Multiset PacketRef) : ℚ :=
  (refs.map fun ref => (store ref).valueCoefficient).sum

/-- After a run from `start`, the tracker's delivered total is the value of the packets
that were dequeued or are still queued, and its lost total is the value of all other
processed packets. -/
def BooksBalance (rt : Runtime) (start : BandwidthOptimizer × Store)
    (calls : List OptimizerCall) : Prop :=
  let outcome := Machine.run (BandwidthOptimizer.call rt) start calls
  let forwarded : Multiset PacketRef :=
    ↑(dequeuedRefs outcome.1 ++ outcome.2.1.engine.queued)
  ∀ tracker, outcome.2.1.engine.valueTracker = some tracker →
    tracker.totalDelivered = totalValue outcome.2.2 forwarded ∧
      tracker.totalDropped =
        totalValue outcome.2.2 ((processedRefs calls : Multiset PacketRef) - forwarded)

/-! ## The ledger of a run -/

/-- The sum of the coefficients of packets. -/
def worth (coefficient : PacketRef → ℚ) (refs : Multiset PacketRef) : ℚ :=
  (refs.map coefficient).sum

@[simp] theorem worth_add (coefficient : PacketRef → ℚ) (left right : Multiset PacketRef) :
    worth coefficient (left + right) = worth coefficient left + worth coefficient right := by
  rw [worth, Multiset.map_add, Multiset.sum_add, worth, worth]

@[simp] theorem worth_singleton (coefficient : PacketRef → ℚ) (ref : PacketRef) :
    worth coefficient {ref} = coefficient ref := by
  rw [worth, Multiset.map_singleton, Multiset.sum_singleton]

/-- Where every processed packet went, and what the tracker has booked for it. -/
structure Ledger (rt : Runtime) (config : OptimizerConfig) (values : FlowValuePolicy)
    (coefficient : PacketRef → ℚ) (processed dropped losses dequeued : Multiset PacketRef)
    (state : BandwidthOptimizer × Store) : Prop where
  configured : state.1.Configured config (some values)
  assigned : ∀ ref, values.getCoefficient rt (state.2 ref) = coefficient ref
  valued : ∀ ref ∈ processed, (state.2 ref).valueCoefficient = coefficient ref
  placed : processed = dropped + losses + (dequeued + ↑state.1.engine.queued)
  booked : ∀ tracker, state.1.engine.valueTracker = some tracker →
    tracker.totalDelivered =
        worth coefficient (losses + (dequeued + ↑state.1.engine.queued)) ∧
      tracker.totalDropped = worth coefficient dropped

namespace Ledger

variable {rt : Runtime} {config : OptimizerConfig} {values : FlowValuePolicy}
variable {coefficient : PacketRef → ℚ}
variable {processed dropped losses dequeued : Multiset PacketRef}
variable {state : BandwidthOptimizer × Store}

private theorem assigned_set
    (ledger : Ledger rt config values coefficient processed dropped losses dequeued state)
    {ref : PacketRef} {packet : Packet} (same : (state.2 ref).SameHeader packet) :
    ∀ query, values.getCoefficient rt (state.2.set ref packet query) = coefficient query := by
  intro query
  by_cases written : query = ref
  · rw [written, Store.set_self, values.getCoefficient_of_sameHeader rt same]
    exact ledger.assigned ref
  · rw [Store.set_of_ne _ _ written]
    exact ledger.assigned query

private theorem valued_set
    (ledger : Ledger rt config values coefficient processed dropped losses dequeued state)
    {ref : PacketRef} {packet : Packet} (value : packet.valueCoefficient = coefficient ref) :
    ∀ query ∈ processed + {ref},
      (state.2.set ref packet query).valueCoefficient = coefficient query := by
  intro query member
  by_cases written : query = ref
  · rw [written, Store.set_self, value]
  · rw [Store.set_of_ne _ _ written]
    rcases Multiset.mem_add.mp member with old | new
    · exact ledger.valued query old
    · exact absurd (Multiset.mem_singleton.mp new) written

/-- The coefficient a prepared packet carries. -/
private theorem prepared_value
    (ledger : Ledger rt config values coefficient processed dropped losses dequeued state)
    {readings : ProcessReadings} {ref : PacketRef} {prepared : Prepared}
    (prepares : state.1.preparation rt state.2 readings ref = .ok prepared) :
    prepared.packet.valueCoefficient = coefficient ref := by
  have facts := BandwidthOptimizer.preparation_prepares prepares
  rw [facts.valued values ledger.configured.policyEq]
  exact ledger.assigned ref

/-- A packet the filter drops is booked as lost. -/
private theorem filtered
    (ledger : Ledger rt config values coefficient processed dropped losses dequeued state)
    {ref : PacketRef} {packet : Packet} (same : (state.2 ref).SameHeader packet)
    (value : packet.valueCoefficient = coefficient ref) (now : ℚ)
    {next : BandwidthOptimizer × Store} (configured : next.1.Configured config (some values))
    (engine : next.1.engine = state.1.engine.recordDropped packet.valueCoefficient now)
    (store : next.2 = state.2.set ref packet) :
    Ledger rt config values coefficient (processed + {ref}) (dropped + {ref}) losses dequeued
      next := by
  obtain ⟨scheduler, tracker, engineEq⟩ := ledger.configured.pvm
  have placed := ledger.placed
  have booked := ledger.booked tracker (by rw [engineEq, Engine.valueTracker])
  rw [engineEq, Engine.recordDropped] at engine
  rw [engineEq] at placed booked
  constructor
  · exact configured
  · rw [store]
    exact ledger.assigned_set same
  · rw [store]
    exact ledger.valued_set value
  · rw [engine, placed]
    simp only [Engine.queued]
    abel
  · intro after afterEq
    rw [engine] at afterEq ⊢
    cases afterEq
    refine ⟨booked.1, ?_⟩
    rw [worth_add coefficient dropped, worth_singleton, ← booked.2, ← value]
    rfl

/-- A packet the filter passes is booked as delivered, whatever the scheduler discards. -/
private theorem admitted
    (ledger : Ledger rt config values coefficient processed dropped losses dequeued state)
    {ref : PacketRef} {packet : Packet} (same : (state.2 ref).SameHeader packet)
    (value : packet.valueCoefficient = coefficient ref) (now : ℚ) {scheduler : ValueScheduler}
    {tracker : ValueLossTracker} (engineEq : state.1.engine = .pvm values scheduler tracker)
    {next : BandwidthOptimizer × Store} (configured : next.1.Configured config (some values))
    (engine : next.1.engine = .pvm values
      (scheduler.draw.insertEntry packet.effectivePriority
        (scheduler.arriving ValueScheduler.key packet ref)).2
      (tracker.recordDelivered packet.valueCoefficient now))
    (store : next.2 = state.2.set ref packet) :
    Ledger rt config values coefficient (processed + {ref}) dropped
      (losses + ↑(scheduler.discarded (scheduler.arriving ValueScheduler.key packet ref)))
      dequeued next := by
  have placed := ledger.placed
  have booked := ledger.booked tracker (by rw [engineEq, Engine.valueTracker])
  have positive := ledger.configured.positive
  rw [engineEq] at placed booked positive
  have moved : ({ref} : Multiset PacketRef) + ↑(Engine.pvm values scheduler tracker).queued =
      ↑(scheduler.discarded (scheduler.arriving ValueScheduler.key packet ref)) +
        ↑next.1.engine.queued := by
    rw [engine]
    exact Multiset.coe_eq_coe.mpr (scheduler.draw.insertEntry_discarded positive
      packet.effectivePriority (scheduler.arriving ValueScheduler.key packet ref))
  constructor
  · exact configured
  · rw [store]
    exact ledger.assigned_set same
  · rw [store]
    exact ledger.valued_set value
  · calc processed + {ref}
        = dropped + losses + (dequeued +
            ({ref} + ↑(Engine.pvm values scheduler tracker).queued)) := by
          rw [placed]
          abel
      _ = _ := by
          rw [moved]
          abel
  · intro after afterEq
    have worthMoved := congrArg (worth coefficient) moved
    simp only [worth_add, worth_singleton] at worthMoved booked ⊢
    rw [engine] at afterEq
    cases afterEq
    refine ⟨?_, booked.2⟩
    rw [(tracker.recordDelivered_totals packet.valueCoefficient now).1, booked.1, value]
    linarith

/-- A `process` call that returns enters its packet: as dropped, or as delivered together
with what the full scheduler discards. -/
theorem process
    (ledger : Ledger rt config values coefficient processed dropped losses dequeued state)
    {readings : ProcessReadings} {ref : PacketRef} {result : ProcessResult}
    (returns : (state.1.process rt state.2 readings ref).1 = .ok result) :
    ∃ dropped', Ledger rt config values coefficient (processed + {ref}) dropped'
      (losses + ↑(overflowLoss rt state (.process ref readings))) dequeued
      (state.1.process rt state.2 readings ref).2 := by
  obtain ⟨scheduler, tracker, engineEq⟩ := ledger.configured.pvm
  have configured := BandwidthOptimizer.process_configured ledger.configured rt state.2
    readings ref
  have processes := state.1.process_processes rt state.2 readings ref
  generalize state.1.process rt state.2 readings ref = outcome
    at processes returns configured ⊢
  cases processes with
  | classifyRaised => cases returns
  | compressRaised => cases returns
  | @filtered prepared prepares drops =>
      have noLoss : overflowLoss rt state (.process ref readings) = [] := by
        rw [overflowLoss, prepares, engineEq]
        exact if_pos drops
      rw [noLoss, Multiset.coe_nil, add_zero]
      exact ⟨_, ledger.filtered (BandwidthOptimizer.preparation_prepares prepares).header
        (ledger.prepared_value prepares) readings.record configured rfl rfl⟩
  | @admitted prepared compression prepares passes =>
      have facts := BandwidthOptimizer.preparation_prepares prepares
      let packet := BandwidthOptimizer.queuedPacket readings prepared compression
      have loss : overflowLoss rt state (.process ref readings) =
          scheduler.discarded (scheduler.arriving ValueScheduler.key packet ref) := by
        rw [overflowLoss, prepares, engineEq]
        simp only [passes, Bool.false_eq_true, ↓reduceIte, Scheduler.arriving,
          ValueScheduler.key, packet, BandwidthOptimizer.effectiveValue_queuedPacket]
      have scheduled := state.1.scheduling_pvm state.2 readings ref prepared compression
        engineEq
      rw [loss]
      refine ⟨dropped, ledger.admitted
        (facts.header.trans (BandwidthOptimizer.queuedPacket_sameHeader _ _ _))
        ((BandwidthOptimizer.queuedPacket_valueCoefficient _ _ _).trans
          (ledger.prepared_value prepares)) readings.record engineEq configured ?_ ?_⟩
      · rw [scheduled]
        rfl
      · rw [scheduled]

/-- A served packet moves from the queue to the dequeued ones. -/
theorem dequeue
    (ledger : Ledger rt config values coefficient processed dropped losses dequeued state) :
    Ledger rt config values coefficient processed dropped losses
      (dequeued + ↑(state.1.dequeue state.2).1.toList)
      ((state.1.dequeue state.2).2, state.2) := by
  obtain ⟨scheduler, tracker, engineEq⟩ := ledger.configured.pvm
  have configured := BandwidthOptimizer.dequeue_configured ledger.configured state.2
  have booked := ledger.booked tracker (by rw [engineEq, Engine.valueTracker])
  have engineAfter : (state.1.dequeue state.2).2.engine =
      .pvm values (scheduler.dequeue state.2).2 tracker := by
    simp only [BandwidthOptimizer.dequeue, engineEq, Engine.dequeue]
  have answer : (state.1.dequeue state.2).1 = (scheduler.dequeue state.2).1 := by
    simp only [BandwidthOptimizer.dequeue, engineEq, Engine.dequeue]
  have moved : (↑(scheduler.heap.map QueueEntry.packet) : Multiset PacketRef) =
      ↑(scheduler.dequeue state.2).1.toList +
        ↑((scheduler.dequeue state.2).2.heap.map QueueEntry.packet) := by
    have dequeues := scheduler.dequeue_dequeues state.2
    generalize scheduler.dequeue state.2 = outcome at dequeues ⊢
    cases dequeues with
    | empty => exact (zero_add _).symm
    | served popped =>
        exact Multiset.coe_eq_coe.mpr ((HeapQ.heappop_perm popped).map QueueEntry.packet)
  have placed := ledger.placed
  rw [engineEq, Engine.queued, moved] at placed booked
  refine ⟨configured, ledger.assigned, ledger.valued, ?_, ?_⟩
  · rw [engineAfter, answer, placed, Engine.queued]
    abel
  · intro after afterEq
    rw [engineAfter] at afterEq ⊢
    cases afterEq
    rw [answer, Engine.queued, booked.1, add_assoc]
    exact ⟨rfl, booked.2⟩

/-- The ledger of a forwarding run without exceptions. -/
theorem run
    (ledger : Ledger rt config values coefficient processed dropped losses dequeued state)
    {calls : List OptimizerCall} (forwarding : ∀ call ∈ calls, call.forwards = true)
    (quiet : ∀ reply ∈ (Machine.run (BandwidthOptimizer.call rt) state calls).1,
      reply.raised = false) :
    ∃ dropped', Ledger rt config values coefficient (processed + ↑(processedRefs calls))
      dropped' (losses + ↑(overflowLosses rt state calls))
      (dequeued + ↑(dequeuedRefs (Machine.run (BandwidthOptimizer.call rt) state calls).1))
      (Machine.run (BandwidthOptimizer.call rt) state calls).2 := by
  induction calls generalizing state processed dropped losses dequeued with
  | nil =>
      refine ⟨dropped, ?_⟩
      simpa [processedRefs, overflowLosses, dequeuedRefs] using ledger
  | cons call rest ih =>
      rw [List.forall_mem_cons] at forwarding
      rw [Machine.run_cons, List.forall_mem_cons] at quiet
      cases call with
      | process ref readings =>
          obtain ⟨result, returns⟩ :
              ∃ result, (state.1.process rt state.2 readings ref).1 = .ok result := by
            cases answer : (state.1.process rt state.2 readings ref).1 with
            | ok result => exact ⟨result, rfl⟩
            | error raised =>
                have noisy := quiet.1
                simp only [BandwidthOptimizer.call, answer, OptimizerReply.raised] at noisy
                cases noisy
          obtain ⟨dropped', entered⟩ := ledger.process returns
          obtain ⟨final, finished⟩ := ih entered forwarding.2 quiet.2
          refine ⟨final, ?_⟩
          rw [processedRefs_process, ← Multiset.cons_coe, ← Multiset.singleton_add,
            overflowLosses, ← Multiset.coe_add, ← add_assoc, ← add_assoc]
          exact finished
      | dequeue =>
          obtain ⟨final, finished⟩ := ih ledger.dequeue forwarding.2 quiet.2
          refine ⟨final, ?_⟩
          rw [Machine.run_cons, BandwidthOptimizer.call, dequeuedRefs_packet,
            ← Multiset.coe_add, ← add_assoc]
          exact finished
      | drain | drainNext | resetStats => cases forwarding.1

/-- With a ledger, the books balance exactly when the discarded packets are worth nothing
in total. -/
theorem balance_iff {start : BandwidthOptimizer × Store} {calls : List OptimizerCall}
    (ledger : Ledger rt config values coefficient (processedRefs calls) dropped losses
      (dequeuedRefs (Machine.run (BandwidthOptimizer.call rt) start calls).1)
      (Machine.run (BandwidthOptimizer.call rt) start calls).2) :
    BooksBalance rt start calls ↔ worth coefficient losses = 0 := by
  obtain ⟨scheduler, tracker, engineEq⟩ := ledger.configured.pvm
  have trackerEq : (Machine.run (BandwidthOptimizer.call rt) start calls).2.1.engine.valueTracker =
      some tracker := by rw [engineEq, Engine.valueTracker]
  obtain ⟨delivered, lost⟩ := ledger.booked tracker trackerEq
  have valueOf : ∀ refs ≤ (processedRefs calls : Multiset PacketRef),
      totalValue (Machine.run (BandwidthOptimizer.call rt) start calls).2.2 refs =
        worth coefficient refs := by
    intro refs within
    exact congrArg Multiset.sum (Multiset.map_congr rfl fun ref member =>
      ledger.valued ref (Multiset.mem_of_le within member))
  have placed := ledger.placed
  simp only [BooksBalance, trackerEq, Option.some.injEq, forall_eq', ← Multiset.coe_add]
  rw [valueOf _ (placed ▸ Multiset.le_add_left _ _), valueOf _ (Multiset.sub_le_self _ _),
    placed, add_tsub_cancel_right, delivered, lost, worth_add, worth_add _ dropped]
  constructor
  · intro balanced
    linarith [balanced.2]
  · intro nothing
    rw [nothing]
    exact ⟨zero_add _, (add_zero _).symm⟩

/-- A fresh optimizer opens an empty ledger, whatever its classifier and its packets. -/
theorem opened {clock : TrafficPriority → ℚ} {fresh : BandwidthOptimizer}
    (constructed : BandwidthOptimizer.init config (some values) clock = .ok fresh)
    (classifier : TrafficClassifier) (store : Store) :
    Ledger rt config values (fun ref => values.getCoefficient rt (store ref)) 0 0 0 0
      ({ fresh with classifier := classifier }, store) := by
  have configured := BandwidthOptimizer.init_configured constructed
  have engineEq := BandwidthOptimizer.init_engine constructed
  constructor
  · exact configured.of_kept rfl rfl ⟨rfl, rfl⟩
  · intro ref
    rfl
  · intro ref member
    cases Multiset.notMem_zero _ member
  · change 0 = 0 + 0 + (0 + (↑fresh.engine.queued : Multiset PacketRef))
    rw [engineEq]
    rfl
  · change ∀ tracker, fresh.engine.valueTracker = some tracker → _
    intro tracker trackerEq
    change _ = worth _ (0 + (0 + (↑fresh.engine.queued : Multiset PacketRef))) ∧ _
    rw [engineEq] at trackerEq ⊢
    cases trackerEq
    exact ⟨rfl, rfl⟩

end Ledger

/-- Nothing of worth is discarded in any prefix of a run exactly when every discarded
packet is worth nothing: one call discards at most one packet. -/
theorem worth_prefixes_iff (rt : Runtime) (coefficient : PacketRef → ℚ)
    (start : BandwidthOptimizer × Store) (calls : List OptimizerCall) :
    (∀ before, before <+: calls →
        worth coefficient ↑(overflowLosses rt start before) = 0) ↔
      ∀ ref ∈ overflowLosses rt start calls, coefficient ref = 0 := by
  constructor
  · intro nothing
    induction calls using List.reverseRecOn with
    | nil => simp [overflowLosses]
    | append_singleton calls call ih =>
        have earlier := ih fun before within =>
          nothing before (within.trans (List.prefix_append _ _))
        have whole := nothing _ (List.prefix_refl _)
        have part := nothing calls (List.prefix_append _ _)
        rw [overflowLosses_append] at whole ⊢
        rw [← Multiset.coe_add, worth_add, part, zero_add] at whole
        rw [List.forall_mem_append]
        refine ⟨earlier, fun ref member => ?_⟩
        simp only [overflowLosses, List.append_nil] at whole member
        have single := overflowLoss_length_le rt
          (Machine.run (BandwidthOptimizer.call rt) start calls).2 call
        obtain ⟨only, onlyEq⟩ := List.length_eq_one_iff.mp
          (le_antisymm single (List.length_pos_of_mem member))
        rw [onlyEq, Multiset.coe_singleton, worth_singleton] at whole
        rw [onlyEq, List.mem_singleton] at member
        rw [member, whole]
  · intro nothing before within
    obtain ⟨after, rfl⟩ := within
    rw [overflowLosses_append, List.forall_mem_append] at nothing
    have zeros : (overflowLosses rt start before).map coefficient =
        (overflowLosses rt start before).map fun _ => 0 :=
      List.map_congr_left nothing.1
    rw [worth, Multiset.map_coe, Multiset.sum_coe, zeros, List.map_const', List.sum_replicate,
      nsmul_zero]

/-- In every run of `process` and `dequeue` calls on a fresh optimizer with a value
policy, without exceptions: the books balance in every state of the run exactly when
every packet that the full scheduler discards has the value coefficient zero. -/
theorem books_balance_iff (rt : Runtime) (config : OptimizerConfig)
    (values : FlowValuePolicy) (clock : TrafficPriority → ℚ) (fresh : BandwidthOptimizer)
    (constructed : BandwidthOptimizer.init config (some values) clock = .ok fresh)
    (classifier : TrafficClassifier) (store : Store) (calls : List OptimizerCall)
    (forwarding : ∀ call ∈ calls, call.forwards = true)
    (quiet : ∀ reply ∈ (Machine.run (BandwidthOptimizer.call rt)
      ({ fresh with classifier := classifier }, store) calls).1, reply.raised = false) :
    let start := ({ fresh with classifier := classifier }, store)
    (∀ before, before <+: calls → BooksBalance rt start before) ↔
      ∀ ref ∈ overflowLosses rt start calls, values.getCoefficient rt (store ref) = 0 := by
  intro start
  rw [← worth_prefixes_iff]
  apply forall_congr'
  intro before
  apply forall_congr'
  intro within
  have forwards : ∀ call ∈ before, call.forwards = true :=
    fun call member => forwarding call (within.subset member)
  have silent : ∀ reply ∈ (Machine.run (BandwidthOptimizer.call rt) start before).1,
      reply.raised = false := by
    obtain ⟨after, rfl⟩ := within
    rw [Machine.run_append, List.forall_mem_append] at quiet
    exact quiet.1
  obtain ⟨dropped, ledger⟩ := (Ledger.opened constructed classifier store).run forwards silent
  rw [zero_add, zero_add, zero_add] at ledger
  exact ledger.balance_iff

/-- The books of a run in which one packet is queued and served. -/
theorem books_balance_served :
    ∃ fresh, BandwidthOptimizer.init singleSlot (some callsFirst) (fun _ => 0) = .ok fresh ∧
      ∀ before, before <+: [OptimizerCall.process 0 (.frozen 0 0), .dequeue] →
        BooksBalance (Runtime.ofSearch id fun _ _ => false) (fresh, criticalPackets) before := by
  let rt := Runtime.ofSearch id fun _ _ => false
  let calls := [OptimizerCall.process 0 (.frozen 0 0), .dequeue]
  obtain ⟨fresh, constructed⟩ := BandwidthOptimizer.singleSlot_constructs
  have evaluated : (BandwidthOptimizer.init singleSlot (some callsFirst)
      fun _ => 0).toOption.map (fun fresh =>
        ((Machine.run (BandwidthOptimizer.call rt) (fresh, criticalPackets) calls).1.map
            OptimizerReply.raised,
          overflowLosses rt (fresh, criticalPackets) calls)) =
      some ([false, false], []) := by
    decide +kernel
  rw [constructed] at evaluated
  obtain ⟨raised, losses⟩ := Prod.mk.inj (Option.some.inj evaluated)
  refine ⟨fresh, constructed, ?_⟩
  apply (books_balance_iff rt singleSlot callsFirst (fun _ => 0) fresh constructed
    fresh.classifier criticalPackets calls (by decide) ?_).mpr
  · change ∀ ref ∈ overflowLosses rt (fresh, criticalPackets) calls, _
    rw [losses]
    simp
  · intro reply member
    have listed := List.mem_map_of_mem (f := OptimizerReply.raised) member
    change _ ∈ (Machine.run (BandwidthOptimizer.call rt) (fresh, criticalPackets) calls).1.map
      OptimizerReply.raised at listed
    rw [raised] at listed
    simpa using listed

/-- A critical call displaces a critical packet of coefficient one, which stays booked as
delivered: eleven is booked and ten is queued. -/
theorem evicted_packet_booked :
    ∃ fresh, BandwidthOptimizer.init singleSlot (some callsFirst) (fun _ => 0) = .ok fresh ∧
      let rt := Runtime.ofSearch id fun _ _ => false
      let calls := [OptimizerCall.process 1 (.frozen 0 0), .process 0 (.frozen 0 0)]
      (Machine.run (BandwidthOptimizer.call rt) (fresh, criticalPackets) calls).1.map
          OptimizerReply.raised = [false, false] ∧
        ¬ BooksBalance rt (fresh, criticalPackets) calls := by
  obtain ⟨fresh, constructed⟩ := BandwidthOptimizer.singleSlot_constructs
  refine ⟨fresh, constructed, ?_⟩
  intro rt calls
  have evaluated : (BandwidthOptimizer.init singleSlot (some callsFirst)
      fun _ => 0).toOption.map (fun fresh =>
        let outcome := Machine.run (BandwidthOptimizer.call rt) (fresh, criticalPackets) calls
        (outcome.1.map OptimizerReply.raised,
          outcome.2.1.engine.valueTracker.map ValueLossTracker.totalDelivered,
          totalValue outcome.2.2
            ↑(dequeuedRefs outcome.1 ++ outcome.2.1.engine.queued))) =
      some ([false, false], some 11, 10) := by
    decide +kernel
  rw [constructed] at evaluated
  obtain ⟨raised, rest⟩ := Prod.mk.inj (Option.some.inj evaluated)
  obtain ⟨booked, queued⟩ := Prod.mk.inj rest
  refine ⟨raised, fun balance => ?_⟩
  obtain ⟨tracker, trackerEq, delivered⟩ := Option.map_eq_some_iff.mp booked
  have balanced := (balance tracker trackerEq).1
  rw [delivered, queued] at balanced
  revert balanced
  decide +kernel

end SmartBandwidth

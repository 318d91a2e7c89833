import SmartBandwidth.Pipeline.Inflation
import SmartBandwidth.Lib.EventLog
import Mathlib.Algebra.BigOperators.Ring.List
import Mathlib.Algebra.Order.BigOperators.Group.List

/-!
# The delivered rate of some traffic

The rate that the tracker reports is the value of the packets forwarded within its window.  Which
packets these are does not depend on values, so the rate is a function of the coefficients: each
counts as often as a packet of its rule was forwarded.
-/

namespace SmartBandwidth

open EventLog

/-! ## What a call records -/

/-- The tracker after a call and its reply. -/
def ValueLossTracker.after (tracker : ValueLossTracker) :
    OptimizerCall → OptimizerReply → ValueLossTracker
  | .process _ readings, .processed (.ok result) =>
      if result.dropped then tracker.recordDropped result.worth readings.record
      else tracker.recordDelivered result.worth readings.record
  | .resetStats, _ => tracker.reset
  | .process .., _ | .dequeue, _ | .drain, _ | .drainNext, _ => tracker

/-- The packet reported as forwarded. -/
def OptimizerReply.forwardedRef : OptimizerReply → Option PacketRef
  | .processed (.ok result) => if result.dropped then none else some result.packet
  | .processed (.error _) | .packet _ | .packets _ | .done => none

/-- The packet of a reply without values. -/
def ShapedReply.forwardedRef : ShapedReply → Option PacketRef
  | .processed (.ok result) => if result.dropped then none else some result.packet
  | .processed (.error _) | .handed _ | .drained _ | .done => none

theorem OptimizerReply.shape_forwardedRef (reply : OptimizerReply) :
    reply.shape.forwardedRef = reply.forwardedRef := by
  cases reply with
  | processed result => cases result <;> rfl
  | packet | packets | done => rfl

namespace BandwidthOptimizer

section Process

variable {rt : Runtime} {optimizer : BandwidthOptimizer} {store : Store}
variable {readings : ProcessReadings} {ref : PacketRef} {policy : FlowValuePolicy}
variable {scheduler : ValueScheduler} {tracker : ValueLossTracker}

theorem packet_of_process {result : ProcessResult}
    (returns : (optimizer.process rt store readings ref).1 = .ok result) :
    result.packet = ref := by
  have processes := optimizer.process_processes rt store readings ref
  generalize optimizer.process rt store readings ref = outcome at processes returns
  cases processes with
  | classifyRaised | compressRaised => cases returns
  | filtered | admitted =>
      cases returns
      rfl

/-- `process` records the worth of its result. -/
theorem process_tracker (engineEq : optimizer.engine = .pvm policy scheduler tracker) :
    ∃ next, (optimizer.process rt store readings ref).2.1.engine =
      .pvm policy next (tracker.after (.process ref readings)
        (.processed (optimizer.process rt store readings ref).1)) := by
  have policyEq : optimizer.engine.flowValuePolicy = some policy := by
    rw [engineEq]
    rfl
  have processes := optimizer.process_processes rt store readings ref
  generalize optimizer.process rt store readings ref = outcome at processes ⊢
  cases processes with
  | classifyRaised => exact ⟨scheduler, engineEq⟩
  | filtered prepares =>
      obtain ⟨packetEq, recordEq⟩ := preparation_valued policyEq prepares
      refine ⟨scheduler, ?_⟩
      rw [engineEq, packetEq, ← recordEq]
      rfl
  | compressRaised => exact ⟨scheduler, engineEq⟩
  | admitted prepares =>
      obtain ⟨packetEq, recordEq⟩ := preparation_valued policyEq prepares
      rw [scheduling_pvm _ _ _ _ _ _ engineEq, compressedPacket_valueCoefficient, packetEq,
        ← recordEq]
      exact ⟨_, rfl⟩

end Process

/-- What a call does to the tracker is told by its reply. -/
theorem call_tracker (rt : Runtime) {state : BandwidthOptimizer × Store} {policy : FlowValuePolicy}
    {scheduler : ValueScheduler} {tracker : ValueLossTracker}
    (engineEq : state.1.engine = .pvm policy scheduler tracker) (call : OptimizerCall) :
    ∃ next, (BandwidthOptimizer.call rt state call).2.1.engine =
      .pvm policy next (tracker.after call (BandwidthOptimizer.call rt state call).1) := by
  obtain ⟨⟨_, _, engine, _, _, _, _, _⟩, store⟩ := state
  cases engineEq
  cases call with
  | process ref readings => exact process_tracker rfl
  | dequeue | drain | resetStats => exact ⟨_, rfl⟩
  | drainNext =>
      simp only [BandwidthOptimizer.call]
      split
      next => exact ⟨_, rfl⟩
      next => exact ⟨_, rfl⟩

/-- A forwarded packet adds the coefficient in force, every other reply nothing. -/
theorem call_forwards (rt : Runtime) {state : BandwidthOptimizer × Store} {policy : FlowValuePolicy}
    (policyEq : state.1.engine.flowValuePolicy = some policy) (call : OptimizerCall) :
    (BandwidthOptimizer.call rt state call).1.valueDelivered =
      ((BandwidthOptimizer.call rt state call).1.forwardedRef.map fun ref =>
        policy.getCoefficient rt (state.2 ref)).getD 0 := by
  cases answers : (BandwidthOptimizer.call rt state call).1 with
  | packet | packets | done => rfl
  | processed outcome =>
      cases outcome with
      | error => rfl
      | ok result =>
          obtain ⟨ref, readings, rfl, worth⟩ := call_worth policyEq answers
          have packetEq := packet_of_process (OptimizerReply.processed.inj answers)
          rw [OptimizerReply.valueDelivered, OptimizerReply.forwardedRef, packetEq, worth]
          split <;> rfl

/-- No call changes what rules see of a packet. -/
theorem call_sameHeader (rt : Runtime) (state : BandwidthOptimizer × Store) (call : OptimizerCall)
    (ref : PacketRef) :
    (state.2 ref).SameHeader ((BandwidthOptimizer.call rt state call).2.2 ref) := by
  have unchanged : (state.2 ref).SameHeader (state.2 ref) := ⟨rfl, rfl, rfl⟩
  cases call with
  | process written readings =>
      obtain ⟨packet, stored, same⟩ := process_store state.1 state.2 readings written rt
      change (state.2 ref).SameHeader ((state.1.process rt state.2 readings written).2.2 ref)
      rw [stored]
      by_cases isWritten : ref = written
      · rw [isWritten, Store.set_self]
        exact same
      · rwa [Store.set_of_ne _ _ isWritten]
  | dequeue | drain | resetStats => exact unchanged
  | drainNext =>
      simp only [BandwidthOptimizer.call]
      split
      next => exact unchanged
      next => exact unchanged

end BandwidthOptimizer

/-! ## What a run records -/

namespace ValueLossTracker

/-- The value delivered from a time on. -/
def deliveredFrom (tracker : ValueLossTracker) (cutoff : ℚ) : ℚ :=
  ((since cutoff tracker.delivered).map Prod.snd).sum

/-- All that was delivered was recorded by some time. -/
def RecordedBy (tracker : ValueLossTracker) (time : ℚ) : Prop :=
  ∀ event ∈ tracker.delivered, event.1 ≤ time

/-- Between two trackers a value was delivered, all of it within some time.  Who looks back no
further than that, and by less than two windows, sees just this value added. -/
structure Records (opens ends : ℚ) (tracker next : ValueLossTracker) (value : ℚ) : Prop where
  window : next.window = tracker.window
  delivered : ∀ cutoff ≤ opens, ends ≤ cutoff + 2 * tracker.window →
    next.deliveredFrom cutoff = tracker.deliveredFrom cutoff + value
  recorded : tracker.RecordedBy ends → next.RecordedBy ends

variable {tracker next last : ValueLossTracker} {opens ends value other time cutoff : ℚ}

theorem deliveredFrom_of_recordedBy (recorded : tracker.RecordedBy time) (later : time < cutoff) :
    tracker.deliveredFrom cutoff = 0 := by
  have none : since cutoff tracker.delivered = [] := by
    rw [since, List.filter_eq_nil_iff]
    intro event member
    rw [decide_eq_true_iff, not_le]
    exact (recorded event member).trans_lt later
  rw [deliveredFrom, none]
  rfl

theorem Records.refl (opens ends : ℚ) (tracker : ValueLossTracker) :
    Records opens ends tracker tracker 0 where
  window := rfl
  delivered := fun _ _ _ => (add_zero _).symm
  recorded := id

theorem Records.trans (first : Records opens ends tracker next value)
    (second : Records opens ends next last other) :
    Records opens ends tracker last (value + other) where
  window := second.window.trans first.window
  delivered := by
    intro cutoff before after
    rw [second.delivered cutoff before (by rwa [first.window]), first.delivered cutoff before after,
      add_assoc]
  recorded := second.recorded ∘ first.recorded

/-- A cutoff less than two windows back is not reached by evictions. -/
theorem records_delivered (value : ℚ) (recent : opens ≤ time) (before : time ≤ ends) :
    Records opens ends tracker (tracker.recordDelivered value time) value where
  window := rfl
  delivered := by
    intro cutoff opened ended
    have kept : time - 2 * tracker.window ≤ cutoff := sub_le_iff_le_add.mpr (before.trans ended)
    have isRecent : since cutoff [(time, value)] = [(time, value)] := by
      rw [since, List.filter_singleton, decide_eq_true (opened.trans recent)]
      rfl
    rw [deliveredFrom, recordDelivered, evictOld, since_dropWhile kept, since_append, isRecent,
      List.map_append, List.sum_append, deliveredFrom]
    exact congrArg _ List.sum_singleton
  recorded := by
    intro recorded event member
    rcases List.mem_append.mp ((List.dropWhile_sublist _).subset member) with old | new
    · exact recorded event old
    · rw [List.mem_singleton.mp new]
      exact before

theorem records_dropped (opens value : ℚ) (before : time ≤ ends) :
    Records opens ends tracker (tracker.recordDropped value time) 0 where
  window := rfl
  delivered := by
    intro cutoff _ ended
    have kept : time - 2 * tracker.window ≤ cutoff := sub_le_iff_le_add.mpr (before.trans ended)
    rw [deliveredFrom, recordDropped, evictOld, since_dropWhile kept, deliveredFrom, add_zero]
  recorded := by
    intro recorded event member
    exact recorded event ((List.dropWhile_sublist _).subset member)

end ValueLossTracker

/-- A call records, if it does, within some time, and clears nothing. -/
def OptimizerCall.RecordsWithin (opens ends : ℚ) : OptimizerCall → Prop
  | .process _ readings => opens ≤ readings.record ∧ readings.record ≤ ends
  | .dequeue | .drain | .drainNext => True
  | .resetStats => False

namespace BandwidthOptimizer

variable {rt : Runtime} {state : BandwidthOptimizer × Store} {policy : FlowValuePolicy}
variable {scheduler : ValueScheduler} {tracker : ValueLossTracker} {opens ends : ℚ}

theorem after_records {call : OptimizerCall} (within : call.RecordsWithin opens ends) :
    let reply := (BandwidthOptimizer.call rt state call).1
    ValueLossTracker.Records opens ends tracker (tracker.after call reply)
      reply.valueDelivered := by
  intro reply
  cases call with
  | process ref readings =>
      change ValueLossTracker.Records opens ends tracker
        (tracker.after _ (.processed (state.1.process rt state.2 readings ref).1))
        (OptimizerReply.processed (state.1.process rt state.2 readings ref).1).valueDelivered
      cases (state.1.process rt state.2 readings ref).1 with
      | error => exact .refl opens ends tracker
      | ok result =>
          rw [ValueLossTracker.after, OptimizerReply.valueDelivered]
          split
          next => exact ValueLossTracker.records_dropped opens result.worth within.2
          next => exact ValueLossTracker.records_delivered result.worth within.1 within.2
  | dequeue | drain => exact .refl opens ends tracker
  | drainNext =>
      have silent : reply.valueDelivered = 0 := by
        simp only [reply, BandwidthOptimizer.call]
        split
        next => rfl
        next => rfl
      rw [silent]
      exact .refl opens ends tracker
  | resetStats => exact within.elim

/-- What a run delivers is the value of its replies. -/
theorem run_records (engineEq : state.1.engine = .pvm policy scheduler tracker)
    {calls : List OptimizerCall}
    (within : ∀ call ∈ calls, call.RecordsWithin opens ends) :
    let outcome := Machine.run (BandwidthOptimizer.call rt) state calls
    ∃ next last, outcome.2.1.engine = .pvm policy next last ∧
      ValueLossTracker.Records opens ends tracker last
        (outcome.1.map OptimizerReply.valueDelivered).sum := by
  induction calls generalizing state scheduler tracker with
  | nil => exact ⟨scheduler, tracker, engineEq, .refl opens ends tracker⟩
  | cons call rest ih =>
      rw [List.forall_mem_cons] at within
      obtain ⟨next, nextEq⟩ := call_tracker rt engineEq call
      have records := @after_records rt state tracker opens ends call within.1
      obtain ⟨final, last, lastEq, later⟩ := ih nextEq within.2
      exact ⟨final, last, lastEq, records.trans later⟩

/-- The value of the replies is that of the forwarded packets. -/
theorem run_forwards (engineEq : state.1.engine = .pvm policy scheduler tracker)
    (calls : List OptimizerCall) :
    ((Machine.run (BandwidthOptimizer.call rt) state calls).1.map
        OptimizerReply.valueDelivered).sum =
      (((Machine.run (BandwidthOptimizer.call rt) state calls).1.filterMap
        OptimizerReply.forwardedRef).map fun ref =>
          policy.getCoefficient rt (state.2 ref)).sum := by
  induction calls generalizing state scheduler tracker with
  | nil => rfl
  | cons call rest ih =>
      obtain ⟨next, nextEq⟩ := call_tracker rt engineEq call
      have policyEq : state.1.engine.flowValuePolicy = some policy := by
        rw [engineEq]
        rfl
      have first := call_forwards rt policyEq call
      have later := ih nextEq
      have headers : (fun ref => policy.getCoefficient rt
            ((BandwidthOptimizer.call rt state call).2.2 ref)) =
          fun ref => policy.getCoefficient rt (state.2 ref) := by
        funext ref
        exact policy.getCoefficient_of_sameHeader rt (call_sameHeader rt state call ref)
      rw [headers] at later
      rw [Machine.run_cons, List.map_cons, List.sum_cons, first, later, List.filterMap_cons]
      cases (BandwidthOptimizer.call rt state call).1.forwardedRef with
      | none => exact zero_add _
      | some ref => exact List.sum_cons.symm

end BandwidthOptimizer

/-! ## Loads -/

namespace FlowValuePolicy

/-- The name of the rule that a packet matches first. -/
def ruleName? (rt : Runtime) (policy : FlowValuePolicy) (packet : Packet) : Option String :=
  (policy.matchingRule rt packet).map fun found => found.2.name

/-- The worth of a packet of some rule, or of none, under given coefficients of the rules. -/
def worthAt (policy : FlowValuePolicy) (coefficients : String → ℚ) : Option String → ℚ
  | some name => coefficients name
  | none => policy.defaultCoefficient

/-- The worth of packets of given rules. -/
def loadWorth (policy : FlowValuePolicy) (coefficients : String → ℚ)
    (load : List (Option String)) : ℚ :=
  (load.map (policy.worthAt coefficients)).sum

variable {policy : FlowValuePolicy} {load : List (Option String)}

theorem loadWorth_perm {other : List (Option String)} (perm : load.Perm other)
    (coefficients : String → ℚ) :
    policy.loadWorth coefficients load = policy.loadWorth coefficients other :=
  (perm.map _).sum_eq

theorem loadWorth_mono (policy : FlowValuePolicy) (load : List (Option String)) :
    Monotone fun coefficients => policy.loadWorth coefficients load := by
  intro smaller larger ordered
  apply List.sum_le_sum
  intro name _
  cases name with
  | none => exact le_rfl
  | some name => exact ordered name

/-- A load that is in part worth the default shrinks by less than its coefficients. -/
theorem loadWorth_scale (nonneg : 0 ≤ policy.defaultCoefficient) {share : ℚ} (le_one : share ≤ 1)
    (coefficients : String → ℚ) (load : List (Option String)) :
    share * policy.loadWorth coefficients load ≤
      policy.loadWorth (fun name => share * coefficients name) load := by
  rw [loadWorth, ← List.sum_map_mul_left]
  apply List.sum_le_sum
  intro name _
  cases name with
  | none => exact mul_le_of_le_one_left nonneg le_one
  | some name => exact le_rfl

end FlowValuePolicy

/-- The rules of the packets that replies report as forwarded. -/
def forwardedRules (rt : Runtime) (policy : FlowValuePolicy) (store : Store)
    (replies : List OptimizerReply) : List (Option String) :=
  (replies.filterMap OptimizerReply.forwardedRef).map fun ref => policy.ruleName? rt (store ref)

theorem FlowValuePolicy.ruleName?_of_sameHeader (rt : Runtime) (policy : FlowValuePolicy)
    {packet later : Packet} (same : packet.SameHeader later) :
    policy.ruleName? rt later = policy.ruleName? rt packet := by
  have conditions : ruleMatches rt later = ruleMatches rt packet := by
    funext rule
    simp only [ruleMatches, headerMatches, same.srcPort, same.dstPort, same.protocol]
  rw [ruleName?, matchingRule, conditions, ruleName?, matchingRule]

/-- Values change neither which packets are forwarded nor the rules that they match. -/
theorem forwardedRules_of_shapes (rt : Runtime) (policy : FlowValuePolicy) {store other : Store}
    (stores : store.unvalued = other.unvalued) {replies others : List OptimizerReply}
    (shapes : replies.map OptimizerReply.shape = others.map OptimizerReply.shape) :
    forwardedRules rt policy store replies = forwardedRules rt policy other others := by
  have refs (replies : List OptimizerReply) : replies.filterMap OptimizerReply.forwardedRef =
      (replies.map OptimizerReply.shape).filterMap ShapedReply.forwardedRef := by
    rw [List.filterMap_map]
    exact congrArg (List.filterMap · replies) (funext fun reply => reply.shape_forwardedRef.symm)
  rw [forwardedRules, forwardedRules, refs, refs, shapes]
  apply List.map_congr_left
  intro ref _
  have same := Packet.SameHeader.of_unvalued (congrFun stores ref)
  exact (policy.ruleName?_of_sameHeader rt same).symm

end SmartBandwidth

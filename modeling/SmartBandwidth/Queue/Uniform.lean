import SmartBandwidth.Queue.Refinement
import SmartBandwidth.Lib.HeapImage
import Mathlib.Order.Monotone.Basic
import Mathlib.Tactic.Linarith

/-!
# Uniform value coefficients

When every packet has the same positive coefficient, the value key of a packet is a
strictly increasing function of its class value.  The two schedulers then go through the
same heaps, entry by entry, under different keys.
-/

namespace SmartBandwidth

variable {K K' : Type} [LinearOrder K] [LinearOrder K']

/-- An entry under another key. -/
def QueueEntry.withKey (image : K → K') (entry : QueueEntry K) : QueueEntry K' where
  key := image entry.key
  sequence := entry.sequence
  packet := entry.packet

/-- A scheduler whose entries have other keys. -/
def Scheduler.withKeys (image : K → K') (scheduler : Scheduler K) : Scheduler K' where
  maxSize := scheduler.maxSize
  heap := scheduler.heap.map (QueueEntry.withKey image)
  counter := scheduler.counter
  enqueueCounts := scheduler.enqueueCounts
  dequeueCounts := scheduler.dequeueCounts
  droppedOverflow := scheduler.droppedOverflow

/-! ## Reports -/

/-- Calls on a scheduler, those included that only report on it. -/
inductive ReportedCall where
  | operation (call : SchedulerCall)
  | stats
  | isEmpty
  | isFull

/-- Return values of these calls. -/
inductive ReportedReply where
  | operation (reply : SchedulerReply)
  | stats (stats : SchedulerStats)
  | flag (value : Bool)

/-- One such call on a scheduler whose packets live in a store. -/
def Scheduler.reported (keyOf : Packet → K) (state : Scheduler K × Store) :
    ReportedCall → ReportedReply × (Scheduler K × Store)
  | .operation call =>
      let (reply, state) := Scheduler.call keyOf state call
      (.operation reply, state)
  | .stats => (.stats state.1.stats, state)
  | .isEmpty => (.flag state.1.isEmpty, state)
  | .isFull => (.flag state.1.isFull, state)

/-! ## Operations under another key -/

namespace Scheduler

section Image

variable {image : K → K'}

omit [LinearOrder K] [LinearOrder K'] in
@[simp] theorem withKeys_length (image : K → K') (scheduler : Scheduler K) :
    (scheduler.withKeys image).length = scheduler.length :=
  List.length_map _

/-- A strictly increasing change of keys keeps the order of the entries. -/
theorem keepsOrder_withKey (increasing : StrictMono image) :
    HeapQ.KeepsOrder (@QueueEntry.sortKey K) (@QueueEntry.sortKey K')
      (QueueEntry.withKey image) := by
  intro left right
  simp only [QueueEntry.sortKey, Prod.Lex.toLex_lt_toLex, QueueEntry.withKey,
    increasing.lt_iff_lt, increasing.injective.eq_iff]

theorem replacesWorst_withKey (increasing : StrictMono image) (entry worst : QueueEntry K) :
    replacesWorst (entry.withKey image) (worst.withKey image) = replacesWorst entry worst := by
  rw [Bool.eq_iff_iff]
  simp only [replacesWorst, Bool.or_eq_true, Bool.and_eq_true, decide_eq_true_eq, gt_iff_lt]
  exact or_congr increasing.lt_iff_lt (and_congr increasing.injective.eq_iff Iff.rfl)

theorem findWorstFrom_withKey (increasing : StrictMono image) (slot worstIdx : Nat)
    (worst : QueueEntry K) (entries : List (QueueEntry K)) :
    findWorstFrom slot worstIdx (worst.withKey image) (entries.map (QueueEntry.withKey image)) =
      ((findWorstFrom slot worstIdx worst entries).1,
        (findWorstFrom slot worstIdx worst entries).2.withKey image) := by
  induction entries generalizing slot worstIdx worst with
  | nil => rfl
  | cons entry entries ih =>
      simp only [List.map_cons, findWorstFrom, replacesWorst_withKey increasing, ih]
      split <;> rfl

theorem findWorst_withKey (increasing : StrictMono image) (entries : List (QueueEntry K)) :
    findWorst (entries.map (QueueEntry.withKey image)) =
      (findWorst entries).map fun found => (found.1, found.2.withKey image) := by
  cases entries with
  | nil => rfl
  | cons first entries =>
      simp only [findWorst, List.map_cons, Option.map_some]
      rw [← List.map_cons, findWorstFrom_withKey increasing]

theorem removeAt_withKey (increasing : StrictMono image) (entries : List (QueueEntry K))
    (idx : Nat) :
    removeAt (entries.map (QueueEntry.withKey image)) idx =
      (removeAt entries idx).map (QueueEntry.withKey image) := by
  simp only [removeAt, List.getLast?_map]
  cases entries.getLast? with
  | none => rfl
  | some last =>
      simp only [Option.map_some]
      rw [← (keepsOrder_withKey increasing).heapify_map, List.map_dropLast, List.map_set]

theorem push_withKey (increasing : StrictMono image) (scheduler : Scheduler K)
    (priority : TrafficPriority) (entry : QueueEntry K) :
    (scheduler.withKeys image).push priority (entry.withKey image) =
      (scheduler.push priority entry).withKeys image := by
  simp only [push, withKeys, (keepsOrder_withKey increasing).heappush_map]

theorem insertEntry_withKey (increasing : StrictMono image) (scheduler : Scheduler K)
    (priority : TrafficPriority) (entry : QueueEntry K) :
    (scheduler.withKeys image).insertEntry priority (entry.withKey image) =
      ((scheduler.insertEntry priority entry).1,
        (scheduler.insertEntry priority entry).2.withKeys image) := by
  have full : (scheduler.withKeys image).maxSize ≤ (scheduler.withKeys image).heap.length ↔
      scheduler.maxSize ≤ scheduler.heap.length := by
    simp [withKeys]
  rw [insertEntry, insertEntry]
  by_cases filled : scheduler.maxSize ≤ scheduler.heap.length
  · rw [if_pos (full.mpr filled), if_pos filled]
    have found : findWorst (scheduler.withKeys image).heap =
        (findWorst scheduler.heap).map fun found => (found.1, found.2.withKey image) :=
      findWorst_withKey increasing scheduler.heap
    rw [found]
    cases findWorst scheduler.heap with
    | none => exact Prod.ext rfl (push_withKey increasing scheduler priority entry)
    | some worst =>
        simp only [Option.map_some, QueueEntry.withKey, increasing.lt_iff_lt]
        split
        next => rfl
        next =>
          refine Prod.ext rfl ?_
          rw [← push_withKey increasing]
          simp only [withKeys, removeAt_withKey increasing]
          rfl
  · rw [if_neg (mt full.mp filled), if_neg filled]
    exact Prod.ext rfl (push_withKey increasing scheduler priority entry)

/-- Taking the first entry does not depend on the keys but through their order. -/
theorem dequeue_withKey (increasing : StrictMono image) (scheduler : Scheduler K)
    (store : Store) :
    (scheduler.withKeys image).dequeue store =
      ((scheduler.dequeue store).1, (scheduler.dequeue store).2.withKeys image) := by
  have popped : HeapQ.heappop QueueEntry.sortKey (scheduler.withKeys image).heap =
      (HeapQ.heappop QueueEntry.sortKey scheduler.heap).map fun popped =>
        (popped.1.withKey image, popped.2.map (QueueEntry.withKey image)) :=
    (keepsOrder_withKey increasing).heappop_map scheduler.heap
  rw [dequeue, dequeue, popped]
  cases HeapQ.heappop QueueEntry.sortKey scheduler.heap <;> rfl

theorem drainLoop_withKey (increasing : StrictMono image) (store : Store) (fuel : Nat)
    (scheduler : Scheduler K) :
    drainLoop store fuel (scheduler.withKeys image) =
      ((drainLoop store fuel scheduler).1,
        (drainLoop store fuel scheduler).2.withKeys image) := by
  induction fuel generalizing scheduler with
  | zero => rfl
  | succ fuel ih =>
      by_cases empty : scheduler.isEmpty
      · have emptyImage : (scheduler.withKeys image).isEmpty = true := by
          rw [isEmpty, withKeys_length]
          exact empty
        simp only [drainLoop, empty, emptyImage, ↓reduceIte]
      · have nonemptyImage : ¬ (scheduler.withKeys image).isEmpty = true := by
          rw [isEmpty, withKeys_length]
          exact empty
        simp only [drainLoop, empty, nonemptyImage, ↓reduceIte, Bool.false_eq_true,
          dequeue_withKey increasing]
        cases scheduler.dequeue store with
        | mk answer rest => cases answer <;> simp [ih]

variable {keyOf : Packet → K} {keyOf' : Packet → K'}

/-- An arriving packet whose keys correspond is treated alike. -/
theorem enqueue_withKey (increasing : StrictMono image) (scheduler : Scheduler K)
    (store : Store) (now : ℚ) (ref : PacketRef)
    (corresponds : keyOf' ((store ref).stamped now) = image (keyOf ((store ref).stamped now))) :
    Scheduler.enqueue keyOf' (scheduler.withKeys image) store now ref =
      ((Scheduler.enqueue keyOf scheduler store now ref).1,
        (Scheduler.enqueue keyOf scheduler store now ref).2.1.withKeys image,
        (Scheduler.enqueue keyOf scheduler store now ref).2.2) := by
  have entryEq : (⟨keyOf' ((store ref).stamped now), scheduler.counter, ref⟩ : QueueEntry K') =
      QueueEntry.withKey image ⟨keyOf ((store ref).stamped now), scheduler.counter, ref⟩ := by
    rw [corresponds]
    rfl
  have inserted : (scheduler.withKeys image).draw.insertEntry (store ref).effectivePriority
      ⟨keyOf' ((store ref).stamped now), (scheduler.withKeys image).counter, ref⟩ =
        ((scheduler.draw.insertEntry (store ref).effectivePriority
            ⟨keyOf ((store ref).stamped now), scheduler.counter, ref⟩).1,
          (scheduler.draw.insertEntry (store ref).effectivePriority
            ⟨keyOf ((store ref).stamped now), scheduler.counter, ref⟩).2.withKeys image) := by
    rw [← insertEntry_withKey increasing, ← entryEq]
    rfl
  simp only [Scheduler.enqueue, Store.set_self]
  rw [inserted]

/-- Every call answers alike under corresponding keys. -/
theorem call_withKey (increasing : StrictMono image) (state : Scheduler K × Store)
    (call : SchedulerCall)
    (corresponds : ∀ ref now, call = .enqueue ref now →
      keyOf' ((state.2 ref).stamped now) = image (keyOf ((state.2 ref).stamped now))) :
    Scheduler.call keyOf' (state.1.withKeys image, state.2) call =
      ((Scheduler.call keyOf state call).1,
        ((Scheduler.call keyOf state call).2.1.withKeys image,
          (Scheduler.call keyOf state call).2.2)) := by
  cases call with
  | enqueue ref now =>
      simp only [Scheduler.call, enqueue_withKey increasing state.1 state.2 now ref
        (corresponds ref now rfl)]
  | dequeue => simp only [Scheduler.call, dequeue_withKey increasing]
  | peek =>
      simp only [Scheduler.call, peek, withKeys, List.head?_map, Option.map_map]
      rfl
  | len => simp only [Scheduler.call, withKeys_length]
  | drain =>
      simp only [Scheduler.call, drain, withKeys_length, drainLoop_withKey increasing]
  | drainNext =>
      rw [Scheduler.call_drainNext, Scheduler.call_drainNext]
      simp only [Scheduler.call, dequeue_withKey increasing]
  | resetStats => rfl

/-- Every call answers alike under corresponding keys, and so does every report. -/
theorem reported_withKey (increasing : StrictMono image) (state : Scheduler K × Store)
    (call : ReportedCall)
    (corresponds : ∀ ref now, call = .operation (.enqueue ref now) →
      keyOf' ((state.2 ref).stamped now) = image (keyOf ((state.2 ref).stamped now))) :
    Scheduler.reported keyOf' (state.1.withKeys image, state.2) call =
      ((Scheduler.reported keyOf state call).1,
        ((Scheduler.reported keyOf state call).2.1.withKeys image,
          (Scheduler.reported keyOf state call).2.2)) := by
  cases call with
  | operation call =>
      simp only [Scheduler.reported]
      rw [call_withKey increasing state call fun ref now same =>
        corresponds ref now (congrArg ReportedCall.operation same)]
  | stats => simp [Scheduler.reported, stats, withKeys]
  | isEmpty => simp [Scheduler.reported, isEmpty]
  | isFull => simp [Scheduler.reported, isFull, withKeys]

end Image

/-! ## Runs -/

/-- A call writes nothing of a packet but its time stamp. -/
theorem reported_valueCoefficient (keyOf : Packet → K) (state : Scheduler K × Store)
    (call : ReportedCall) (ref : PacketRef) :
    ((Scheduler.reported keyOf state call).2.2 ref).valueCoefficient =
      (state.2 ref).valueCoefficient := by
  cases call with
  | operation call =>
      cases call with
      | enqueue arriving now =>
          simp only [Scheduler.reported, Scheduler.call, Scheduler.enqueue]
          by_cases same : ref = arriving
          · rw [same, Store.set_self]
            rfl
          · rw [Store.set_of_ne _ _ same]
      | drainNext =>
          simp only [Scheduler.reported, Scheduler.call]
          split <;> rfl
      | dequeue => rfl
      | peek => rfl
      | len => rfl
      | drain => rfl
      | resetStats => rfl
  | stats => rfl
  | isEmpty => rfl
  | isFull => rfl

/-- The value key of a packet of coefficient `coefficient`, as a function of its class
value. -/
def uniformKey (coefficient : ℚ) (value : Nat) : ℚ := -(coefficient * (6 - value))

theorem uniformKey_strictMono {coefficient : ℚ} (positive : 0 < coefficient) :
    StrictMono (uniformKey coefficient) := by
  intro left right less
  have values : (left : ℚ) < right := by exact_mod_cast less
  rw [uniformKey, uniformKey, neg_lt_neg_iff]
  exact mul_lt_mul_of_pos_left (sub_lt_sub_left values 6) positive

theorem valueKey_eq_uniformKey {packet : Packet} (positive : 0 < packet.valueCoefficient) :
    ValueScheduler.key packet =
      uniformKey packet.valueCoefficient (PriorityScheduler.key packet) := by
  rw [ValueScheduler.key, ValueScheduler.effectiveValue, uniformKey, PriorityScheduler.key,
    max_eq_right positive.le]
  cases packet.effectivePriority <;> norm_num [priorityMultiplier, TrafficPriority.value]

/-- Runs over packets of one positive coefficient go through the same heaps. -/
private theorem run_uniform {coefficient : ℚ} (positive : 0 < coefficient)
    (state : PriorityScheduler × Store) {calls : List ReportedCall}
    (uniform : ∀ ref now, ReportedCall.operation (.enqueue ref now) ∈ calls →
      (state.2 ref).valueCoefficient = coefficient) :
    Machine.run (Scheduler.reported ValueScheduler.key)
        (state.1.withKeys (uniformKey coefficient), state.2) calls =
      ((Machine.run (Scheduler.reported PriorityScheduler.key) state calls).1,
        ((Machine.run (Scheduler.reported PriorityScheduler.key) state calls).2.1.withKeys
            (uniformKey coefficient),
          (Machine.run (Scheduler.reported PriorityScheduler.key) state calls).2.2)) := by
  induction calls generalizing state with
  | nil => rfl
  | cons call calls ih =>
      have corresponds : ∀ ref now, call = .operation (.enqueue ref now) →
          ValueScheduler.key ((state.2 ref).stamped now) =
            uniformKey coefficient (PriorityScheduler.key ((state.2 ref).stamped now)) := by
        rintro ref now rfl
        obtain rfl : (state.2 ref).valueCoefficient = coefficient :=
          uniform ref now List.mem_cons_self
        have stampedPositive : 0 < ((state.2 ref).stamped now).valueCoefficient := positive
        exact valueKey_eq_uniformKey stampedPositive
      have step := reported_withKey (uniformKey_strictMono positive) state call corresponds
      have rest := ih (Scheduler.reported PriorityScheduler.key state call).2 (by
        intro ref now member
        rw [reported_valueCoefficient]
        exact uniform ref now (List.mem_cons_of_mem call member))
      simp only [Machine.run_cons]
      rw [step, rest]

/-- Over packets of one positive coefficient the value scheduler and the priority scheduler
give the same answers: to enqueue, dequeue, peek and every other call, and to every report on
their statistics. -/
theorem uniform_value_equivalence {coefficient : ℚ} (positive : 0 < coefficient)
    (maxQueueSize : Int) (store : Store) (calls : List ReportedCall)
    (uniform : ∀ ref now, ReportedCall.operation (.enqueue ref now) ∈ calls →
      (store ref).valueCoefficient = coefficient) :
    (Machine.run (Scheduler.reported ValueScheduler.key)
        (Scheduler.init maxQueueSize, store) calls).1 =
      (Machine.run (Scheduler.reported PriorityScheduler.key)
        (Scheduler.init maxQueueSize, store) calls).1 :=
  congrArg Prod.fst (run_uniform positive (Scheduler.init maxQueueSize, store) uniform)

/-- Two packets of the default coefficient in a queue of one. -/
theorem uniform_value_equivalence_single :
    (Machine.run (Scheduler.reported ValueScheduler.key) (Scheduler.init 1, fun _ => {})
        [.operation (.enqueue 0 0), .operation (.enqueue 1 1), .operation .dequeue, .stats]).1 =
      (Machine.run (Scheduler.reported PriorityScheduler.key) (Scheduler.init 1, fun _ => {})
        [.operation (.enqueue 0 0), .operation (.enqueue 1 1), .operation .dequeue, .stats]).1 :=
  uniform_value_equivalence one_pos 1 (fun _ => {}) _ fun _ _ _ => rfl

end Scheduler

end SmartBandwidth

import SmartBandwidth.Sla.Rates

/-!
# The load of the queue

How many packets a scheduler holds, has discarded and has served does not depend on the keys it
sorts by: a full queue discards one packet at each arrival, whichever it is.
-/

namespace SmartBandwidth

/-- How many packets a queue may hold, holds, has discarded and has served. -/
structure QueueLoad where
  limit : Nat
  queued : Nat
  overflowed : Nat
  served : Nat
  deriving DecidableEq, Repr

namespace QueueLoad

/-- An arrival: a full queue discards a packet, be it this one or another. -/
def arrive (load : QueueLoad) : QueueLoad :=
  if load.limit ≤ load.queued then { load with overflowed := load.overflowed + 1 }
  else { load with queued := load.queued + 1 }

theorem arrive_of_room {load : QueueLoad} (room : load.queued < load.limit) :
    load.arrive = { load with queued := load.queued + 1 } :=
  if_neg (not_le.mpr room)

theorem arrive_of_full {load : QueueLoad} (full : load.limit ≤ load.queued) :
    load.arrive = { load with overflowed := load.overflowed + 1 } :=
  if_pos full

/-- The service of some of the queued packets. -/
def serve (load : QueueLoad) (count : Nat) : QueueLoad :=
  { load with queued := load.queued - count, served := load.served + count }

theorem serve_serve (load : QueueLoad) (first second : Nat) :
    (load.serve first).serve second = load.serve (first + second) := by
  rw [serve, serve, serve, Nat.sub_sub, Nat.add_assoc]

/-- The counters are cleared. -/
def reset (load : QueueLoad) : QueueLoad := { load with overflowed := 0, served := 0 }

end QueueLoad

namespace Scheduler

variable {K : Type} [LinearOrder K]

/-- The load of a scheduler. -/
def load (scheduler : Scheduler K) : QueueLoad where
  limit := scheduler.maxSize
  queued := scheduler.length
  overflowed := scheduler.droppedOverflow
  served := ∑ priority, scheduler.dequeueCounts priority

theorem insertEntry_load (scheduler : Scheduler K) (positive : 0 < scheduler.maxSize)
    (priority : TrafficPriority) (entry : QueueEntry K) :
    (scheduler.insertEntry priority entry).2.load = scheduler.load.arrive := by
  have inserts := scheduler.insertEntry_inserts positive priority entry
  generalize scheduler.insertEntry priority entry = outcome at inserts ⊢
  cases inserts with
  | room space =>
      have pushed := (scheduler.push_perm priority entry).length_eq
      rw [List.length_cons] at pushed
      rw [@QueueLoad.arrive_of_room scheduler.load space, load, length, pushed]
      rfl
  | refused full =>
      rw [@QueueLoad.arrive_of_full scheduler.load full]
      rfl
  | evicted full found =>
      have exchanged := (evicted_perm found priority entry).length_eq
      rw [List.length_cons, List.length_cons] at exchanged
      rw [@QueueLoad.arrive_of_full scheduler.load full, load, length, Nat.succ.inj exchanged]
      rfl

theorem dequeue_load (scheduler : Scheduler K) (store : Store) :
    (scheduler.dequeue store).1.isSome = decide (0 < scheduler.length) ∧
      (scheduler.dequeue store).2.load = scheduler.load.serve (min 1 scheduler.length) := by
  have served := scheduler.dequeue_served store
  have dequeues := scheduler.dequeue_dequeues store
  generalize scheduler.dequeue store = outcome at dequeues served ⊢
  cases dequeues with
  | empty empty =>
      rw [load, QueueLoad.serve, length, empty]
      exact ⟨rfl, rfl⟩
  | served popped =>
      have shorter := (HeapQ.heappop_perm popped).length_eq
      rw [List.length_cons] at shorter
      have one : min 1 scheduler.length = 1 := by
        rw [length, shorter]
        exact min_eq_left (Nat.le_add_left 1 _)
      rw [one, QueueLoad.serve, load, served]
      simp [load, length, shorter]

theorem drainLoop_load (store : Store) {fuel : Nat} {scheduler : Scheduler K}
    (enough : scheduler.length ≤ fuel) :
    (drainLoop store fuel scheduler).1.length = scheduler.length ∧
      (drainLoop store fuel scheduler).2.load = scheduler.load.serve scheduler.length := by
  induction fuel generalizing scheduler with
  | zero =>
      have empty : scheduler.length = 0 := Nat.le_zero.mp enough
      rw [drainLoop, empty]
      exact ⟨rfl, rfl⟩
  | succ fuel ih =>
      have step := scheduler.dequeue_load store
      rw [drainLoop]
      split
      next empty =>
        have none : scheduler.length = 0 := beq_iff_eq.mp empty
        rw [none]
        exact ⟨rfl, rfl⟩
      next inhabited =>
        have positive : 0 < scheduler.length := Nat.pos_of_ne_zero fun none =>
          inhabited (beq_iff_eq.mpr none)
        rw [min_eq_left (show 1 ≤ scheduler.length from positive)] at step
        split
        next ref rest served =>
          rw [served] at step
          have length : rest.length = scheduler.length - 1 := congrArg QueueLoad.queued step.2
          have shorter : rest.length ≤ fuel := by omega
          obtain ⟨count, final⟩ := ih shorter
          refine ⟨?_, ?_⟩
          · rw [List.length_cons, count, length]
            exact Nat.sub_add_cancel positive
          · simp only
            rw [final, step.2, length, QueueLoad.serve_serve, Nat.add_sub_cancel' positive]
        next rest served =>
          rw [served, decide_eq_true positive] at step
          cases step.1

end Scheduler

namespace Engine

/-- The load of the engine's scheduler. -/
def load : Engine → QueueLoad
  | .plain scheduler => scheduler.load
  | .pvm _ scheduler _ => scheduler.load

theorem load_queued (engine : Engine) : engine.load.queued = engine.length := by
  cases engine <;> rfl

theorem enqueue_load (engine : Engine) (positive : 0 < engine.maxSize) (store : Store) (now : ℚ)
    (ref : PacketRef) : (engine.enqueue store now ref).2.1.load = engine.load.arrive := by
  cases engine with
  | plain scheduler => exact scheduler.draw.insertEntry_load positive _ _
  | pvm policy scheduler tracker => exact scheduler.draw.insertEntry_load positive _ _

theorem dequeue_load (engine : Engine) (store : Store) :
    (engine.dequeue store).1.isSome = decide (0 < engine.load.queued) ∧
      (engine.dequeue store).2.load = engine.load.serve (min 1 engine.load.queued) := by
  cases engine with
  | plain scheduler => exact scheduler.dequeue_load store
  | pvm policy scheduler tracker => exact scheduler.dequeue_load store

theorem drain_load (engine : Engine) (store : Store) :
    (engine.drain store).1.length = engine.load.queued ∧
      (engine.drain store).2.load = engine.load.serve engine.load.queued := by
  cases engine with
  | plain scheduler => exact Scheduler.drainLoop_load store le_rfl
  | pvm policy scheduler tracker => exact Scheduler.drainLoop_load store le_rfl

theorem resetStats_load (engine : Engine) : engine.resetStats.load = engine.load.reset := by
  cases engine with
  | plain scheduler =>
      exact congrArg (QueueLoad.mk scheduler.maxSize scheduler.length 0) Finset.sum_const_zero
  | pvm policy scheduler tracker =>
      exact congrArg (QueueLoad.mk scheduler.maxSize scheduler.length 0) Finset.sum_const_zero

theorem recordDropped_load (engine : Engine) (value now : ℚ) :
    (engine.recordDropped value now).load = engine.load := by
  cases engine <;> rfl

theorem recordDelivered_load (engine : Engine) (value now : ℚ) :
    (engine.recordDelivered value now).load = engine.load := by
  cases engine <;> rfl

end Engine

end SmartBandwidth

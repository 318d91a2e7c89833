import SmartBandwidth.Flow.Concurrent
import Mathlib.Algebra.BigOperators.Group.List.Basic
import Mathlib.Data.List.Permutation
import Mathlib.Tactic.Linarith

/-!
# Linearization of flow updates

A sequential order runs each call at the moment of its lookup, and updates its record before
the next lookup.  It is then ahead of the concurrent table: it has already counted the packets
of the calls in flight.  Nothing else differs as long as the lookups evict the flows that they
evict in that order; where one does not, a packet can be lost.
-/

namespace SmartBandwidth

/-! ## Tables of the same age -/

namespace FlowTracker

/-- Two records of a flow were last seen at the same time. -/
def SameAge (_ : FlowKey) (record record' : FlowRecord) : Prop :=
  record.lastSeen = record'.lastSeen

variable {left right : FlowTracker}

theorem longestIdle_eq {clock : Nat → ℚ} {slot : Nat} {oldest : FlowKey} {idle : ℚ}
    {entries entries' : List (FlowKey × FlowRecord)}
    (same : List.Forall₂ (fun entry entry' => entry.1 = entry'.1 ∧
      SameAge entry.1 entry.2 entry'.2) entries entries') :
    longestIdle clock slot oldest idle entries = longestIdle clock slot oldest idle entries' := by
  induction same generalizing slot oldest idle with
  | nil => rfl
  | cons head _ ih =>
      obtain ⟨sameKey, sameTime⟩ := head
      simp only [longestIdle]
      rw [sameKey, sameTime]
      split
      · exact ih
      · exact ih

/-- Tables of the same age evict the same flow when they are full. -/
theorem evictOldest_sameAge (aligned : Dict.Aligned SameAge left.table right.table)
    (clock : Nat → ℚ) :
    Dict.Aligned SameAge (left.evictOldest clock).table (right.evictOldest clock).table := by
  have entries := aligned.entries
  simp only [evictOldest]
  cases leftEq : left.table.entries with
  | nil =>
      rw [leftEq] at entries
      cases rightEq : right.table.entries with
      | nil => exact aligned
      | cons =>
          rw [rightEq] at entries
          cases entries
  | cons entry rest =>
      cases rightEq : right.table.entries with
      | nil =>
          rw [leftEq, rightEq] at entries
          cases entries
      | cons entry' rest' =>
          rw [leftEq, rightEq] at entries
          cases entries with
          | cons head tail =>
              have sameTime : entry.2.lastSeen = entry'.2.lastSeen := head.2
              simp only [head.1, sameTime, longestIdle_eq tail]
              exact aligned.erase _

/-- They evict the same flows as expired. -/
theorem evictExpired_sameAge (flowTtl : left.flowTtl = right.flowTtl)
    (aligned : Dict.Aligned SameAge left.table right.table) (now : ℚ) :
    Dict.Aligned SameAge (left.evictExpired now).table (right.evictExpired now).table := by
  simp only [evictExpired]
  apply aligned.filter
  intro key record record' _ sameAge
  have sameTime : record.lastSeen = record'.lastSeen := sameAge
  rw [flowTtl, sameTime]

theorem lookup_sameAge (flowTtl : left.flowTtl = right.flowTtl)
    (maxFlows : left.maxFlows = right.maxFlows)
    (aligned : Dict.Aligned SameAge left.table right.table) (key : FlowKey)
    (readings : FlowReadings) :
    Dict.Aligned SameAge (left.lookup key readings).2.table
      (right.lookup key readings).2.table := by
  have swept := evictExpired_sameAge flowTtl aligned readings.expire
  have sameSize := swept.size_eq
  have sameLimit : (left.evictExpired readings.expire).maxFlows =
      (right.evictExpired readings.expire).maxFlows := maxFlows
  simp only [lookup]
  cases found : (left.evictExpired readings.expire).table.get? key with
  | some record =>
      obtain ⟨record', found', _⟩ := swept.present found
      rw [found']
      exact swept
  | none =>
      rw [(swept.absent_iff key).mp found]
      simp only [sameSize, sameLimit]
      split
      next => exact (evictOldest_sameAge swept readings.idle).set rfl fun _ _ _ _ _ holds => holds
      next => exact swept.set rfl fun _ _ _ _ _ holds => holds

/-- The same flows stay in tables of the same age. -/
theorem stays_eq (flowTtl : left.flowTtl = right.flowTtl)
    (maxFlows : left.maxFlows = right.maxFlows)
    (aligned : Dict.Aligned SameAge left.table right.table) (key : FlowKey)
    (readings : FlowReadings) : left.stays key readings = right.stays key readings :=
  Prod.ext (evictExpired_sameAge flowTtl aligned readings.expire).keys_eq
    (lookup_sameAge flowTtl maxFlows aligned key readings).keys_eq

/-- The record that is looked up: the one of the table, or a new one. -/
theorem lookup_record (tracker : FlowTracker) (key : FlowKey) (readings : FlowReadings) :
    (tracker.lookup key readings).1 =
      ((tracker.evictExpired readings.expire).table.get? key).getD (newRecord key readings) := by
  simp only [lookup]
  cases (tracker.evictExpired readings.expire).table.get? key with
  | some record => rfl
  | none => rfl

/-- The table with other times lists the same flows. -/
theorem get?_lastSeenAt (tracker : FlowTracker) (times : FlowKey → ℚ) (key : FlowKey) :
    (tracker.lastSeenAt times).table.get? key =
      (tracker.table.get? key).map fun record => { record with lastSeen := times key } :=
  Dict.get?_mapValues ..

/-- Times at which the flows were last seen change nothing. -/
theorem lastSeenAt_eq {tracker : FlowTracker} {times : FlowKey → ℚ}
    (same : ∀ key record, tracker.table.get? key = some record →
      times key = record.lastSeen) : tracker.lastSeenAt times = tracker := by
  have kept : tracker.table.entries.map (fun entry =>
      (entry.1, { entry.2 with lastSeen := times entry.1 })) = tracker.table.entries := by
    nth_rewrite 2 [← List.map_id tracker.table.entries]
    apply List.map_congr_left
    intro entry member
    rw [same entry.1 entry.2 (tracker.table.get?_of_mem member)]
    rfl
  have values : (tracker.lastSeenAt times).table = tracker.table := Dict.ext kept
  calc tracker.lastSeenAt times
      = { tracker with table := (tracker.lastSeenAt times).table } := rfl
    _ = { tracker with table := tracker.table } := by rw [values]
    _ = tracker := rfl

theorem keys_lastSeenAt (tracker : FlowTracker) (times : FlowKey → ℚ) :
    (tracker.lastSeenAt times).table.keys = tracker.table.keys := by
  rw [lastSeenAt, Dict.keys, Dict.keys, Dict.mapValues, List.map_map]
  rfl

end FlowTracker

/-! ## The clock of the sequential order -/

section Clock

/-- The time of the next lookup, if there is one. -/
def nextLookup (finish : ℚ) : List FlowAction → ℚ
  | [] => finish
  | .lookup _ _ readings :: _ => readings.expire
  | .update _ _ :: rest => nextLookup finish rest

variable {start finish : ℚ} {actions : List FlowAction}

theorem ClockRuns.le_nextLookup (clock : ClockRuns finish start actions) :
    start ≤ nextLookup finish actions := by
  induction actions generalizing start with
  | nil => exact clock
  | cons action rest ih =>
      cases action with
      | lookup thread packet readings => exact clock.1.expire
      | update thread now => exact clock.1.trans (ih clock.2)

/-- A record settles between its lookup and the next one. -/
theorem ClockRuns.settles_between (clock : ClockRuns finish start actions) (thread : Nat) :
    start ≤ FlowCalls.settles finish thread actions ∧
      FlowCalls.settles finish thread actions ≤ nextLookup finish actions := by
  induction actions generalizing start with
  | nil => exact ⟨clock, le_rfl⟩
  | cons action rest ih =>
      cases action with
      | lookup other packet readings => exact ⟨clock.1.expire, le_rfl⟩
      | update other now =>
          obtain ⟨passed, clock⟩ := clock
          rw [FlowCalls.settles, nextLookup]
          split
          next => exact ⟨passed, clock.le_nextLookup⟩
          next =>
            obtain ⟨later, before⟩ := ih clock
            exact ⟨passed.trans later, before⟩

end Clock

namespace FlowCalls

/-! ## The calls on a record -/

/-- The calls in flight that have looked up the record under a key. -/
def holding (calls : FlowCalls) (key : FlowKey) : List UpdateCall :=
  (calls.inFlight.entries.map Prod.snd).filter fun call =>
    call.key = key ∧ call.generation = calls.generation key

/-- The call that has just begun for a packet. -/
def begun (rt : Runtime) (calls : FlowCalls) (packet : Packet) : UpdateCall where
  packet := packet
  key := FlowKey.fromPacket rt packet
  generation := calls.generation (FlowKey.fromPacket rt packet)

section Holding

variable {rt : Runtime} {calls : FlowCalls} {thread : Nat} {key : FlowKey}

theorem mem_holding {call : UpdateCall} (member : call ∈ calls.holding key) :
    call.key = key ∧ call.generation = calls.generation key ∧
      ∃ thread, calls.inFlight.get? thread = some call := by
  rw [holding, List.mem_filter, decide_eq_true_eq, List.mem_map] at member
  obtain ⟨⟨entry, entryMember, rfl⟩, sameKey, current⟩ := member
  exact ⟨sameKey, current, entry.1, calls.inFlight.get?_of_mem entryMember⟩

theorem Finished.holding (finished : calls.Finished) (key : FlowKey) : calls.holding key = [] := by
  rw [List.eq_nil_iff_forall_not_mem]
  intro call member
  obtain ⟨_, _, thread, begun⟩ := mem_holding member
  rw [finished thread] at begun
  cases begun

/-- The calls in flight after a lookup. -/
theorem entries_lookup (rt : Runtime) (idle : calls.inFlight.get? thread = none) (packet : Packet)
    (readings : FlowReadings) :
    (calls.lookup rt thread packet readings).inFlight.entries.map Prod.snd =
      calls.inFlight.entries.map Prod.snd ++
        [begun rt (calls.lookup rt thread packet readings) packet] := by
  have entered : (calls.lookup rt thread packet readings).inFlight.entries =
      calls.inFlight.entries ++ [(thread, _)] := Dict.entries_set_of_absent idle _
  rw [entered, List.map_append]
  rfl

/-- A lookup of a record in the table. -/
theorem generation_found {packet : Packet} {readings : FlowReadings} {record : FlowRecord}
    (found : (calls.tracker.evictExpired readings.expire).table.get?
      (FlowKey.fromPacket rt packet) = some record) :
    (calls.lookup rt thread packet readings).generation = calls.generation := by
  simp only [lookup, found, Option.isSome_some, if_true]

/-- A lookup that creates a record. -/
theorem generation_created {packet : Packet} {readings : FlowReadings}
    (absent : (calls.tracker.evictExpired readings.expire).table.get?
      (FlowKey.fromPacket rt packet) = none) :
    (calls.lookup rt thread packet readings).generation =
      Function.update calls.generation (FlowKey.fromPacket rt packet)
        (calls.generation (FlowKey.fromPacket rt packet) + 1) := by
  simp [lookup, absent]

theorem generation_other {packet : Packet} {readings : FlowReadings}
    (different : key ≠ FlowKey.fromPacket rt packet) :
    (calls.lookup rt thread packet readings).generation key = calls.generation key := by
  cases found : (calls.tracker.evictExpired readings.expire).table.get?
      (FlowKey.fromPacket rt packet) with
  | some record => rw [generation_found found]
  | none => rw [generation_created found, Function.update_of_ne different]

/-- A lookup leaves the calls on the other records. -/
theorem holding_lookup_other (idle : calls.inFlight.get? thread = none) {packet : Packet}
    {readings : FlowReadings} (different : key ≠ FlowKey.fromPacket rt packet) :
    (calls.lookup rt thread packet readings).holding key = calls.holding key := by
  rw [holding, entries_lookup rt idle, generation_other different, List.filter_append, holding]
  simp [begun, different.symm]

/-- A call that finds a record joins those that hold it. -/
theorem holding_lookup_found (idle : calls.inFlight.get? thread = none) {packet : Packet}
    {readings : FlowReadings} {record : FlowRecord}
    (found : (calls.tracker.evictExpired readings.expire).table.get?
      (FlowKey.fromPacket rt packet) = some record) :
    ∃ call : UpdateCall, call.packet = packet ∧
      (calls.lookup rt thread packet readings).holding (FlowKey.fromPacket rt packet) =
        calls.holding (FlowKey.fromPacket rt packet) ++ [call] := by
  refine ⟨begun rt (calls.lookup rt thread packet readings) packet, rfl, ?_⟩
  rw [holding, entries_lookup rt idle, List.filter_append, generation_found found, holding]
  simp [begun, generation_found found]

/-- A call that creates a record is the only one that holds it. -/
theorem holding_lookup_created (idle : calls.inFlight.get? thread = none) {packet : Packet}
    {readings : FlowReadings}
    (absent : (calls.tracker.evictExpired readings.expire).table.get?
      (FlowKey.fromPacket rt packet) = none)
    (created : ∀ thread call, calls.inFlight.get? thread = some call →
      call.generation ≤ calls.generation call.key) :
    ∃ call : UpdateCall, call.packet = packet ∧
      (calls.lookup rt thread packet readings).holding (FlowKey.fromPacket rt packet) =
        [call] := by
  refine ⟨begun rt (calls.lookup rt thread packet readings) packet, rfl, ?_⟩
  have stale : (calls.inFlight.entries.map Prod.snd).filter (fun call =>
      call.key = FlowKey.fromPacket rt packet ∧
        call.generation = calls.generation (FlowKey.fromPacket rt packet) + 1) = [] := by
    rw [List.filter_eq_nil_iff, List.forall_mem_map]
    intro entry member current
    obtain ⟨sameKey, next⟩ := of_decide_eq_true current
    have older := created entry.1 entry.2 (calls.inFlight.get?_of_mem member)
    rw [next, sameKey] at older
    exact absurd older (Nat.not_succ_le_self _)
  rw [holding, entries_lookup rt idle, List.filter_append, generation_created absent,
    Function.update_self, stale]
  simp [begun, generation_created absent]

/-- An update takes its call from those that hold its record. -/
theorem holding_finish {call : UpdateCall} (begun : calls.inFlight.get? thread = some call)
    (now : ℚ) (key : FlowKey) :
    (calls.holding key).Perm
      ((if call.key = key ∧ call.generation = calls.generation key then [call] else []) ++
        (calls.finish thread call now).holding key) := by
  have split := ((Dict.perm_erase begun).map Prod.snd).filter fun call =>
    call.key = key ∧ call.generation = calls.generation key
  have left : (calls.finish thread call now).holding key =
      ((calls.inFlight.erase thread).entries.map Prod.snd).filter fun call =>
        call.key = key ∧ call.generation = calls.generation key := rfl
  rw [List.map_cons, List.filter_cons] at split
  rw [holding, left]
  by_cases own : call.key = key ∧ call.generation = calls.generation key
  · rw [if_pos (decide_eq_true own)] at split
    rw [if_pos own]
    exact split
  · rw [if_neg (by simpa using own)] at split
    rw [if_neg own]
    exact split

end Holding

/-! ## The simulation -/

/-- How far the sequential order is ahead of a record: it has already counted the packets of
the calls that hold the record. -/
structure Ahead (calls : FlowCalls) (seen : FlowKey → ℚ) (key : FlowKey)
    (record ahead : FlowRecord) : Prop where
  packetCount : ahead.packetCount = record.packetCount + (calls.holding key).length
  byteCount : ahead.byteCount =
    record.byteCount + ((calls.holding key).map fun call => call.packet.sizeBytes).sum
  lastSeen : ahead.lastSeen = seen key

/-- The state of the concurrent calls, and the table of the sequential order. -/
structure Simulates (calls : FlowCalls) (seen : FlowKey → ℚ) (sequential : FlowTracker) :
    Prop where
  flowTtl : calls.tracker.flowTtl = sequential.flowTtl
  maxFlows : calls.tracker.maxFlows = sequential.maxFlows
  aligned : Dict.Aligned (Ahead calls seen) calls.tracker.table sequential.table
  created : ∀ thread call, calls.inFlight.get? thread = some call →
    call.generation ≤ calls.generation call.key

section Simulation

variable {rt : Runtime} {calls : FlowCalls} {seen : FlowKey → ℚ} {sequential : FlowTracker}
variable {thread : Nat}

/-- The sequential table has the age that the flows would have. -/
theorem Simulates.sameAge (simulates : Simulates calls seen sequential) :
    Dict.Aligned FlowTracker.SameAge (calls.tracker.lastSeenAt seen).table sequential.table where
  keys_eq := (FlowTracker.keys_lastSeenAt _ _).trans simulates.aligned.keys_eq
  values key record ahead stored found := by
    rw [FlowTracker.get?_lastSeenAt] at stored
    obtain ⟨own, present, rfl⟩ := Option.map_eq_some_iff.mp stored
    exact (simulates.aligned.values key own ahead present found).lastSeen.symm

/-- A lookup that evicts alike keeps the flows that it keeps in the sequential table. -/
theorem Simulates.stays_eq (simulates : Simulates calls seen sequential) {packet : Packet}
    {readings : FlowReadings} (alike : EvictsAlike rt calls seen (.lookup thread packet readings)) :
    calls.tracker.stays (FlowKey.fromPacket rt packet) readings =
      sequential.stays (FlowKey.fromPacket rt packet) readings :=
  alike.trans (@FlowTracker.stays_eq (calls.tracker.lastSeenAt seen) sequential simulates.flowTtl
    simulates.maxFlows simulates.sameAge _ readings)

/-- A finished call leaves the lead on a record that it does not hold. -/
theorem Ahead.finish_other {call : UpdateCall} {time : ℚ} {key : FlowKey}
    (begun : calls.inFlight.get? thread = some call)
    (other : ¬ (call.key = key ∧ call.generation = calls.generation key))
    {record ahead : FlowRecord} (isAhead : Ahead calls seen key record ahead) :
    Ahead (calls.finish thread call time) seen key record ahead := by
  have split := holding_finish begun time key
  rw [if_neg other, List.nil_append] at split
  constructor
  · rw [isAhead.packetCount, split.length_eq]
  · rw [isAhead.byteCount, (split.map _).sum_eq]
  · exact isAhead.lastSeen

/-- The update of a record takes its call from the lead on the record. -/
theorem Ahead.finish_own {call : UpdateCall} {time : ℚ}
    (begun : calls.inFlight.get? thread = some call)
    (current : call.generation = calls.generation call.key) {record ahead : FlowRecord}
    (isAhead : Ahead calls seen call.key record ahead) :
    Ahead (calls.finish thread call time) seen call.key (record.update call.packet time)
      ahead := by
  have split := holding_finish begun time call.key
  rw [if_pos ⟨rfl, current⟩] at split
  constructor
  · rw [isAhead.packetCount, split.length_eq, FlowRecord.update_packetCount,
      List.singleton_append, List.length_cons, Nat.add_assoc, Nat.add_comm 1]
  · rw [isAhead.byteCount, (split.map _).sum_eq, FlowRecord.update_byteCount,
      List.singleton_append, List.map_cons, List.sum_cons, add_assoc]
  · exact isAhead.lastSeen

/-- What an update does to the table: it updates the record that the call holds, or none. -/
theorem finish_tracker (calls : FlowCalls) (thread : Nat) (call : UpdateCall) (time : ℚ) :
    (∃ record, calls.tracker.table.get? call.key = some record ∧
        call.generation = calls.generation call.key ∧
        (calls.finish thread call time).tracker =
          calls.tracker.writeBack (record.update call.packet time) call.key) ∨
      ((calls.tracker.table.get? call.key = none ∨
          call.generation ≠ calls.generation call.key) ∧
        (calls.finish thread call time).tracker = calls.tracker) := by
  simp only [finish, updateRecord]
  cases stored : calls.tracker.table.get? call.key with
  | none => exact .inr ⟨.inl rfl, rfl⟩
  | some record =>
      by_cases current : calls.generation call.key = call.generation
      · exact .inl ⟨record, rfl, current.symm, if_pos current⟩
      · exact .inr ⟨.inr (Ne.symm current), if_neg current⟩

theorem finish_parameters (calls : FlowCalls) (thread : Nat) (call : UpdateCall) (time : ℚ) :
    (calls.finish thread call time).tracker.flowTtl = calls.tracker.flowTtl ∧
      (calls.finish thread call time).tracker.maxFlows = calls.tracker.maxFlows := by
  rcases finish_tracker calls thread call time with ⟨_, _, _, writes⟩ | ⟨_, same⟩
  · rw [writes]
    exact ⟨rfl, rfl⟩
  · rw [same]
    exact ⟨rfl, rfl⟩

/-- The sequential order does nothing when a call in flight updates its record. -/
theorem Simulates.update {call : UpdateCall} {time : ℚ}
    (simulates : Simulates calls seen sequential)
    (begun : calls.inFlight.get? thread = some call) :
    Simulates (calls.finish thread call time) seen sequential := by
  have parameters := finish_parameters calls thread call time
  constructor
  · rw [parameters.1, simulates.flowTtl]
  · rw [parameters.2, simulates.maxFlows]
  · rcases finish_tracker calls thread call time with
      ⟨record, stored, current, writes⟩ | ⟨orphan, same⟩
    · obtain ⟨ahead, found, isAhead⟩ := simulates.aligned.present stored
      rw [writes]
      apply simulates.aligned.setLeft stored found (isAhead.finish_own begun current)
      intro other _ _ different _ isAhead
      exact isAhead.finish_other begun fun own => different own.1.symm
    · rw [same]
      apply simulates.aligned.mono
      intro key record ahead stored isAhead
      apply isAhead.finish_other begun
      rintro ⟨rfl, current⟩
      rcases orphan with absent | stale
      · rw [absent] at stored
        cases stored
      · exact stale current
  · intro other held begun'
    simp only [finish, Dict.get?_erase] at begun'
    split at begun'
    · cases begun'
    · exact simulates.created other held begun'

/-- The lookup of a call adds it to the lead on its record, once the sequential order has
counted its packet. -/
theorem Simulates.lookup_own (simulates : Simulates calls seen sequential)
    (idle : calls.inFlight.get? thread = none) {packet : Packet} {readings : FlowReadings}
    (alike : EvictsAlike rt calls seen (.lookup thread packet readings)) (time : ℚ) :
    Ahead (calls.lookup rt thread packet readings)
      (Function.update seen (FlowKey.fromPacket rt packet) time) (FlowKey.fromPacket rt packet)
      (calls.tracker.lookup (FlowKey.fromPacket rt packet) readings).1
      ((sequential.lookup (FlowKey.fromPacket rt packet) readings).1.update packet time) := by
  have swept : (calls.tracker.evictExpired readings.expire).table.keys =
      (sequential.evictExpired readings.expire).table.keys :=
    congrArg Prod.fst (simulates.stays_eq alike)
  have both : (∃ record, (calls.tracker.evictExpired readings.expire).table.get?
        (FlowKey.fromPacket rt packet) = some record) ↔
      ∃ ahead, (sequential.evictExpired readings.expire).table.get?
        (FlowKey.fromPacket rt packet) = some ahead := by
    rw [← Dict.mem_keys_iff, ← Dict.mem_keys_iff, swept]
  rw [FlowTracker.lookup_record, FlowTracker.lookup_record]
  cases found : (calls.tracker.evictExpired readings.expire).table.get?
      (FlowKey.fromPacket rt packet) with
  | some record =>
      obtain ⟨ahead, foundAhead⟩ := both.mp ⟨record, found⟩
      have isAhead := simulates.aligned.values _ record ahead
        (FlowTracker.get?_evictExpired.mp found).1 (FlowTracker.get?_evictExpired.mp foundAhead).1
      obtain ⟨call, rfl, grown⟩ := holding_lookup_found idle found
      rw [foundAhead, Option.getD_some, Option.getD_some]
      constructor
      · rw [grown, FlowRecord.update_packetCount, isAhead.packetCount, List.length_append,
          List.length_singleton, Nat.add_assoc]
      · rw [grown, FlowRecord.update_byteCount, isAhead.byteCount, List.map_append,
          List.sum_append, List.map_singleton, List.sum_singleton, add_assoc]
      · rw [FlowRecord.update_lastSeen, Function.update_self]
  | none =>
      have absent : (sequential.evictExpired readings.expire).table.get?
          (FlowKey.fromPacket rt packet) = none := by
        rw [← Option.not_isSome_iff_eq_none, Option.isSome_iff_exists, ← both, found]
        simp
      obtain ⟨call, rfl, grown⟩ := holding_lookup_created idle found simulates.created
      rw [absent, Option.getD_none]
      constructor
      · rw [grown, FlowRecord.update_packetCount, List.length_singleton]
      · rw [grown, FlowRecord.update_byteCount, List.map_singleton, List.sum_singleton]
      · rw [FlowRecord.update_lastSeen, Function.update_self]

/-- The lookup of a call leaves the lead on the other records. -/
theorem Ahead.lookup_other (idle : calls.inFlight.get? thread = none) {packet : Packet}
    {readings : FlowReadings} {key : FlowKey} (different : key ≠ FlowKey.fromPacket rt packet)
    {record ahead : FlowRecord} (isAhead : Ahead calls seen key record ahead) (time : ℚ) :
    Ahead (calls.lookup rt thread packet readings)
      (Function.update seen (FlowKey.fromPacket rt packet) time) key record ahead := by
  constructor
  · rw [holding_lookup_other idle different]
    exact isAhead.packetCount
  · rw [holding_lookup_other idle different]
    exact isAhead.byteCount
  · rw [Function.update_of_ne different]
    exact isAhead.lastSeen

/-- A call in flight has looked up the latest record under its key, or an earlier one. -/
theorem Simulates.created_lookup (simulates : Simulates calls seen sequential) {packet : Packet}
    {readings : FlowReadings} {other : Nat} {call : UpdateCall}
    (begun : (calls.lookup rt thread packet readings).inFlight.get? other = some call) :
    call.generation ≤ (calls.lookup rt thread packet readings).generation call.key := by
  have grows : ∀ key, calls.generation key ≤
      (calls.lookup rt thread packet readings).generation key := by
    intro key
    by_cases own : key = FlowKey.fromPacket rt packet
    · subst own
      cases found : (calls.tracker.evictExpired readings.expire).table.get?
          (FlowKey.fromPacket rt packet) with
      | some record => rw [generation_found found]
      | none =>
          rw [generation_created found, Function.update_self]
          exact Nat.le_succ _
    · rw [generation_other own]
  have entered : (calls.lookup rt thread packet readings).inFlight.get? other =
      if other = thread then some _ else calls.inFlight.get? other := Dict.get?_set ..
  rw [entered] at begun
  split at begun
  · cases begun
    exact le_rfl
  · exact (simulates.created other call begun).trans (grows call.key)

/-- The lookup of a call becomes the whole call in the sequential order, which thereby counts
the packet ahead. -/
theorem Simulates.lookup (simulates : Simulates calls seen sequential)
    (capacity : 1 ≤ calls.tracker.maxFlows) (idle : calls.inFlight.get? thread = none)
    {packet : Packet} {readings : FlowReadings}
    (alike : EvictsAlike rt calls seen (.lookup thread packet readings)) (time : ℚ) :
    Simulates (calls.lookup rt thread packet readings)
      (Function.update seen (FlowKey.fromPacket rt packet) time)
      (sequential.update rt packet { readings with update := time }).2 := by
  have sequentialCapacity : 1 ≤ sequential.maxFlows := simulates.maxFlows ▸ capacity
  have looksUp := FlowTracker.lookup_looksUp capacity (FlowKey.fromPacket rt packet) readings
  have looksUpAhead := FlowTracker.lookup_looksUp sequentialCapacity (FlowKey.fromPacket rt packet)
    readings
  have tracker : (calls.lookup rt thread packet readings).tracker =
      (calls.tracker.lookup (FlowKey.fromPacket rt packet) readings).2 := rfl
  have written : (sequential.update rt packet { readings with update := time }).2 =
      (sequential.lookup (FlowKey.fromPacket rt packet) readings).2.writeBack
        ((sequential.lookup (FlowKey.fromPacket rt packet) readings).1.update packet time)
        (FlowKey.fromPacket rt packet) := rfl
  rw [written]
  constructor
  · rw [tracker, looksUp.parameters.1, simulates.flowTtl]
    exact looksUpAhead.parameters.1.symm
  · rw [tracker, looksUp.parameters.2, simulates.maxFlows]
    exact looksUpAhead.parameters.2.symm
  · rw [tracker]
    constructor
    · have stored := Dict.mem_keys_iff.mpr ⟨_, looksUpAhead.stored⟩
      rw [FlowTracker.writeBack, Dict.keys_set, if_pos stored]
      exact congrArg Prod.snd (simulates.stays_eq alike)
    · intro key record ahead stored found
      by_cases own : key = FlowKey.fromPacket rt packet
      · subst own
        rw [looksUp.stored] at stored
        rw [FlowTracker.writeBack, Dict.get?_set_self] at found
        cases stored
        cases found
        exact simulates.lookup_own idle alike time
      · rw [FlowTracker.writeBack, Dict.get?_set, if_neg own] at found
        have before := FlowTracker.get?_evictExpired.mp (looksUp.kept own stored)
        have beforeAhead := FlowTracker.get?_evictExpired.mp (looksUpAhead.kept own found)
        exact (simulates.aligned.values key record ahead before.1 beforeAhead.1).lookup_other idle
          own time
  · intro other call begun
    exact simulates.created_lookup begun

/-- The sequential order of the calls that the steps begin: each call reads the clock as its
lookup does, and updates its record before the next lookup. -/
theorem Simulates.run {actions : List FlowAction} {now time finish : ℚ}
    (simulates : Simulates calls seen sequential) (capacity : 1 ≤ calls.tracker.maxFlows)
    (clock : ClockRuns finish now actions) (passed : time ≤ nextLookup finish actions)
    {final : FlowCalls} (replays : replay (perform rt) calls actions = some final)
    (alike : EvictsInTurn rt finish calls seen actions) :
    ∃ ordered : List (Packet × FlowReadings),
      ordered.map Prod.fst = actions.filterMap FlowAction.called? ∧
      InTurn finish time ordered ∧
      ∃ last, Simulates final last (sequential.sequentially rt ordered) := by
  induction actions generalizing calls seen sequential now time with
  | nil =>
      cases replays
      exact ⟨[], rfl, passed, seen, simulates⟩
  | cons action rest ih =>
      obtain ⟨next, performs, finishes⟩ := replay.cons_eq_some.mp replays
      obtain ⟨alikeNow, alikeLater⟩ := alike
      have alikeRest := alikeLater next performs
      cases performs_of_perform performs with
      | @lookup thread packet readings idle =>
          have settled := clock.2.settles_between thread
          have looksUp := FlowTracker.lookup_looksUp capacity (FlowKey.fromPacket rt packet)
            readings
          have nextCapacity : 1 ≤ (calls.lookup rt thread packet readings).tracker.maxFlows :=
            looksUp.parameters.2 ▸ capacity
          obtain ⟨ordered, packets, inTurn, simulated⟩ := ih
            (simulates.lookup capacity idle alikeNow (settles finish thread rest)) nextCapacity
            clock.2 settled.2 finishes alikeRest
          refine ⟨(packet, { readings with update := settles finish thread rest }) :: ordered,
            ?_, ⟨?_, inTurn⟩, simulated⟩
          · rw [List.map_cons, packets]
            rfl
          · exact { clock.1 with
              expire := passed
              finish := settled.1 }
      | @update thread now call begun =>
          have nextCapacity : 1 ≤ (calls.finish thread call now).tracker.maxFlows :=
            (finish_parameters calls thread call now).2 ▸ capacity
          exact ih (simulates.update begun) nextCapacity clock.2 passed finishes alikeRest

end Simulation

/-- As long as every lookup evicts the flows that it would evict if each call before it had
updated its record no later than at the next lookup, the table after all calls is one that the
same calls leave one after the other. -/
theorem updates_linearizable (rt : Runtime) (tracker : FlowTracker)
    (capacity : 1 ≤ tracker.maxFlows) (start finish : ℚ) (actions : List FlowAction)
    (clock : ClockRuns finish start actions) (calls : FlowCalls)
    (replays : replay (perform rt) (init tracker) actions = some calls)
    (alike : EvictsInTurn rt finish (init tracker) tracker.seen actions) :
    Linearizable rt tracker start finish actions calls := by
  intro finished
  have begins : Simulates (init tracker) tracker.seen tracker := by
    refine ⟨rfl, rfl, ⟨rfl, ?_⟩, ?_⟩
    · intro key record record' stored stored'
      have present : tracker.table.get? key = some record := stored
      cases present.symm.trans stored'
      constructor
      · rfl
      · exact (add_zero record.byteCount).symm
      · rw [FlowTracker.seen, present]
    · intro thread call begun
      cases begun
  obtain ⟨ordered, packets, inTurn, last, simulates⟩ :=
    begins.run capacity clock clock.le_nextLookup replays alike
  refine ⟨ordered, packets ▸ List.Perm.refl _, inTurn, ?_⟩
  intro key
  rw [FlowTracker.counts, FlowTracker.counts]
  cases stored : calls.tracker.table.get? key with
  | none => rw [(simulates.aligned.absent_iff key).mp stored]
  | some record =>
      obtain ⟨ahead, found, isAhead⟩ := simulates.aligned.present stored
      have packetCount := isAhead.packetCount
      have byteCount := isAhead.byteCount
      rw [finished.holding] at packetCount byteCount
      rw [found]
      simp [packetCount, byteCount]

/-! ## Calls that do not overlap -/

/-- The two steps of a call with nothing between them. -/
def alone (call : Nat × Packet × FlowReadings) : List FlowAction :=
  [.lookup call.1 call.2.1 call.2.2, .update call.1 call.2.2.update]

/-- Calls that do not overlap evict in turn. -/
theorem evictsInTurn_alone (rt : Runtime) (finish : ℚ)
    (sequence : List (Nat × Packet × FlowReadings)) {calls : FlowCalls} {seen : FlowKey → ℚ}
    (capacity : 1 ≤ calls.tracker.maxFlows)
    (idle : calls.Finished)
    (same : ∀ key record, calls.tracker.table.get? key = some record →
      seen key = record.lastSeen) :
    EvictsInTurn rt finish calls seen (sequence.flatMap alone) := by
  induction sequence generalizing calls seen with
  | nil => exact trivial
  | cons call rest ih =>
      obtain ⟨thread, packet, readings⟩ := call
      refine ⟨?_, fun next begins => ⟨trivial, fun last finishes => ?_⟩⟩
      · rw [EvictsAlike, FlowTracker.lastSeenAt_eq same]
      · have reached := perform_alone rt capacity (idle thread) packet readings
        have replays : replay (perform rt) calls
            [.lookup thread packet readings, .update thread readings.update] = some last :=
          replay.cons_eq_some.mpr ⟨next, begins, replay.singleton_eq_some.mpr finishes⟩
        rw [replays, Option.map_some, Option.some.injEq] at reached
        rw [perform_lookup rt (idle thread), Option.mem_some] at begins
        subst begins
        rw [perform_update rt (lookup_inFlight rt calls thread packet readings),
          Option.mem_some] at finishes
        have settled : settles finish thread
            (.update thread readings.update :: rest.flatMap alone) = readings.update := if_pos rfl
        apply ih
        · rw [reached]
          exact (FlowTracker.update_parameters rt packet readings capacity).2 ▸ capacity
        · intro other
          rw [← finishes, FlowCalls.finish, Dict.get?_erase]
          split
          next => rfl
          next different =>
            rw [lookup, Dict.get?_set, if_neg different]
            exact idle other
        · intro key record stored
          rw [reached] at stored
          change Function.update seen (FlowKey.fromPacket rt packet) (settles finish thread
            (.update thread readings.update :: rest.flatMap alone)) key = record.lastSeen
          rw [settled]
          by_cases own : key = FlowKey.fromPacket rt packet
          · subst own
            rw [FlowTracker.update_stored] at stored
            cases stored
            rw [Function.update_self]
            exact (FlowRecord.update_lastSeen _ _ _).symm
          · rw [Function.update_of_ne own]
            exact same key record (FlowTracker.of_update_get? capacity own stored).1

/-- A clock that shows one time during a lookup. -/
theorem at_between {start now : ℚ} (passed : start ≤ now) :
    (FlowReadings.at now).LookupBetween start (FlowReadings.at now).lastSeen where
  expire := passed
  idle _ := le_rfl
  idle_mono _ _ _ := le_rfl
  firstSeen _ := le_rfl
  lastSeen := le_rfl
  finish := le_rfl

/-- A packet of the flow with a port. -/
def toPort (port : Int) : Packet := { dstPort := port, sizeBytes := 100 }

/-- The flow of a port. -/
def portFlow (port : Int) : FlowKey := FlowKey.fromPacket .plain (toPort port)

/-- A flow whose only packet came at a time. -/
def seenAt (port : Int) (now : ℚ) : FlowRecord :=
  (FlowTracker.newRecord (portFlow port) (.at now)).update (toPort port) now

/-- A full table of two flows, last seen at 0 and at 5. -/
def fullTable : FlowTracker :=
  ({ maxFlows := 2 } : FlowTracker).after .plain
    [.update (toPort 1) (.at 0), .update (toPort 2) (.at 5)]

/-- Two calls on the newer flow and on a new one overlap; the older flow is evicted. -/
def overlappingSteps : List FlowAction :=
  [.lookup 0 (toPort 2) (.at 6), .lookup 1 (toPort 3) (.at 7), .update 1 8, .update 0 9]

/-- Both packets are counted, as by one call after the other. -/
theorem updates_linearizable_overlapping :
    ∃ calls, replay (perform .plain) (init fullTable) overlappingSteps = some calls ∧
      calls.Finished ∧
      [portFlow 1, portFlow 2, portFlow 3].map calls.tracker.counts =
        [none, some (2, 200), some (1, 100)] ∧
      Linearizable .plain fullTable 6 9 overlappingSteps calls := by
  have shown : (replay (perform .plain) (init fullTable) overlappingSteps).map
      (fun calls => (calls.inFlight.entries,
        [portFlow 1, portFlow 2, portFlow 3].map calls.tracker.counts)) =
      some ([], [none, some (2, 200), some (1, 100)]) := by
    decide +kernel
  obtain ⟨calls, replays, facts⟩ := Option.map_eq_some_iff.mp shown
  simp only [Prod.mk.injEq] at facts
  obtain ⟨idle, counted⟩ := facts
  have finished : calls.Finished := by
    intro thread
    rw [Dict.get?, idle]
    rfl
  refine ⟨calls, replays, finished, counted, ?_⟩
  apply updates_linearizable .plain fullTable (by decide +kernel) 6 9 overlappingSteps _ calls
    replays (by decide +kernel)
  exact ⟨at_between (by decide +kernel), at_between (by decide +kernel), by decide +kernel,
    by decide +kernel, le_refl (9 : ℚ)⟩

/-! ## A lost update -/

/-- While a call on the older flow is between its steps, a new flow arrives. -/
def contendedSteps : List FlowAction :=
  [.lookup 0 (toPort 1) (.at 6), .lookup 1 (toPort 3) (.at 7), .update 0 8, .update 1 9]

theorem fullTable_entries :
    fullTable.table.entries = [(portFlow 1, seenAt 1 0), (portFlow 2, seenAt 2 5)] := by
  decide +kernel

theorem fullTable_parameters : fullTable.flowTtl = 120 ∧ fullTable.maxFlows = 2 := by
  decide +kernel

/-- Within the window nothing of a table with the parameters expires. -/
theorem evictExpired_window {tracker : FlowTracker} {readings : FlowReadings}
    (between : readings.Between 6 9) (flowTtl : tracker.flowTtl = 120)
    (seen : ∀ entry ∈ tracker.table.entries, 0 ≤ entry.2.lastSeen) :
    tracker.evictExpired readings.expire = tracker := by
  apply FlowTracker.evictExpired_eq_self
  intro entry member
  have early : readings.expire ≤ 9 :=
    between.lookup.passed.trans (between.lookup.lastSeen.trans
      (between.lookup.finish.trans between.update))
  have seen_entry := seen entry member
  rw [FlowTracker.Expired, flowTtl]
  linarith

/-- A call on the older flow alone refreshes its record. -/
theorem refreshed_table {refresh : FlowReadings} (between : refresh.Between 6 9) :
    let refreshed := (fullTable.update .plain (toPort 1) refresh).2
    refreshed.table.entries =
        [(portFlow 1, (seenAt 1 0).update (toPort 1) refresh.update),
          (portFlow 2, seenAt 2 5)] ∧
      refreshed.flowTtl = 120 ∧ refreshed.maxFlows = 2 := by
  intro refreshed
  have swept : fullTable.evictExpired refresh.expire = fullTable := by
    apply evictExpired_window between fullTable_parameters.1
    rw [fullTable_entries]
    decide +kernel
  have found : fullTable.table.get? (portFlow 1) = some (seenAt 1 0) := by
    rw [Dict.get?, fullTable_entries]
    decide +kernel
  have written : refreshed =
      fullTable.writeBack ((seenAt 1 0).update (toPort 1) refresh.update) (portFlow 1) := by
    simp only [refreshed, FlowTracker.update, FlowTracker.lookup, swept]
    rw [← portFlow, found]
  rw [written]
  constructor
  · rw [FlowTracker.writeBack,
      Dict.entries_set_of_present (Dict.mem_keys_iff.mpr ⟨_, found⟩), fullTable_entries]
    have other : portFlow 2 ≠ portFlow 1 := by decide +kernel
    simp [other]
  · exact fullTable_parameters

/-- A new flow evicts the second one of a table whose first one has been refreshed. -/
theorem arrival_evicts {tracker : FlowTracker} {record : FlowRecord} {arrive : FlowReadings}
    (between : arrive.Between 6 9) (flowTtl : tracker.flowTtl = 120)
    (maxFlows : tracker.maxFlows = 2)
    (entries : tracker.table.entries = [(portFlow 1, record), (portFlow 2, seenAt 2 5)])
    (refreshed : 6 ≤ record.lastSeen) :
    (tracker.update .plain (toPort 3) arrive).2.table.get? (portFlow 2) = none := by
  have swept : tracker.evictExpired arrive.expire = tracker := by
    apply evictExpired_window between flowTtl
    rw [entries]
    intro entry member
    rw [List.mem_cons, List.mem_singleton] at member
    cases member with
    | inl same =>
        rw [same]
        linarith
    | inr same =>
        rw [same]
        decide +kernel
  have absent : tracker.table.get? (portFlow 3) = none := by
    have others : portFlow 3 ∉ [portFlow 1, portFlow 2] := by decide +kernel
    rw [Dict.get?_eq_none_iff, entries]
    exact others
  have full : tracker.maxFlows ≤ tracker.table.size := by
    rw [maxFlows, Dict.size, entries]
    rfl
  have evicted : tracker.evictOldest arrive.idle =
      { tracker with table := tracker.table.erase (portFlow 2) } := by
    have longer : arrive.idle 0 - record.lastSeen < arrive.idle 1 - 5 := by
      have ordered := between.lookup.idle_mono (Nat.zero_le 1)
      linarith
    have newer : (seenAt 2 5).lastSeen = 5 := by decide +kernel
    simp only [FlowTracker.evictOldest, entries, FlowTracker.longestIdle, newer, longer,
      ↓reduceIte]
  have different : portFlow 2 ≠ portFlow 3 := by decide +kernel
  rw [FlowTracker.update_get?_of_ne different]
  simp only [FlowTracker.lookup, swept]
  rw [← portFlow, absent]
  simp only [full, ↓reduceIte, evicted, Dict.get?_set, different, Dict.get?_erase]

/-- One call after the other, the new flow takes the place of the one not refreshed. -/
theorem refreshed_stays {refresh arrive : FlowReadings} (first : refresh.Between 6 9)
    (second : arrive.Between 6 9) :
    ((fullTable.update .plain (toPort 1) refresh).2.update .plain (toPort 3)
      arrive).2.table.get? (portFlow 2) = none := by
  obtain ⟨entries, flowTtl, maxFlows⟩ := refreshed_table first
  apply arrival_evicts second flowTtl maxFlows entries
  rw [FlowRecord.update_lastSeen]
  exact first.lookup.expire.trans (first.lookup.passed.trans (first.lookup.lastSeen.trans
    first.lookup.finish))

/-- The new flow evicts the record that the call in flight holds, and its packet is lost:
no order of the two calls leaves the table without the flow. -/
theorem lost_update_not_linearizable :
    ∃ calls, replay (perform .plain) (init fullTable) contendedSteps = some calls ∧
      ClockRuns 9 6 contendedSteps ∧
      (∀ key record, fullTable.table.get? key = some record → record.lastSeen ≤ 6) ∧
      calls.Finished ∧
      ¬ Linearizable .plain fullTable 6 9 contendedSteps calls := by
  have shown : (replay (perform .plain) (init fullTable) contendedSteps).map
      (fun calls => (calls.inFlight.entries, calls.tracker.counts (portFlow 1),
        calls.tracker.counts (portFlow 2))) = some ([], none, some (1, 100)) := by
    decide +kernel
  obtain ⟨calls, replays, facts⟩ := Option.map_eq_some_iff.mp shown
  simp only [Prod.mk.injEq] at facts
  obtain ⟨idle, older, newer⟩ := facts
  have finished : calls.Finished := by
    intro thread
    rw [Dict.get?, idle]
    rfl
  refine ⟨calls, replays, ?_, ?_, finished, ?_⟩
  · exact ⟨at_between (by decide +kernel), at_between (by decide +kernel), by decide +kernel,
      by decide +kernel, le_refl (9 : ℚ)⟩
  · intro key record stored
    have member := Dict.mem_of_get? stored
    rw [fullTable_entries, List.mem_cons, List.mem_singleton] at member
    rcases member with same | same
    · rw [(Prod.mk.inj same).2]
      decide +kernel
    · rw [(Prod.mk.inj same).2]
      decide +kernel
  · intro linearizable
    obtain ⟨sequential, packets, inTurn, agree⟩ := linearizable finished
    have between := inTurn.between
    have olderGone := agree (portFlow 1)
    have newerThere := agree (portFlow 2)
    rw [older] at olderGone
    rw [newer] at newerThere
    have two : ∃ first second, sequential = [first, second] := by
      rw [← List.length_eq_two, ← List.length_map Prod.fst]
      exact packets.length_eq
    obtain ⟨first, second, rfl⟩ := two
    have orders := List.perm_pair.mp packets
    simp only [List.map_cons, List.map_nil, List.cons.injEq, and_true] at orders
    rcases orders with ⟨refreshes, arrives⟩ | ⟨_, refreshes⟩
    · have gone := refreshed_stays (between first List.mem_cons_self)
        (between second (List.mem_cons_of_mem _ List.mem_cons_self))
      have reached : fullTable.sequentially .plain [first, second] =
          ((fullTable.update .plain first.1 first.2).2.update .plain
            second.1 second.2).2 := rfl
      rw [reached, refreshes, arrives, FlowTracker.counts, gone] at newerThere
      cases newerThere
    · have reached : fullTable.sequentially .plain [first, second] =
          ((fullTable.update .plain first.1 first.2).2.update .plain
            second.1 second.2).2 := rfl
      rw [reached, refreshes, FlowTracker.counts, portFlow, FlowTracker.update_stored]
        at olderGone
      cases olderGone

end FlowCalls

end SmartBandwidth

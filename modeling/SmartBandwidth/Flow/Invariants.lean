import SmartBandwidth.Flow.FlowTracker
import SmartBandwidth.Lib.Machine
import Mathlib.Data.List.Induction

/-!
# Flow table invariants

Lazy expiry, capacity eviction and creation happen in one `update`, in this order.  The
lemmas say once what the locked part can do to the table; the invariants of a run of
`update` and `evict_expired` calls follow from that.
-/

namespace SmartBandwidth

/-! ## What a record keeps and counts -/

namespace FlowRecord

theorem updateBurst_fields (record : FlowRecord) (now : ℚ) :
    (record.updateBurst now).key = record.key ∧
      (record.updateBurst now).packetCount = record.packetCount ∧
      (record.updateBurst now).byteCount = record.byteCount ∧
      (record.updateBurst now).lastSeen = record.lastSeen := by
  simp only [updateBurst]
  split <;> exact ⟨rfl, rfl, rfl, rfl⟩

@[simp] theorem update_key (record : FlowRecord) (packet : Packet) (now : ℚ) :
    (record.update packet now).key = record.key :=
  (updateBurst_fields _ now).1

@[simp] theorem update_packetCount (record : FlowRecord) (packet : Packet) (now : ℚ) :
    (record.update packet now).packetCount = record.packetCount + 1 :=
  (updateBurst_fields _ now).2.1

@[simp] theorem update_byteCount (record : FlowRecord) (packet : Packet) (now : ℚ) :
    (record.update packet now).byteCount = record.byteCount + packet.sizeBytes :=
  (updateBurst_fields _ now).2.2.1

@[simp] theorem update_lastSeen (record : FlowRecord) (packet : Packet) (now : ℚ) :
    (record.update packet now).lastSeen = now :=
  (updateBurst_fields _ now).2.2.2

end FlowRecord

namespace FlowTracker

/-! ## What the locked part can do -/

/-- The pass of `_evict_expired` at a time would delete the record. -/
def Expired (tracker : FlowTracker) (now : ℚ) (record : FlowRecord) : Prop :=
  tracker.flowTtl < now - record.lastSeen

instance (tracker : FlowTracker) (now : ℚ) (record : FlowRecord) :
    Decidable (tracker.Expired now record) :=
  inferInstanceAs (Decidable (_ < _))

/-- What an eviction pass leaves: the records that have not expired. -/
theorem get?_evictExpired {tracker : FlowTracker} {now : ℚ} {key : FlowKey}
    {record : FlowRecord} :
    (tracker.evictExpired now).table.get? key = some record ↔
      tracker.table.get? key = some record ∧ ¬ tracker.Expired now record := by
  simp only [evictExpired, Dict.get?_filter, Option.filter_eq_some_iff, decide_eq_true_eq,
    Expired]

/-- A pass that finds no expired record changes nothing. -/
theorem evictExpired_eq_self {tracker : FlowTracker} {now : ℚ}
    (fresh : ∀ entry ∈ tracker.table.entries, ¬ tracker.Expired now entry.2) :
    tracker.evictExpired now = tracker := by
  have kept : tracker.table.entries.filter
      (fun entry => decide (¬ tracker.flowTtl < now - entry.2.lastSeen)) =
        tracker.table.entries := by
    rw [List.filter_eq_self]
    intro entry member
    exact decide_eq_true (fresh entry member)
  simp only [evictExpired, Dict.filter, kept]

theorem longestIdle_mem (clock : Nat → ℚ) (slot : Nat) (oldest : FlowKey) (idle : ℚ)
    (entries : List (FlowKey × FlowRecord)) :
    longestIdle clock slot oldest idle entries ∈ oldest :: entries.map Prod.fst := by
  induction entries generalizing slot oldest idle with
  | nil => exact List.mem_cons_self
  | cons entry rest ih =>
      simp only [longestIdle]
      split
      · exact List.mem_cons_of_mem _ (ih _ _ _)
      · rcases List.mem_cons.mp (ih (slot + 1) oldest idle) with kept | later
        · rw [kept]
          exact List.mem_cons_self
        · exact List.mem_cons_of_mem _ (List.mem_cons_of_mem _ later)

/-- A table with an entry loses exactly one to `_evict_oldest`. -/
theorem evictOldest_erases {tracker : FlowTracker} (clock : Nat → ℚ)
    (occupied : 0 < tracker.table.size) :
    ∃ oldest record, tracker.table.get? oldest = some record ∧
      tracker.evictOldest clock = { tracker with table := tracker.table.erase oldest } := by
  simp only [evictOldest]
  split
  next empty => simp [Dict.size, empty] at occupied
  next key record rest nonempty =>
    have member := longestIdle_mem clock 1 key (clock 0 - record.lastSeen) rest
    have present : longestIdle clock 1 key (clock 0 - record.lastSeen) rest ∈
        tracker.table.keys := by
      simpa only [Dict.keys, nonempty, List.map_cons] using member
    obtain ⟨old, stored⟩ := Dict.mem_keys_iff.mp present
    exact ⟨_, old, stored, rfl⟩

/-- The record `update` creates under a key. -/
def newRecord (key : FlowKey) (readings : FlowReadings) : FlowRecord :=
  { key := key, firstSeen := readings.firstSeen, lastSeen := readings.lastSeen }

/-- What the locked part of `update` does: it finds the record, it creates one in a table
with room, or it evicts one flow of a full table and creates one. -/
inductive LooksUp (tracker : FlowTracker) (key : FlowKey) (readings : FlowReadings) :
    FlowRecord × FlowTracker → Prop where
  | found {record : FlowRecord} :
      (tracker.evictExpired readings.expire).table.get? key = some record →
      LooksUp tracker key readings (record, tracker.evictExpired readings.expire)
  | created :
      (tracker.evictExpired readings.expire).table.get? key = none →
      ((tracker.evictExpired readings.expire).table.size : Int) < tracker.maxFlows →
      LooksUp tracker key readings
        (newRecord key readings,
          { tracker with
            table := (tracker.evictExpired readings.expire).table.set key
              (newRecord key readings) })
  | replaced {oldest : FlowKey} {record : FlowRecord} :
      (tracker.evictExpired readings.expire).table.get? key = none →
      tracker.maxFlows ≤ (tracker.evictExpired readings.expire).table.size →
      (tracker.evictExpired readings.expire).table.get? oldest = some record →
      LooksUp tracker key readings
        (newRecord key readings,
          { tracker with
            table := ((tracker.evictExpired readings.expire).table.erase oldest).set key
              (newRecord key readings) })

theorem lookup_looksUp {tracker : FlowTracker} (capacity : 1 ≤ tracker.maxFlows)
    (key : FlowKey) (readings : FlowReadings) :
    LooksUp tracker key readings (tracker.lookup key readings) := by
  simp only [lookup]
  split
  next record present => exact .found present
  next absent =>
    split
    next full =>
      have sameCapacity : (tracker.evictExpired readings.expire).maxFlows =
          tracker.maxFlows := rfl
      have occupied : 0 < (tracker.evictExpired readings.expire).table.size := by omega
      obtain ⟨oldest, record, stored, erased⟩ := evictOldest_erases readings.idle occupied
      rw [erased]
      exact .replaced absent full stored
    next room => exact .created absent (not_le.mp room)

/-- The locked part changes only the table. -/
theorem LooksUp.parameters {tracker : FlowTracker} {key : FlowKey} {readings : FlowReadings}
    {outcome : FlowRecord × FlowTracker} (looksUp : LooksUp tracker key readings outcome) :
    outcome.2.flowTtl = tracker.flowTtl ∧ outcome.2.maxFlows = tracker.maxFlows := by
  cases looksUp <;> exact ⟨rfl, rfl⟩

/-- The record that is looked up is the one in the table. -/
theorem LooksUp.stored {tracker : FlowTracker} {key : FlowKey} {readings : FlowReadings}
    {outcome : FlowRecord × FlowTracker} (looksUp : LooksUp tracker key readings outcome) :
    outcome.2.table.get? key = some outcome.1 := by
  cases looksUp with
  | found present => exact present
  | created => exact Dict.get?_set_self ..
  | replaced => exact Dict.get?_set_self ..

/-- The locked part leaves at most `max_flows` flows. -/
theorem LooksUp.size_le {tracker : FlowTracker} {key : FlowKey} {readings : FlowReadings}
    {outcome : FlowRecord × FlowTracker} (looksUp : LooksUp tracker key readings outcome)
    (bounded : (tracker.table.size : Int) ≤ tracker.maxFlows) :
    (outcome.2.table.size : Int) ≤ tracker.maxFlows := by
  have swept : (tracker.evictExpired readings.expire).table.size ≤ tracker.table.size :=
    Dict.size_filter_le _ _
  cases looksUp with
  | found => exact le_trans (by exact_mod_cast swept) bounded
  | created absent room =>
      rw [Dict.size_set_of_absent absent]
      push_cast
      exact room
  | replaced absent full stored =>
      have removed := Dict.size_erase_of_present stored
      rw [Dict.size_set_of_absent (by rw [Dict.get?_erase]; split <;> simp [absent])]
      rw [removed]
      exact le_trans (by exact_mod_cast swept) bounded

/-- The other records after the locked part are unexpired records of the table before. -/
theorem LooksUp.kept {tracker : FlowTracker} {key : FlowKey} {readings : FlowReadings}
    {outcome : FlowRecord × FlowTracker} (looksUp : LooksUp tracker key readings outcome)
    {other : FlowKey} (different : other ≠ key) {record : FlowRecord}
    (stored : outcome.2.table.get? other = some record) :
    (tracker.evictExpired readings.expire).table.get? other = some record := by
  cases looksUp with
  | found => exact stored
  | created => rwa [Dict.get?_set, if_neg different] at stored
  | replaced =>
      rw [Dict.get?_set, if_neg different, Dict.get?_erase] at stored
      split at stored
      · cases stored
      · exact stored

/-! ## What an update can do -/

section Update

variable {rt : Runtime} {tracker : FlowTracker} {packet : Packet} {readings : FlowReadings}

/-- The returned record is the table's record. -/
theorem update_stored :
    (tracker.update rt packet readings).2.table.get? (FlowKey.fromPacket rt packet) =
      some (tracker.update rt packet readings).1 :=
  Dict.get?_set_self ..

/-- The other records are those the locked part left. -/
theorem update_get?_of_ne {key : FlowKey} (different : key ≠ FlowKey.fromPacket rt packet) :
    (tracker.update rt packet readings).2.table.get? key =
      (tracker.lookup (FlowKey.fromPacket rt packet) readings).2.table.get? key := by
  simp only [update, writeBack, Dict.get?_set, if_neg different]

theorem update_size_le (capacity : 1 ≤ tracker.maxFlows)
    (bounded : (tracker.table.size : Int) ≤ tracker.maxFlows) :
    ((tracker.update rt packet readings).2.table.size : Int) ≤ tracker.maxFlows := by
  have looksUp := lookup_looksUp capacity (FlowKey.fromPacket rt packet) readings
  simp only [update, writeBack]
  rw [Dict.size_set_of_present looksUp.stored]
  exact looksUp.size_le bounded

theorem update_parameters (rt : Runtime) (packet : Packet) (readings : FlowReadings)
    (capacity : 1 ≤ tracker.maxFlows) :
    (tracker.update rt packet readings).2.flowTtl = tracker.flowTtl ∧
      (tracker.update rt packet readings).2.maxFlows = tracker.maxFlows :=
  (lookup_looksUp capacity (FlowKey.fromPacket rt packet) readings).parameters

/-- A record under another key is an unexpired record of the table before. -/
theorem of_update_get? (capacity : 1 ≤ tracker.maxFlows) {key : FlowKey}
    (different : key ≠ FlowKey.fromPacket rt packet) {record : FlowRecord}
    (stored : (tracker.update rt packet readings).2.table.get? key = some record) :
    tracker.table.get? key = some record ∧ ¬ tracker.Expired readings.expire record := by
  rw [update_get?_of_ne different] at stored
  have looksUp := lookup_looksUp capacity (FlowKey.fromPacket rt packet) readings
  exact get?_evictExpired.mp (looksUp.kept different stored)

/-- An unexpired flow is missing after the update. -/
def Removes (rt : Runtime) (tracker : FlowTracker) (packet : Packet)
    (readings : FlowReadings) (key : FlowKey) : Prop :=
  (∃ record, tracker.table.get? key = some record ∧
      ¬ tracker.Expired readings.expire record) ∧
    (tracker.update rt packet readings).2.table.get? key = none

/-- Only a new key at a full table removes an unexpired flow, and only one. -/
theorem removes_unique (rt : Runtime) (packet : Packet) (readings : FlowReadings)
    (capacity : 1 ≤ tracker.maxFlows) :
    ∃ oldest, ∀ key, Removes rt tracker packet readings key →
      key = oldest ∧
        (tracker.evictExpired readings.expire).table.get? (FlowKey.fromPacket rt packet) =
          none ∧
        tracker.maxFlows ≤ (tracker.evictExpired readings.expire).table.size := by
  have looksUp := lookup_looksUp capacity (FlowKey.fromPacket rt packet) readings
  have missing : ∀ key, Removes rt tracker packet readings key →
      key ≠ FlowKey.fromPacket rt packet ∧
        (∃ record, (tracker.evictExpired readings.expire).table.get? key = some record) ∧
        (tracker.lookup (FlowKey.fromPacket rt packet) readings).2.table.get? key = none := by
    rintro key ⟨⟨record, stored, fresh⟩, gone⟩
    have different : key ≠ FlowKey.fromPacket rt packet := by
      intro same
      rw [same, update_stored] at gone
      cases gone
    rw [update_get?_of_ne different] at gone
    exact ⟨different, ⟨record, get?_evictExpired.mpr ⟨stored, fresh⟩⟩, gone⟩
  generalize tracker.lookup (FlowKey.fromPacket rt packet) readings = outcome
    at looksUp missing
  cases looksUp with
  | found =>
      refine ⟨FlowKey.fromPacket rt packet, fun key removes => ?_⟩
      obtain ⟨_, ⟨record, stored⟩, gone⟩ := missing key removes
      rw [stored] at gone
      cases gone
  | created =>
      refine ⟨FlowKey.fromPacket rt packet, fun key removes => ?_⟩
      obtain ⟨different, ⟨record, stored⟩, gone⟩ := missing key removes
      rw [Dict.get?_set, if_neg different, stored] at gone
      cases gone
  | @replaced oldest _ absent full _ =>
      refine ⟨oldest, fun key removes => ⟨?_, absent, full⟩⟩
      obtain ⟨different, ⟨record, stored⟩, gone⟩ := missing key removes
      rw [Dict.get?_set, if_neg different, Dict.get?_erase, stored] at gone
      by_contra other
      rw [if_neg other] at gone
      cases gone

end Update

/-! ## Runs of calls -/

end FlowTracker

/-- A call on the flow table, with its clock readings.  The eviction pass is the public
one. -/
inductive FlowCall where
  | update (packet : Packet) (readings : FlowReadings)
  | evictExpired (now : ℚ)

/-- What a call returns. -/
inductive FlowOutcome where
  | updated (record : FlowRecord)
  | evicted (count : Int)
  deriving DecidableEq, Repr

/-- The packet of the key that a call brings, if any. -/
def FlowCall.packetOf (rt : Runtime) (key : FlowKey) : FlowCall → Option Packet
  | .update packet _ => if FlowKey.fromPacket rt packet = key then some packet else none
  | .evictExpired _ => none

/-- The packets of a key, in order of arrival. -/
def packetsOf (rt : Runtime) (key : FlowKey) (calls : List FlowCall) : List Packet :=
  calls.filterMap (FlowCall.packetOf rt key)

namespace FlowTracker

/-- One call as a machine step. -/
def call (rt : Runtime) (tracker : FlowTracker) : FlowCall → FlowOutcome × FlowTracker
  | .update packet readings =>
      let (record, tracker) := tracker.update rt packet readings
      (.updated record, tracker)
  | .evictExpired now =>
      let (count, tracker) := tracker.evictExpiredFlows now
      (.evicted count, tracker)

/-- The tracker after a list of calls. -/
def after (rt : Runtime) (tracker : FlowTracker) (calls : List FlowCall) : FlowTracker :=
  (Machine.run (call rt) tracker calls).2

/-- A call creates a record under a key: it brings a packet of that key and finds no
record that its eviction pass has left. -/
def Creates (rt : Runtime) (tracker : FlowTracker) (key : FlowKey) : FlowCall → Prop
  | .update packet readings =>
      FlowKey.fromPacket rt packet = key ∧
        (tracker.evictExpired readings.expire).table.get? key = none
  | .evictExpired _ => False

/-- No call of the list creates a record under the key. -/
def NeverCreates (rt : Runtime) (tracker : FlowTracker) (key : FlowKey) :
    List FlowCall → Prop
  | [] => True
  | call :: rest =>
      ¬ Creates rt tracker key call ∧ NeverCreates rt (tracker.call rt call).2 key rest

/-- The record counts the packets of its key from the last call that created a record
under the key. -/
def CountsSinceCreation (rt : Runtime) (tracker : FlowTracker) (calls : List FlowCall)
    (key : FlowKey) (record : FlowRecord) : Prop :=
  ∃ earlier creating later, calls = earlier ++ creating :: later ∧
    Creates rt (tracker.after rt earlier) key creating ∧
    NeverCreates rt (tracker.after rt (earlier ++ [creating])) key later ∧
    record.packetCount = (packetsOf rt key (creating :: later)).length ∧
    record.byteCount = ((packetsOf rt key (creating :: later)).map Packet.sizeBytes).sum

section Runs

variable {rt : Runtime} {tracker : FlowTracker}

theorem after_snoc (calls : List FlowCall) (call : FlowCall) :
    tracker.after rt (calls ++ [call]) = ((tracker.after rt calls).call rt call).2 :=
  Machine.run_snoc_final _ _ _ _

theorem neverCreates_snoc {key : FlowKey} {calls : List FlowCall} {call : FlowCall} :
    NeverCreates rt tracker key (calls ++ [call]) ↔
      NeverCreates rt tracker key calls ∧ ¬ Creates rt (tracker.after rt calls) key call := by
  induction calls generalizing tracker with
  | nil => simp [NeverCreates, after]
  | cons first rest ih => simp [NeverCreates, after, ih, and_assoc]

theorem packetsOf_snoc {key : FlowKey} (calls : List FlowCall) (call : FlowCall) :
    packetsOf rt key (calls ++ [call]) =
      packetsOf rt key calls ++ (call.packetOf rt key).toList := by
  rw [packetsOf, List.filterMap_append, packetsOf]
  cases brought : call.packetOf rt key <;> simp [brought]

/-- The counts stay right under a call that creates no record and counts its own packet. -/
theorem CountsSinceCreation.snoc {calls : List FlowCall} {key : FlowKey}
    {record next : FlowRecord} (counts : CountsSinceCreation rt tracker calls key record)
    {call : FlowCall} (creates : ¬ Creates rt (tracker.after rt calls) key call)
    (packets : next.packetCount =
      record.packetCount + (call.packetOf rt key).toList.length)
    (bytes : next.byteCount =
      record.byteCount + ((call.packetOf rt key).toList.map Packet.sizeBytes).sum) :
    CountsSinceCreation rt tracker (calls ++ [call]) key next := by
  obtain ⟨earlier, creating, later, rfl, created, never, packetCount, byteCount⟩ := counts
  refine ⟨earlier, creating, later ++ [call], by simp, created, ?_, ?_, ?_⟩
  · rw [neverCreates_snoc]
    have reached : (tracker.after rt (earlier ++ [creating])).after rt later =
        tracker.after rt (earlier ++ creating :: later) := by
      simp only [after, Machine.run_append, Machine.run_cons, Machine.run_nil]
    rw [reached]
    exact ⟨never, creates⟩
  · rw [packets, packetCount, ← List.cons_append, packetsOf_snoc, List.length_append]
  · rw [bytes, byteCount, ← List.cons_append, packetsOf_snoc, List.map_append,
      List.sum_append]

/-- A record that the update has just created counts its packet. -/
theorem countsSinceCreation_created {calls : List FlowCall} {packet : Packet}
    {readings : FlowReadings}
    (absent : ((tracker.after rt calls).evictExpired readings.expire).table.get?
      (FlowKey.fromPacket rt packet) = none) :
    CountsSinceCreation rt tracker (calls ++ [.update packet readings])
      (FlowKey.fromPacket rt packet)
      ((newRecord (FlowKey.fromPacket rt packet) readings).update packet
        readings.update) := by
  refine ⟨calls, .update packet readings, [], rfl, ⟨rfl, absent⟩, trivial, ?_, ?_⟩
  · simp [packetsOf, FlowCall.packetOf, newRecord]
  · simp [packetsOf, FlowCall.packetOf, newRecord]

/-- What every run from an empty table keeps. -/
structure RunInvariant (rt : Runtime) (tracker : FlowTracker) (calls : List FlowCall) :
    Prop where
  flowTtl : (tracker.after rt calls).flowTtl = tracker.flowTtl
  maxFlows : (tracker.after rt calls).maxFlows = tracker.maxFlows
  bounded : ((tracker.after rt calls).table.size : Int) ≤ tracker.maxFlows
  counted : ∀ key record, (tracker.after rt calls).table.get? key = some record →
    record.key = key ∧ CountsSinceCreation rt tracker calls key record

/-- A public eviction pass keeps the invariant. -/
theorem RunInvariant.evictExpired {calls : List FlowCall}
    (invariant : RunInvariant rt tracker calls) (now : ℚ) :
    RunInvariant rt tracker (calls ++ [.evictExpired now]) := by
  have reached : tracker.after rt (calls ++ [.evictExpired now]) =
      (tracker.after rt calls).evictExpired now := after_snoc _ _
  constructor
  · rw [reached]
    exact invariant.flowTtl
  · rw [reached]
    exact invariant.maxFlows
  · rw [reached]
    refine le_trans ?_ invariant.bounded
    exact_mod_cast Dict.size_filter_le _ _
  · intro key record stored
    rw [reached, get?_evictExpired] at stored
    obtain ⟨named, counts⟩ := invariant.counted key record stored.1
    exact ⟨named, counts.snoc not_false rfl (by simp [FlowCall.packetOf])⟩

/-- An update keeps the invariant. -/
theorem RunInvariant.update (capacity : 1 ≤ tracker.maxFlows) {calls : List FlowCall}
    (invariant : RunInvariant rt tracker calls) (packet : Packet) (readings : FlowReadings) :
    RunInvariant rt tracker (calls ++ [.update packet readings]) := by
  have room : 1 ≤ (tracker.after rt calls).maxFlows := by rwa [invariant.maxFlows]
  have reached : tracker.after rt (calls ++ [.update packet readings]) =
      ((tracker.after rt calls).update rt packet readings).2 := after_snoc _ _
  have parameters := update_parameters rt packet readings room
  constructor
  · rw [reached, parameters.1, invariant.flowTtl]
  · rw [reached, parameters.2, invariant.maxFlows]
  · rw [reached, ← invariant.maxFlows]
    exact update_size_le room (by rw [invariant.maxFlows]; exact invariant.bounded)
  · intro key record stored
    rw [reached] at stored
    by_cases own : key = FlowKey.fromPacket rt packet
    · subst own
      rw [update_stored, Option.some.injEq] at stored
      subst stored
      simp only [FlowTracker.update]
      have looksUp := lookup_looksUp room (FlowKey.fromPacket rt packet) readings
      generalize (tracker.after rt calls).lookup (FlowKey.fromPacket rt packet) readings
        = outcome at looksUp ⊢
      cases looksUp with
      | @found record present =>
          obtain ⟨named, counts⟩ := invariant.counted _ record (get?_evictExpired.mp present).1
          refine ⟨by rw [FlowRecord.update_key, named], counts.snoc ?_ ?_ ?_⟩
          · rintro ⟨_, absent⟩
            rw [present] at absent
            cases absent
          · simp [FlowCall.packetOf]
          · simp [FlowCall.packetOf]
      | created absent => exact ⟨by rw [FlowRecord.update_key]; rfl,
          countsSinceCreation_created absent⟩
      | replaced absent => exact ⟨by rw [FlowRecord.update_key]; rfl,
          countsSinceCreation_created absent⟩
    · obtain ⟨present, _⟩ := of_update_get? room own stored
      obtain ⟨named, counts⟩ := invariant.counted key record present
      have otherKey : FlowKey.fromPacket rt packet ≠ key := Ne.symm own
      refine ⟨named, counts.snoc (fun creates => otherKey creates.1) ?_ ?_⟩
      · simp [FlowCall.packetOf, otherKey]
      · simp [FlowCall.packetOf, otherKey]

theorem run_invariant (rt : Runtime) (empty : tracker.table = .empty)
    (capacity : 1 ≤ tracker.maxFlows) (calls : List FlowCall) : RunInvariant rt tracker calls := by
  induction calls using List.reverseRecOn with
  | nil =>
      refine ⟨rfl, rfl, ?_, ?_⟩
      · simp only [after, Machine.run_nil, empty]
        exact le_trans (by decide) capacity
      · intro key record stored
        simp [after, empty] at stored
  | append_singleton calls call ih =>
      cases call with
      | update packet readings => exact ih.update capacity packet readings
      | evictExpired now => exact ih.evictExpired now

end Runs

/-- The flow table over any run of calls: its size is bounded, each record sits under its
own key and counts the packets of that key since it was created, an update returns the
table's record, an eviction pass leaves no expired flow, and an update removes at most one
unexpired flow, and that only for a new key at a full table. -/
theorem table_invariants (rt : Runtime) (tracker : FlowTracker)
    (empty : tracker.table = .empty) (capacity : 1 ≤ tracker.maxFlows)
    (calls : List FlowCall) :
    ((tracker.after rt calls).table.size : Int) ≤ tracker.maxFlows ∧
      (∀ key record, (tracker.after rt calls).table.get? key = some record →
        record.key = key ∧ CountsSinceCreation rt tracker calls key record) ∧
      (∀ packet readings,
        ((tracker.after rt calls).update rt packet readings).2.get rt packet =
          some ((tracker.after rt calls).update rt packet readings).1) ∧
      (∀ now key record,
        ((tracker.after rt calls).evictExpired now).table.get? key = some record →
          ¬ tracker.flowTtl < now - record.lastSeen) ∧
      (∀ packet readings key record, key ≠ FlowKey.fromPacket rt packet →
        ((tracker.after rt calls).update rt packet readings).2.table.get? key = some record →
          ¬ tracker.flowTtl < readings.expire - record.lastSeen) ∧
      ∀ packet readings, ∃ oldest, ∀ key,
        Removes rt (tracker.after rt calls) packet readings key →
          key = oldest ∧
            ((tracker.after rt calls).evictExpired readings.expire).table.get?
              (FlowKey.fromPacket rt packet) = none ∧
            (((tracker.after rt calls).evictExpired readings.expire).table.size : Int) =
              tracker.maxFlows := by
  have invariant := run_invariant rt empty capacity calls
  have room : 1 ≤ (tracker.after rt calls).maxFlows := by rwa [invariant.maxFlows]
  refine ⟨invariant.bounded, invariant.counted, fun _ _ => update_stored, ?_, ?_, ?_⟩
  · intro now key record stored
    have fresh := (get?_evictExpired.mp stored).2
    rwa [Expired, invariant.flowTtl] at fresh
  · intro packet readings key record different stored
    have fresh := (of_update_get? room different stored).2
    rwa [Expired, invariant.flowTtl] at fresh
  · intro packet readings
    obtain ⟨oldest, unique⟩ := removes_unique rt packet readings room
    refine ⟨oldest, fun key removes => ?_⟩
    obtain ⟨same, absent, full⟩ := unique key removes
    refine ⟨same, absent, le_antisymm (le_trans ?_ invariant.bounded) ?_⟩
    · exact_mod_cast Dict.size_filter_le _ _
    · rwa [invariant.maxFlows] at full

/-- Two flows through a table of one. -/
def twoFlows : FlowTracker :=
  ({ maxFlows := 1 } : FlowTracker).after .plain
    [.update { dstPort := 80, sizeBytes := 10 } (.at 1),
      .update { dstPort := 81, sizeBytes := 20 } (.at 2)]

/-- The second flow has replaced the first. -/
theorem table_invariants_twoFlows :
    (twoFlows.table.size : Int) ≤ 1 ∧
      (twoFlows.update .plain { dstPort := 80 } (.at 3)).2.get
          .plain { dstPort := 80 } =
        some (twoFlows.update .plain { dstPort := 80 } (.at 3)).1 :=
  have invariants := table_invariants .plain { maxFlows := 1 } rfl
    (by decide)
    [.update { dstPort := 80, sizeBytes := 10 } (.at 1),
      .update { dstPort := 81, sizeBytes := 20 } (.at 2)]
  ⟨invariants.1, invariants.2.2.1 _ _⟩

end FlowTracker

end SmartBandwidth

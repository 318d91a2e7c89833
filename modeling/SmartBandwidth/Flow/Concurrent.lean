import SmartBandwidth.Flow.Invariants
import SmartBandwidth.Lib.Replay

/-!
# Concurrent flow updates

`update` looks its record up under the lock and updates it outside.  Between the two
steps of one call the lookups of others run.  They see the record with an older time than
after the update, and may evict it: the call then updates a record that the table no longer
holds.  They also see records that were updated later than any call at their lookups' times.
-/

namespace SmartBandwidth

/-! ## The two steps of a call -/

/-- A call between its two steps.  The record object it holds is the one created under
the key as the generation says. -/
structure UpdateCall where
  packet : Packet
  key : FlowKey
  generation : Nat
  deriving DecidableEq, Repr

/-- The flow table, the number of records created so far under each key, and the calls
that have looked their record up and not updated it yet, by thread. -/
structure FlowCalls where
  tracker : FlowTracker
  generation : FlowKey → Nat
  inFlight : Dict Nat UpdateCall

/-- A step of some thread: the locked lookup of its call or the update of its record.
The update reading of the lookup is not taken. -/
inductive FlowAction where
  | lookup (thread : Nat) (packet : Packet) (readings : FlowReadings)
  | update (thread : Nat) (now : ℚ)

namespace FlowCalls

/-- No call has begun. -/
def init (tracker : FlowTracker) : FlowCalls where
  tracker := tracker
  generation := fun _ => 0
  inFlight := .empty

/-- Every call has finished. -/
def Finished (calls : FlowCalls) : Prop := ∀ thread, calls.inFlight.get? thread = none

/-- The locked part of `update`: the table, and the record that the call will update. -/
def lookup (rt : Runtime) (calls : FlowCalls) (thread : Nat) (packet : Packet)
    (readings : FlowReadings) : FlowCalls :=
  let key := FlowKey.fromPacket rt packet
  let found := ((calls.tracker.evictExpired readings.expire).table.get? key).isSome
  let generation :=
    if found then calls.generation
    else Function.update calls.generation key (calls.generation key + 1)
  { tracker := (calls.tracker.lookup key readings).2
    generation := generation
    inFlight := calls.inFlight.set thread
      { packet := packet, key := key, generation := generation key } }

/-- `record.update(packet)` of a call.  The table shows it if it still holds the record
object; otherwise the object is an orphan. -/
def updateRecord (calls : FlowCalls) (call : UpdateCall) (now : ℚ) : FlowTracker :=
  match calls.tracker.table.get? call.key with
  | some record =>
      if calls.generation call.key = call.generation then
        calls.tracker.writeBack (record.update call.packet now) call.key
      else
        calls.tracker
  | none => calls.tracker

/-- A call finishes with the update of its record. -/
def finish (calls : FlowCalls) (thread : Nat) (call : UpdateCall) (now : ℚ) : FlowCalls :=
  { calls with
    tracker := calls.updateRecord call now
    inFlight := calls.inFlight.erase thread }

/-- A step of a thread, if the thread is there. -/
def perform (rt : Runtime) (calls : FlowCalls) : FlowAction → Option FlowCalls
  | .lookup thread packet readings =>
      match calls.inFlight.get? thread with
      | none => some (calls.lookup rt thread packet readings)
      | some _ => none
  | .update thread now =>
      match calls.inFlight.get? thread with
      | none => none
      | some call => some (calls.finish thread call now)

theorem perform_lookup (rt : Runtime) {calls : FlowCalls} {thread : Nat}
    (idle : calls.inFlight.get? thread = none) (packet : Packet) (readings : FlowReadings) :
    perform rt calls (.lookup thread packet readings) =
      some (calls.lookup rt thread packet readings) := by
  simp only [perform, idle]

theorem perform_update (rt : Runtime) {calls : FlowCalls} {thread : Nat} {call : UpdateCall}
    (begun : calls.inFlight.get? thread = some call) (now : ℚ) :
    perform rt calls (.update thread now) = some (calls.finish thread call now) := by
  simp only [perform, begun]

/-- What a step can do: begin a call on an idle thread, or finish the call of a thread. -/
inductive Performs (rt : Runtime) (calls : FlowCalls) : FlowAction → FlowCalls → Prop where
  | lookup {thread : Nat} {packet : Packet} {readings : FlowReadings} :
      calls.inFlight.get? thread = none →
      Performs rt calls (.lookup thread packet readings)
        (calls.lookup rt thread packet readings)
  | update {thread : Nat} {now : ℚ} {call : UpdateCall} :
      calls.inFlight.get? thread = some call →
      Performs rt calls (.update thread now) (calls.finish thread call now)

theorem performs_of_perform {rt : Runtime} {calls next : FlowCalls} {action : FlowAction}
    (performed : perform rt calls action = some next) : Performs rt calls action next := by
  cases action with
  | lookup thread packet readings =>
      cases idle : calls.inFlight.get? thread with
      | some call =>
          simp only [perform, idle] at performed
          cases performed
      | none =>
          rw [perform_lookup rt idle, Option.some.injEq] at performed
          exact performed ▸ .lookup idle
  | update thread now =>
      cases begun : calls.inFlight.get? thread with
      | none =>
          simp only [perform, begun] at performed
          cases performed
      | some call =>
          rw [perform_update rt begun, Option.some.injEq] at performed
          exact performed ▸ .update begun

/-- The call that a lookup begins. -/
theorem lookup_inFlight (rt : Runtime) (calls : FlowCalls) (thread : Nat) (packet : Packet)
    (readings : FlowReadings) :
    (calls.lookup rt thread packet readings).inFlight.get? thread =
      some { packet := packet
             key := FlowKey.fromPacket rt packet
             generation := (calls.lookup rt thread packet readings).generation
               (FlowKey.fromPacket rt packet) } :=
  Dict.get?_set_self ..

/-- The two steps of a call with nothing between them are the sequential update. -/
theorem perform_alone (rt : Runtime) {calls : FlowCalls}
    (capacity : 1 ≤ calls.tracker.maxFlows) {thread : Nat}
    (idle : calls.inFlight.get? thread = none) (packet : Packet) (readings : FlowReadings) :
    (replay (perform rt) calls
        [.lookup thread packet readings, .update thread readings.update]).map tracker =
      some (calls.tracker.update rt packet readings).2 := by
  have stored : (calls.lookup rt thread packet readings).tracker.table.get?
      (FlowKey.fromPacket rt packet) =
        some (calls.tracker.lookup (FlowKey.fromPacket rt packet) readings).1 :=
    (FlowTracker.lookup_looksUp capacity _ readings).stored
  rw [replay, perform_lookup rt idle, Option.bind_some, replay,
    perform_update rt (lookup_inFlight rt calls thread packet readings), Option.bind_some,
    replay, Option.map_some]
  simp only [finish, updateRecord, stored, ↓reduceIte]
  rfl

end FlowCalls

/-! ## Clocks, sequential orders and lost records -/

/-- The readings of a lookup follow each other between two times. -/
structure FlowReadings.LookupBetween (readings : FlowReadings) (start finish : ℚ) : Prop where
  expire : start ≤ readings.expire
  idle : ∀ slot, readings.expire ≤ readings.idle slot
  idle_mono : Monotone readings.idle
  firstSeen : ∀ slot, readings.idle slot ≤ readings.firstSeen
  lastSeen : readings.firstSeen ≤ readings.lastSeen
  finish : readings.lastSeen ≤ finish

theorem FlowReadings.LookupBetween.passed {readings : FlowReadings} {start finish : ℚ}
    (between : readings.LookupBetween start finish) :
    readings.expire ≤ readings.firstSeen := (between.idle 0).trans (between.firstSeen 0)

theorem FlowReadings.LookupBetween.start_le {readings : FlowReadings} {start finish : ℚ}
    (between : readings.LookupBetween start finish) : start ≤ readings.lastSeen :=
  between.expire.trans (between.passed.trans between.lastSeen)

/-- The readings of a whole call follow each other between two times. -/
structure FlowReadings.Between (readings : FlowReadings) (start finish : ℚ) : Prop where
  lookup : readings.LookupBetween start readings.update
  update : readings.update ≤ finish

/-- Calls one after the other read one clock that never goes back, between two times. -/
def InTurn (finish : ℚ) : ℚ → List (Packet × FlowReadings) → Prop
  | start, [] => start ≤ finish
  | start, (_, readings) :: rest =>
      readings.LookupBetween start readings.update ∧ InTurn finish readings.update rest

theorem InTurn.start_le {start finish : ℚ} {sequential : List (Packet × FlowReadings)}
    (inTurn : InTurn finish start sequential) : start ≤ finish := by
  induction sequential generalizing start with
  | nil => exact inTurn
  | cons call rest ih =>
      obtain ⟨between, inTurn⟩ := inTurn
      exact (between.start_le.trans between.finish).trans (ih inTurn)

theorem InTurn.between {start finish : ℚ} {sequential : List (Packet × FlowReadings)}
    (inTurn : InTurn finish start sequential) :
    ∀ call ∈ sequential, call.2.Between start finish := by
  induction sequential generalizing start with
  | nil => exact fun call member => absurd member List.not_mem_nil
  | cons call rest ih =>
      obtain ⟨between, inTurn⟩ := inTurn
      rw [List.forall_mem_cons]
      constructor
      · exact {
          lookup := between
          update := inTurn.start_le }
      · intro other member
        have later := ih inTurn other member
        have passed := between.start_le.trans between.finish
        exact {
          lookup := { later.lookup with expire := passed.trans later.lookup.expire }
          update := later.update }

/-- The steps read one clock that never goes back, between two times. -/
def ClockRuns (finish : ℚ) : ℚ → List FlowAction → Prop
  | start, [] => start ≤ finish
  | start, .lookup _ _ readings :: rest =>
      readings.LookupBetween start readings.lastSeen ∧
        ClockRuns finish readings.lastSeen rest
  | start, .update _ now :: rest => start ≤ now ∧ ClockRuns finish now rest

theorem ClockRuns.start_le {start finish : ℚ} {actions : List FlowAction}
    (clock : ClockRuns finish start actions) : start ≤ finish := by
  induction actions generalizing start with
  | nil => exact clock
  | cons action rest ih =>
      cases action with
      | lookup thread packet readings =>
          obtain ⟨between, clock⟩ := clock
          exact between.start_le.trans (ih clock)
      | update thread now => exact clock.1.trans (ih clock.2)

/-- The packet of a call that begins with the step. -/
def FlowAction.called? : FlowAction → Option Packet
  | .lookup _ packet _ => some packet
  | .update _ _ => none

/-- What the table shows of a flow: its packet count and its byte count. -/
def FlowTracker.counts (tracker : FlowTracker) (key : FlowKey) : Option (Nat × Int) :=
  (tracker.table.get? key).map fun record => (record.packetCount, record.byteCount)

/-- Calls one after the other, each with its clock readings. -/
def FlowTracker.sequentially (rt : Runtime) (tracker : FlowTracker)
    (sequential : List (Packet × FlowReadings)) : FlowTracker :=
  tracker.after rt (sequential.map fun call => .update call.1 call.2)

namespace FlowTracker

/-- The table had its flows been last seen at other times. -/
def lastSeenAt (tracker : FlowTracker) (seen : FlowKey → ℚ) : FlowTracker :=
  { tracker with
    table := tracker.table.mapValues fun key record => { record with lastSeen := seen key } }

/-- The flows that stay in the table when a flow is looked up: after the expiry scan, and at
the end. -/
def stays (tracker : FlowTracker) (key : FlowKey) (readings : FlowReadings) :
    List FlowKey × List FlowKey :=
  ((tracker.evictExpired readings.expire).table.keys, (tracker.lookup key readings).2.table.keys)

/-- When the flows of the table were last seen. -/
def seen (tracker : FlowTracker) (key : FlowKey) : ℚ :=
  match tracker.table.get? key with
  | some record => record.lastSeen
  | none => 0

end FlowTracker

namespace FlowCalls

/-- When all calls have finished, the table shows what some sequential order of the same
calls shows, under a clock that never goes back. -/
def Linearizable (rt : Runtime) (tracker : FlowTracker) (start finish : ℚ)
    (actions : List FlowAction) (calls : FlowCalls) : Prop :=
  calls.Finished →
    ∃ sequential : List (Packet × FlowReadings),
      (sequential.map Prod.fst).Perm (actions.filterMap FlowAction.called?) ∧
      InTurn finish start sequential ∧
      ∀ key, calls.tracker.counts key = (tracker.sequentially rt sequential).counts key

/-- When a call on a thread would at the latest have updated its record, if it had to before
the next lookup: at its update, or at that lookup if it comes first. -/
def settles (finish : ℚ) (thread : Nat) : List FlowAction → ℚ
  | [] => finish
  | .lookup _ _ readings :: _ => readings.expire
  | .update other now :: rest => if other = thread then now else settles finish thread rest

/-- When the flows would have been last seen after a step, if every call had to update its
record before the next lookup. -/
def seenAfter (rt : Runtime) (finish : ℚ) (seen : FlowKey → ℚ) (rest : List FlowAction) :
    FlowAction → FlowKey → ℚ
  | .lookup thread packet _ =>
      Function.update seen (FlowKey.fromPacket rt packet) (settles finish thread rest)
  | .update _ _ => seen

/-- The step evicts the flows that it would evict had they been last seen at other times. -/
def EvictsAlike (rt : Runtime) (calls : FlowCalls) (seen : FlowKey → ℚ) : FlowAction → Prop
  | .lookup _ packet readings =>
      calls.tracker.stays (FlowKey.fromPacket rt packet) readings =
        (calls.tracker.lastSeenAt seen).stays (FlowKey.fromPacket rt packet) readings
  | .update _ _ => True

instance (rt : Runtime) (calls : FlowCalls) (seen : FlowKey → ℚ) :
    (action : FlowAction) → Decidable (EvictsAlike rt calls seen action)
  | .lookup _ _ _ => inferInstanceAs (Decidable (_ = _))
  | .update _ _ => inferInstanceAs (Decidable True)

/-- Every lookup evicts the flows that it would evict if every call before it had updated its
record no later than at the next lookup. -/
def EvictsInTurn (rt : Runtime) (finish : ℚ) : FlowCalls → (FlowKey → ℚ) → List FlowAction → Prop
  | _, _, [] => True
  | calls, seen, action :: rest =>
      EvictsAlike rt calls seen action ∧
        ∀ next ∈ perform rt calls action,
          EvictsInTurn rt finish next (seenAfter rt finish seen rest action) rest

instance EvictsInTurn.decidable (rt : Runtime) (finish : ℚ) :
    ∀ (calls : FlowCalls) (seen : FlowKey → ℚ) (actions : List FlowAction),
      Decidable (EvictsInTurn rt finish calls seen actions)
  | _, _, [] => inferInstanceAs (Decidable True)
  | calls, seen, action :: rest =>
      have : ∀ next, Decidable
          (EvictsInTurn rt finish next (seenAfter rt finish seen rest action) rest) :=
        fun next => EvictsInTurn.decidable rt finish next _ rest
      inferInstanceAs (Decidable (EvictsAlike rt calls seen action ∧
        ∀ next ∈ perform rt calls action,
          EvictsInTurn rt finish next (seenAfter rt finish seen rest action) rest))

end FlowCalls

end SmartBandwidth

import SmartBandwidth.Value.ValueLossTracker
import SmartBandwidth.Lib.EventLog
import Mathlib.Algebra.Order.Field.Basic

/-!
# Pruning of the value windows

Record calls may append events late, so that the deques need not be sorted.  Pruning keeps two
windows before the reading of the record call, which is never after the clock: the rates, which
look one window back from later readings, are those of the log that is never pruned.
-/

namespace SmartBandwidth

/-- What happens to the value of a packet. -/
inductive ValueOutcome where
  | delivered
  | dropped
  deriving DecidableEq, Repr

/-- A call of `record_delivered` or `record_dropped` with its clock reading. -/
structure RecordCall (Value : Type := ℚ) where
  outcome : ValueOutcome
  value : Value
  now : ℚ
  deriving DecidableEq, Repr

/-- A step of some thread: a record call reads the clock or takes the lock, a rate reads the
clock, or the tracker is reset. -/
inductive TrackerAction (Value : Type := ℚ) where
  | readClock (thread : Nat) (call : RecordCall Value)
  | record (thread : Nat) (call : RecordCall Value)
  | readRate (now : ℚ)
  | reset

namespace TrackerCalls

section Log

variable {Value : Type}

/-- One action on the log of an outcome, without pruning. -/
def append (outcome : ValueOutcome) (log : List (ℚ × Value)) :
    TrackerAction Value → List (ℚ × Value)
  | .record _ call =>
      if call.outcome = outcome then log ++ [(call.now, call.value)] else log
  | .reset => []
  | .readClock _ _ => log
  | .readRate _ => log

/-- All events of an outcome recorded since the last reset. -/
def recorded (outcome : ValueOutcome) (actions : List (TrackerAction Value)) :
    List (ℚ × Value) :=
  actions.foldl (append outcome) []

theorem recorded_snoc (outcome : ValueOutcome) (past : List (TrackerAction Value))
    (action : TrackerAction Value) :
    recorded outcome (past ++ [action]) = append outcome (recorded outcome past) action :=
  List.foldl_concat ..

end Log

/-- The sum of the values of some events. -/
def valueSum (events : List (ℚ × ℚ)) : ℚ := (events.map Prod.snd).sum

end TrackerCalls

open TrackerCalls

namespace ValueLossTracker

/-- The events of one outcome. -/
def events (tracker : ValueLossTracker) : ValueOutcome → List (ℚ × ℚ)
  | .delivered => tracker.delivered
  | .dropped => tracker.dropped

/-- The total of one outcome. -/
def total (tracker : ValueLossTracker) : ValueOutcome → ℚ
  | .delivered => tracker.valueDeliveredTotal
  | .dropped => tracker.valueLostTotal

/-- The locked part of a record call. -/
def record (tracker : ValueLossTracker) (call : RecordCall) : ValueLossTracker :=
  match call.outcome with
  | .delivered => tracker.recordDelivered call.value call.now
  | .dropped => tracker.recordDropped call.value call.now

/-! ## The locked part of a record call -/

section Record

variable (tracker : ValueLossTracker) (call : RecordCall)

@[simp] theorem record_window : (tracker.record call).window = tracker.window := by
  rw [record]
  split <;> rfl

/-- A record call appends to its own log and prunes both. -/
theorem record_events (thread : Nat) (outcome : ValueOutcome) :
    (tracker.record call).events outcome =
      (append outcome (tracker.events outcome) (.record thread call)).dropWhile
        fun event => event.1 < call.now - 2 * tracker.window := by
  obtain ⟨which, value, now⟩ := call
  cases which with
  | delivered => cases outcome <;> rfl
  | dropped => cases outcome <;> rfl

theorem record_total (outcome : ValueOutcome) :
    (tracker.record call).total outcome =
      if call.outcome = outcome then tracker.total outcome + call.value
      else tracker.total outcome := by
  obtain ⟨which, value, now⟩ := call
  cases which with
  | delivered => cases outcome <;> rfl
  | dropped => cases outcome <;> rfl

end Record

/-! ## Faithful trackers -/

/-- The tracker answers every rate from a time on as the unpruned logs do, and holds their
totals. -/
structure Faithful (window : ℚ) (past : List TrackerAction) (tracker : ValueLossTracker)
    (time : ℚ) : Prop where
  window_eq : tracker.window = window
  agree : ∀ outcome,
    EventLog.AgreeFrom (time - window) (tracker.events outcome) (recorded outcome past)
  total : ∀ outcome, tracker.total outcome = valueSum (recorded outcome past)

theorem init_faithful (windowSeconds time : ℚ) :
    Faithful (max (1 / 10) windowSeconds) [] (.init windowSeconds) time where
  window_eq := rfl
  agree := by
    intro outcome
    cases outcome with
    | delivered => exact .refl []
    | dropped => exact .refl []
  total := by
    intro outcome
    cases outcome with
    | delivered => rfl
    | dropped => rfl

section Step

variable {window time : ℚ} {past : List TrackerAction} {tracker : ValueLossTracker}

theorem Faithful.later (faithful : Faithful window past tracker time) {now : ℚ}
    (later : time ≤ now) : Faithful window past tracker now where
  window_eq := faithful.window_eq
  agree := fun outcome => (faithful.agree outcome).later (sub_le_sub_right later window)
  total := faithful.total

/-- A record call prunes at least one more window than any later rate looks back. -/
theorem Faithful.record (nonneg : 0 ≤ window) (faithful : Faithful window past tracker time)
    (thread : Nat) {call : RecordCall} (before : call.now ≤ time) :
    Faithful window (past ++ [.record thread call]) (tracker.record call) time where
  window_eq := (record_window tracker call).trans faithful.window_eq
  agree := by
    intro outcome
    have horizon : call.now - 2 * tracker.window ≤ time - window := by
      rw [faithful.window_eq]
      linarith
    rw [record_events tracker call thread, recorded_snoc]
    apply EventLog.AgreeFrom.dropWhile _ horizon
    rw [append, append]
    split
    next => exact (faithful.agree outcome).append _
    next => exact faithful.agree outcome
  total := by
    intro outcome
    rw [record_total, recorded_snoc, append, faithful.total outcome]
    split
    next => simp [valueSum]
    next => rfl

theorem Faithful.reset (faithful : Faithful window past tracker time) :
    Faithful window (past ++ [.reset]) tracker.reset time where
  window_eq := faithful.window_eq
  agree := by
    intro outcome
    rw [recorded_snoc]
    cases outcome with
    | delivered => exact .refl []
    | dropped => exact .refl []
  total := by
    intro outcome
    rw [recorded_snoc]
    cases outcome with
    | delivered => rfl
    | dropped => rfl

/-- A rate is the unpruned sum over the window. -/
theorem Faithful.rate (faithful : Faithful window past tracker time) (outcome : ValueOutcome)
    {now : ℚ} (later : time ≤ now) :
    tracker.rate (tracker.events outcome) now =
      valueSum (EventLog.since (now - window) (recorded outcome past)) / window := by
  have seen := (faithful.agree outcome).since_eq (sub_le_sub_right later window)
  rw [ValueLossTracker.rate, faithful.window_eq, ← seen]
  rfl

end Step

end ValueLossTracker

end SmartBandwidth

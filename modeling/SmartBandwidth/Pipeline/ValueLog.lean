import SmartBandwidth.Pipeline.DeliveredRate
import SmartBandwidth.Value.Pruning

/-!
# The log behind the value metrics

The replies of an optimizer log what its packets were worth.  The metrics of its tracker, which
prunes, are those of a tracker that keeps the whole log since the last reset.
-/

namespace SmartBandwidth

open TrackerCalls

/-- What a call and its reply log. -/
def loggedActions : OptimizerCall × OptimizerReply → List TrackerAction
  | (.process _ readings, .processed (.ok result)) => [.record 0 {
      outcome := if result.dropped then .dropped else .delivered
      value := result.worth
      now := readings.record }]
  | (.resetStats, _) => [.reset]
  | (.process .., _) | (.dequeue, _) | (.drain, _) | (.drainNext, _) => []

/-- What some calls and their replies log. -/
def loggedBy (calls : List OptimizerCall) (replies : List OptimizerReply) : List TrackerAction :=
  (calls.zip replies).flatMap loggedActions

/-- A tracker that has kept a whole log since its last reset. -/
def ValueLossTracker.keeping (past : List TrackerAction) : ValueLossTracker where
  window := 5
  delivered := recorded .delivered past
  dropped := recorded .dropped past
  totalDelivered := valueSum (recorded .delivered past)
  totalDropped := valueSum (recorded .dropped past)

/-- The clock reading with which a call records. -/
def OptimizerCall.recordReading : OptimizerCall → Option ℚ
  | .process _ readings => some readings.record
  | .dequeue | .drain | .drainNext | .resetStats => none

/-- The readings with which some calls record. -/
def recordReadings (calls : List OptimizerCall) : List ℚ :=
  calls.filterMap OptimizerCall.recordReading

namespace ValueLossTracker

/-- The tracker answers from a time on as the whole log does. -/
def Answers (tracker : ValueLossTracker) (past : List TrackerAction) (time : ℚ) : Prop :=
  Faithful 5 past tracker time

variable {tracker : ValueLossTracker} {past : List TrackerAction} {time : ℚ}

theorem init_answers (time : ℚ) : init.Answers [] time := by
  have faithful := init_faithful 5 time
  rwa [show max (1 / 10) (5 : ℚ) = 5 by norm_num] at faithful

theorem Answers.record (answers : tracker.Answers past time) {call : RecordCall}
    (later : time ≤ call.now) :
    (tracker.record call).Answers (past ++ [.record 0 call]) call.now :=
  Faithful.record (by norm_num) (Faithful.later answers later) 0 le_rfl

theorem Answers.reset (answers : tracker.Answers past time) :
    tracker.reset.Answers (past ++ [.reset]) time :=
  Faithful.reset answers

theorem Answers.later (answers : tracker.Answers past time) {now : ℚ} (ordered : time ≤ now) :
    tracker.Answers past now :=
  Faithful.later answers ordered

/-- What a call records is logged, and what it clears. -/
theorem Answers.after (answers : tracker.Answers past time) {call : OptimizerCall}
    (reply : OptimizerReply) (ordered : ∀ reading ∈ call.recordReading, time ≤ reading) :
    (tracker.after call reply).Answers (past ++ loggedActions (call, reply))
      (call.recordReading.getD time) := by
  cases call with
  | process ref readings =>
      have later : time ≤ readings.record := ordered _ rfl
      have silent : tracker.Answers (past ++ []) readings.record := by
        rw [List.append_nil]
        exact answers.later later
      cases reply with
      | packet | packets | done => exact silent
      | processed outcome =>
          cases outcome with
          | error => exact silent
          | ok result =>
              have logs : tracker.after (.process ref readings) (.processed (.ok result)) =
                  tracker.record {
                    outcome := if result.dropped then .dropped else .delivered
                    value := result.worth
                    now := readings.record } := by
                rw [ValueLossTracker.after, ValueLossTracker.record]
                cases result.dropped <;> rfl
              rw [logs]
              exact answers.record later
  | resetStats => exact answers.reset
  | dequeue | drain | drainNext =>
      rw [loggedActions, List.append_nil]
      exact answers

/-- The metrics of a tracker are those of its log. -/
theorem Answers.toDict (answers : tracker.Answers past time) {clock : Nat → ℚ}
    (later : ∀ index < 4, time ≤ clock index) :
    tracker.toDict clock = (keeping past).toDict clock := by
  have delivered {index : Nat} (small : index < 4) : tracker.rate tracker.delivered (clock index) =
      (keeping past).rate (keeping past).delivered (clock index) := by
    exact Faithful.rate answers .delivered (later index small)
  have dropped {index : Nat} (small : index < 4) : tracker.rate tracker.dropped (clock index) =
      (keeping past).rate (keeping past).dropped (clock index) := by
    exact Faithful.rate answers .dropped (later index small)
  have totalDelivered : tracker.totalDelivered = (keeping past).totalDelivered :=
    answers.total .delivered
  have totalDropped : tracker.totalDropped = (keeping past).totalDropped :=
    answers.total .dropped
  have window : tracker.window = (keeping past).window := answers.window_eq
  simp only [ValueLossTracker.toDict, valueEfficiencyPct, delivered (by decide : 0 < 4),
    delivered (by decide : 2 < 4), dropped (by decide : 1 < 4), dropped (by decide : 3 < 4),
    totalDelivered, totalDropped, window]

end ValueLossTracker

namespace BandwidthOptimizer

variable {state : BandwidthOptimizer × Store} {policy : FlowValuePolicy}
variable {scheduler : ValueScheduler} {tracker : ValueLossTracker} {past : List TrackerAction}
variable {calls : List OptimizerCall} {time last : ℚ}

/-- A run whose clock does not go back logs what its replies show. -/
theorem run_answers (rt : Runtime) (engineEq : state.1.engine = .pvm policy scheduler tracker)
    (answers : tracker.Answers past time)
    (ordered : (time :: recordReadings calls).Pairwise (· ≤ ·))
    (before : ∀ reading ∈ time :: recordReadings calls, reading ≤ last) :
    ∃ scheduler' tracker', (Machine.run (call rt) state calls).2.1.engine =
        .pvm policy scheduler' tracker' ∧
      tracker'.Answers (past ++ loggedBy calls (Machine.run (call rt) state calls).1) last := by
  induction calls generalizing state scheduler tracker past time with
  | nil =>
      refine ⟨scheduler, tracker, engineEq, ?_⟩
      rw [loggedBy, List.zip_nil_left, List.flatMap_nil, List.append_nil]
      exact answers.later (before time List.mem_cons_self)
  | cons first rest ih =>
      obtain ⟨next, nextEq⟩ := call_tracker rt engineEq first
      have readings : recordReadings (first :: rest) =
          first.recordReading.toList ++ recordReadings rest := by
        cases reads : first.recordReading <;> simp [recordReadings, reads]
      rw [readings] at ordered before
      have logged := answers.after (call rt state first).1 fun reading isReading =>
        List.rel_of_pairwise_cons ordered (List.mem_append_left _ (by simpa using isReading))
      have laterOrdered : (first.recordReading.getD time :: recordReadings rest).Pairwise
          (· ≤ ·) := by
        cases reads : first.recordReading with
        | none =>
            rw [reads] at ordered
            exact ordered
        | some reading =>
            rw [reads] at ordered
            exact (List.pairwise_cons.mp ordered).2
      have laterBefore : ∀ reading ∈ first.recordReading.getD time :: recordReadings rest,
          reading ≤ last := by
        cases reads : first.recordReading with
        | none =>
            rw [reads] at before
            exact before
        | some reading =>
            rw [reads] at before
            exact fun other member => before other (List.mem_cons_of_mem _ member)
      obtain ⟨scheduler', tracker', reached, shows⟩ := ih nextEq logged laterOrdered laterBefore
      refine ⟨scheduler', tracker', reached, ?_⟩
      rw [List.append_assoc] at shows
      exact shows

end BandwidthOptimizer

end SmartBandwidth

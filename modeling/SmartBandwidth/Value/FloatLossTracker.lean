import SmartBandwidth.Value.Pruning
import SmartBandwidth.Lib.PySum
import SmartBandwidth.Lib.Replay
import SmartBandwidth.Lib.Dict

/-!
# Value loss tracking with floats

The tracker computes with floats, which round: totals are running sums, rates are float sums
divided by the window, and the efficiency is a quotient of rounded numbers.  Several threads
record, and a record call reads the clock before it takes the lock.
-/

namespace SmartBandwidth

/-- `ValueLossTracker`, over floats; clock readings are finite. -/
structure FloatLossTracker where
  window : PyFloat
  delivered : List (ℚ × PyFloat)
  dropped : List (ℚ × PyFloat)
  totalDelivered : PyFloat
  totalDropped : PyFloat
  deriving DecidableEq, Repr

namespace FloatLossTracker

/-- `__init__`. -/
def init (windowSeconds : PyFloat := .finite 5) : FloatLossTracker where
  window := .maximum (.ofExact (1 / 10)) windowSeconds
  delivered := []
  dropped := []
  totalDelivered := .finite 0
  totalDropped := .finite 0

/-- An event before `now - 2 * window`. -/
def outdated (window : PyFloat) (now : ℚ) (event : ℚ × PyFloat) : Bool :=
  (PyFloat.finite event.1).lt
    ((PyFloat.finite now).subRounded ((PyFloat.finite 2).mulRounded window))

/-- `_evict_old`. -/
def evictOld (tracker : FloatLossTracker) (now : ℚ) : FloatLossTracker :=
  { tracker with
    delivered := tracker.delivered.dropWhile (outdated tracker.window now)
    dropped := tracker.dropped.dropWhile (outdated tracker.window now) }

/-- `record_delivered`. -/
def recordDelivered (tracker : FloatLossTracker) (value : PyFloat) (now : ℚ) :
    FloatLossTracker :=
  evictOld
    { tracker with
      delivered := tracker.delivered ++ [(now, value)]
      totalDelivered := tracker.totalDelivered.addRounded value } now

/-- `record_dropped`. -/
def recordDropped (tracker : FloatLossTracker) (value : PyFloat) (now : ℚ) : FloatLossTracker :=
  evictOld
    { tracker with
      dropped := tracker.dropped ++ [(now, value)]
      totalDropped := tracker.totalDropped.addRounded value } now

/-- The values of the events from `now - window` on. -/
def valuesInWindow (window : PyFloat) (events : List (ℚ × PyFloat)) (now : ℚ) : List PyFloat :=
  (events.filter fun event =>
    ((PyFloat.finite now).subRounded window).le (.finite event.1)).map Prod.snd

/-- `_rate`, of some events and a window. -/
def rateOver (python : PySum) (window : PyFloat) (events : List (ℚ × PyFloat)) (now : ℚ) :
    Except PyFault PyFloat := do
  let total ← python.sum ((valuesInWindow window events now).map .float)
  let total ← total.toFloatRounded
  total.divRounded window

/-- `value_delivered_total`. -/
def valueDeliveredTotal (tracker : FloatLossTracker) : PyFloat := tracker.totalDelivered

/-- `value_lost_total`. -/
def valueLostTotal (tracker : FloatLossTracker) : PyFloat := tracker.totalDropped

/-- `value_delivered_per_sec`. -/
def valueDeliveredPerSec (python : PySum) (tracker : FloatLossTracker) (now : ℚ) :
    Except PyFault PyFloat :=
  rateOver python tracker.window tracker.delivered now

/-- `value_lost_per_sec`. -/
def valueLostPerSec (python : PySum) (tracker : FloatLossTracker) (now : ℚ) :
    Except PyFault PyFloat :=
  rateOver python tracker.window tracker.dropped now

/-- The share of what is delivered, in percent. -/
def efficiencyOf (delivered lost : PyFloat) : Except PyFault PyFloat :=
  let total := delivered.addRounded lost
  if (PyFloat.finite 0).lt total then
    ((PyFloat.finite 100).mulRounded delivered).divRounded total
  else
    .ok (.finite 100)

/-- `value_efficiency_pct`, with the clock readings of its two rates. -/
def valueEfficiencyPct (python : PySum) (tracker : FloatLossTracker)
    (deliveredNow lostNow : ℚ) : Except PyFault PyFloat := do
  let delivered ← rateOver python tracker.window tracker.delivered deliveredNow
  let lost ← rateOver python tracker.window tracker.dropped lostNow
  efficiencyOf delivered lost

/-- `reset`. -/
def reset (tracker : FloatLossTracker) : FloatLossTracker :=
  { tracker with
    delivered := []
    dropped := []
    totalDelivered := .finite 0
    totalDropped := .finite 0 }

/-- The events of one outcome. -/
def events (tracker : FloatLossTracker) : ValueOutcome → List (ℚ × PyFloat)
  | .delivered => tracker.delivered
  | .dropped => tracker.dropped

/-- The total of one outcome. -/
def total (tracker : FloatLossTracker) : ValueOutcome → PyFloat
  | .delivered => tracker.valueDeliveredTotal
  | .dropped => tracker.valueLostTotal

/-- The rate of one outcome. -/
def perSec (python : PySum) (tracker : FloatLossTracker) :
    ValueOutcome → ℚ → Except PyFault PyFloat
  | .delivered => tracker.valueDeliveredPerSec python
  | .dropped => tracker.valueLostPerSec python

/-- The locked part of a record call. -/
def record (tracker : FloatLossTracker) (call : RecordCall PyFloat) : FloatLossTracker :=
  match call.outcome with
  | .delivered => tracker.recordDelivered call.value call.now
  | .dropped => tracker.recordDropped call.value call.now

end FloatLossTracker

/-! ## Interleavings -/

/-- A tracker, the last clock reading, and the record calls that have read the clock and do
not have the lock yet, by thread. -/
structure TrackerCalls where
  tracker : FloatLossTracker
  clock : ℚ
  inFlight : Dict Nat (RecordCall PyFloat)

namespace TrackerCalls

open FloatLossTracker

/-- A new tracker, made when the clock shows a time. -/
def start (windowSeconds : PyFloat) (clock : ℚ) : TrackerCalls where
  tracker := .init windowSeconds
  clock := clock
  inFlight := .empty

/-- A step of a thread, if it is the thread's next step and the clock does not go back. -/
def perform (calls : TrackerCalls) : TrackerAction PyFloat → Option TrackerCalls
  | .readClock thread call =>
      if calls.inFlight.get? thread = none ∧ calls.clock ≤ call.now then
        some { calls with
          clock := call.now
          inFlight := calls.inFlight.set thread call }
      else
        none
  | .record thread call =>
      if calls.inFlight.get? thread = some call then
        some { calls with
          tracker := calls.tracker.record call
          inFlight := calls.inFlight.erase thread }
      else
        none
  | .readRate now =>
      if calls.clock ≤ now then
        some { calls with clock := now }
      else
        none
  | .reset => some { calls with tracker := calls.tracker.reset }

/-- The running total of some events. -/
def runningTotal (events : List (ℚ × PyFloat)) : PyFloat :=
  events.foldl (fun total event => total.addRounded event.2) (.finite 0)

theorem valuesInWindow_append (window : PyFloat) (first second : List (ℚ × PyFloat)) (now : ℚ) :
    valuesInWindow window (first ++ second) now =
      valuesInWindow window first now ++ valuesInWindow window second now := by
  rw [valuesInWindow, List.filter_append, List.map_append]
  rfl

/-! ## The locked part of a record call -/

section Record

variable (tracker : FloatLossTracker) (call : RecordCall PyFloat)

@[simp] theorem record_window : (tracker.record call).window = tracker.window := by
  rw [record]
  split <;> rfl

theorem record_events (thread : Nat) (outcome : ValueOutcome) :
    (tracker.record call).events outcome =
      (append outcome (tracker.events outcome) (.record thread call)).dropWhile
        (outdated tracker.window call.now) := by
  obtain ⟨which, value, now⟩ := call
  cases which with
  | delivered => cases outcome <;> rfl
  | dropped => cases outcome <;> rfl

theorem record_total (outcome : ValueOutcome) :
    (tracker.record call).total outcome =
      if call.outcome = outcome then (tracker.total outcome).addRounded call.value
      else tracker.total outcome := by
  obtain ⟨which, value, now⟩ := call
  cases which with
  | delivered => cases outcome <;> rfl
  | dropped => cases outcome <;> rfl

end Record

/-- A window is a positive float. -/
structure IsWindow (window : PyFloat) : Prop where
  isFloat : window.IsFloat
  positive : (PyFloat.finite 0).lt window = true

/-- What a record call prunes is in no window that is read at its time or later. -/
theorem IsWindow.not_le_of_outdated {window : PyFloat} (isWindow : IsWindow window)
    {now later : ℚ} (ordered : now ≤ later) {event : ℚ × PyFloat}
    (old : outdated window now event = true) :
    ((PyFloat.finite later).subRounded window).le (.finite event.1) = false := by
  apply PyFloat.not_le_of_lt_of_le old
  cases window with
  | nan => cases isWindow.positive
  | infinity negative =>
      cases negative with
      | true => cases isWindow.positive
      | false => rfl
  | finite seconds =>
      have positive : 0 < seconds := PyFloat.lt_finite_iff.mp isWindow.positive
      have isDouble := (PyFloat.isFloat_finite_iff.mp isWindow.isFloat).1
      by_cases below : |2 * seconds| < Binary64.limit
      · have doubled : (PyFloat.finite 2).mulRounded (.finite seconds) =
            .finite (2 * seconds) := by
          change PyFloat.ofExact (2 * seconds) = _
          rw [PyFloat.ofExact_eq below, isDouble.two_mul.nearest_eq]
        rw [doubled]
        apply PyFloat.ofExact_mono
        linarith
      · have doubled : (PyFloat.finite 2).mulRounded (.finite seconds) = .infinity false := by
          change PyFloat.ofExact (2 * seconds) = _
          rw [PyFloat.ofExact, if_neg below, decide_eq_false (by linarith)]
        rw [doubled]
        exact PyFloat.infinity_le_ofExact _

/-! ## Faithful trackers -/

/-- The tracker reads the windows from the last clock reading on as the unpruned logs do, and
holds their totals. -/
structure Faithful (window : PyFloat) (past : List (TrackerAction PyFloat))
    (calls : TrackerCalls) : Prop where
  window_eq : calls.tracker.window = window
  stamped : ∀ thread call, calls.inFlight.get? thread = some call → call.now ≤ calls.clock
  agree : ∀ outcome now, calls.clock ≤ now →
    valuesInWindow window (calls.tracker.events outcome) now =
      valuesInWindow window (recorded outcome past) now
  total : ∀ outcome, calls.tracker.total outcome = runningTotal (recorded outcome past)

theorem start_faithful (windowSeconds : PyFloat) (clock : ℚ) :
    Faithful (.maximum (.ofExact (1 / 10)) windowSeconds) [] (start windowSeconds clock) where
  window_eq := rfl
  stamped := by
    intro thread call begun
    cases begun
  agree := by
    intro outcome now later
    cases outcome with
    | delivered => rfl
    | dropped => rfl
  total := by
    intro outcome
    cases outcome with
    | delivered => rfl
    | dropped => rfl

section Step

variable {window : PyFloat} {past : List (TrackerAction PyFloat)} {calls : TrackerCalls}

/-- A clock reading that is not recorded changes nothing. -/
theorem Faithful.tick (faithful : Faithful window past calls) {now : ℚ}
    (later : calls.clock ≤ now) : Faithful window past { calls with clock := now } where
  window_eq := faithful.window_eq
  stamped := fun thread call begun => (faithful.stamped thread call begun).trans later
  agree := fun outcome other after => faithful.agree outcome other (later.trans after)
  total := faithful.total

theorem Faithful.readClock (faithful : Faithful window past calls) (thread : Nat)
    {call : RecordCall PyFloat} (later : calls.clock ≤ call.now) :
    Faithful window past
      { calls with clock := call.now, inFlight := calls.inFlight.set thread call } :=
  { faithful.tick later with
    stamped := by
      intro other begun stored
      rw [Dict.get?_set] at stored
      split at stored
      next =>
        cases stored
        exact le_rfl
      next => exact (faithful.stamped other begun stored).trans later }

/-- The reading of a record call is not after the clock, so that it prunes at least one more
window than any rate looks back. -/
theorem Faithful.record (isWindow : IsWindow window) (faithful : Faithful window past calls)
    {thread : Nat} {call : RecordCall PyFloat} (begun : calls.inFlight.get? thread = some call) :
    Faithful window (past ++ [.record thread call])
      { calls with
        tracker := calls.tracker.record call
        inFlight := calls.inFlight.erase thread } where
  window_eq := (record_window calls.tracker call).trans faithful.window_eq
  stamped := by
    intro other stored stays
    rw [Dict.get?_erase] at stays
    split at stays
    next => cases stays
    next => exact faithful.stamped other stored stays
  agree := by
    intro outcome now later
    have ordered : call.now ≤ now := (faithful.stamped thread call begun).trans later
    have agree := faithful.agree outcome now later
    rw [record_events calls.tracker call thread, recorded_snoc, faithful.window_eq, valuesInWindow,
      EventLog.filter_dropWhile fun _ old => isWindow.not_le_of_outdated ordered old,
      ← valuesInWindow, append, append]
    split
    next => rw [valuesInWindow_append, valuesInWindow_append, agree]
    next => exact agree
  total := by
    intro outcome
    rw [record_total, recorded_snoc, append, faithful.total outcome]
    split
    next => rw [runningTotal, runningTotal, List.foldl_concat]
    next => rfl

theorem Faithful.reset (faithful : Faithful window past calls) :
    Faithful window (past ++ [.reset]) { calls with tracker := calls.tracker.reset } where
  window_eq := faithful.window_eq
  stamped := faithful.stamped
  agree := by
    intro outcome now later
    rw [recorded_snoc]
    cases outcome with
    | delivered => rfl
    | dropped => rfl
  total := by
    intro outcome
    rw [recorded_snoc]
    cases outcome with
    | delivered => rfl
    | dropped => rfl

/-- An action that records nothing and clears nothing is not seen in the logs. -/
theorem Faithful.silent (faithful : Faithful window past calls)
    {action : TrackerAction PyFloat}
    (silent : ∀ outcome log, append outcome log action = log) :
    Faithful window (past ++ [action]) calls where
  window_eq := faithful.window_eq
  stamped := faithful.stamped
  agree := by
    intro outcome
    rw [recorded_snoc, silent]
    exact faithful.agree outcome
  total := by
    intro outcome
    rw [recorded_snoc, silent]
    exact faithful.total outcome

/-- Every step keeps a tracker faithful. -/
theorem Faithful.step (isWindow : IsWindow window) (faithful : Faithful window past calls)
    {action : TrackerAction PyFloat} {next : TrackerCalls}
    (performs : calls.perform action = some next) :
    Faithful window (past ++ [action]) next := by
  cases action with
  | readClock thread call =>
      obtain ⟨⟨_, later⟩, same⟩ := Option.ite_none_right_eq_some.mp performs
      cases same
      exact (faithful.readClock thread later).silent fun _ _ => rfl
  | record thread call =>
      obtain ⟨begun, same⟩ := Option.ite_none_right_eq_some.mp performs
      cases same
      exact faithful.record isWindow begun
  | readRate now =>
      obtain ⟨later, same⟩ := Option.ite_none_right_eq_some.mp performs
      cases same
      exact (faithful.tick later).silent fun _ _ => rfl
  | reset =>
      cases performs
      exact faithful.reset

end Step

/-- The window of a new tracker. -/
theorem init_isWindow {windowSeconds : PyFloat} (isFloat : windowSeconds.IsFloat) :
    IsWindow (.maximum (.ofExact (1 / 10)) windowSeconds) := by
  have tenth : PyFloat.ofExact (1 / 10) = .finite (Binary64.nearest (1 / 10)) ∧
      0 < Binary64.nearest (1 / 10) := by
    decide +kernel
  rw [PyFloat.maximum, tenth.1]
  split
  next larger =>
    apply IsWindow.mk isFloat
    cases windowSeconds with
    | finite seconds =>
        exact PyFloat.lt_finite_iff.mpr (tenth.2.trans (PyFloat.lt_finite_iff.mp larger))
    | infinity negative =>
        cases negative with
        | true => cases larger
        | false => rfl
    | nan => cases larger
  next =>
    rw [← tenth.1]
    exact ⟨PyFloat.rounded_isFloat (.finite (1 / 10)), by decide +kernel⟩

theorem replay_faithful {windowSeconds : PyFloat} (isFloat : windowSeconds.IsFloat) {clock : ℚ}
    {actions : List (TrackerAction PyFloat)} {reached : TrackerCalls}
    (replays : replay perform (start windowSeconds clock) actions = some reached) :
    Faithful (.maximum (.ofExact (1 / 10)) windowSeconds) actions reached := by
  have kept (past : List (TrackerAction PyFloat)) (calls : TrackerCalls)
      (action : TrackerAction PyFloat) (next : TrackerCalls)
      (faithful : Faithful (.maximum (.ofExact (1 / 10)) windowSeconds) past calls)
      (performs : perform calls action = some next) :
      Faithful (.maximum (.ofExact (1 / 10)) windowSeconds) (past ++ [action]) next :=
    faithful.step (init_isWindow isFloat) performs
  have faithful := replay.invariant kept (start_faithful windowSeconds clock) replays
  rwa [List.nil_append] at faithful

/-! ## Rates -/

/-- A value that is not negative. -/
structure IsAmount (value : PyFloat) : Prop where
  isFloat : value.IsFloat
  nonneg : value.Nonneg

section Rate

variable (python : PySum) {window : PyFloat} {events : List (ℚ × PyFloat)} (now : ℚ)

theorem amounts_in_window (amounts : ∀ event ∈ events, IsAmount event.2) :
    ∀ value ∈ valuesInWindow window events now, IsAmount value := by
  intro value member
  obtain ⟨event, recent, rfl⟩ := List.mem_map.mp member
  exact amounts event (List.mem_of_mem_filter recent)

/-- A rate of values that are not negative; it may be `nan` where the window is infinite. -/
theorem IsWindow.rateOver (isWindow : IsWindow window)
    (amounts : ∀ event ∈ events, IsAmount event.2) :
    ∃ rate, rateOver python window events now = .ok rate ∧
      (rate.Nonneg ∨ rate = .nan) ∧ rate.IsFloat := by
  have each : ∀ value ∈ valuesInWindow window events now, value.IsFloat ∧ value.Nonneg :=
    fun value member => ⟨(amounts_in_window now amounts value member).isFloat,
      (amounts_in_window now amounts value member).nonneg⟩
  obtain ⟨result, sum, sums, converts, nonneg⟩ := python.sum_nonneg each
  obtain ⟨rate, divides, sign, isFloat⟩ := PyFloat.divRounded_nonneg nonneg isWindow.positive
  refine ⟨rate, ?_, sign, isFloat⟩
  rw [FloatLossTracker.rateOver, sums]
  simp only [bind, Except.bind, converts, divides]

/-- The sum of the values that finite floats stand for. -/
def exactSum (values : List PyFloat) : ℚ := (values.map PyFloat.value).sum

/-- A rate of finite values is near their exact sum by the window. -/
theorem IsWindow.rateOver_near {seconds : ℚ} (isWindow : IsWindow (.finite seconds))
    (amounts : ∀ event ∈ events, IsAmount event.2)
    (finite : ∀ event ∈ events, event.2 = .finite event.2.value) {values : List PyFloat}
    (inWindow : valuesInWindow (.finite seconds) events now = values)
    (fits : PySum.growth values.length * exactSum values < Binary64.limit) :
    ∃ sum, |sum - exactSum values| ≤
        (PySum.growth (values.length + 1) - 1) * exactSum values ∧
      FloatLossTracker.rateOver python (.finite seconds) events now =
        .ok (.ofExact (sum / seconds)) := by
  have positive : 0 < seconds := PyFloat.lt_finite_iff.mp isWindow.positive
  have each : ∀ value ∈ values, (PyNumber.float value).Amount value.value := by
    rw [← inWindow]
    intro value member
    have isAmount := amounts_in_window now amounts value member
    obtain ⟨event, recent, rfl⟩ := List.mem_map.mp member
    have same := finite event (List.mem_of_mem_filter recent)
    have nonneg := isAmount.nonneg
    rw [same] at nonneg
    exact ⟨same, isAmount.isFloat, PyFloat.nonneg_finite_iff.mp nonneg⟩
  obtain ⟨result, sum, sums, near⟩ := python.sum_near each fits
  obtain ⟨converts, tracks⟩ := near.toFloatRounded (PySum.one_le_growth _) fits
  refine ⟨Binary64.nearest sum, ?_, ?_⟩
  · have close := tracks.near
    rw [add_zero] at close
    apply close.trans
    apply mul_le_mul_of_nonneg_right _ tracks.exact_nonneg
    exact sub_le_sub_right (PySum.growth_mul_le values.length) 1
  · rw [FloatLossTracker.rateOver, inWindow, sums]
    simp only [bind, Except.bind, converts]
    exact PyFloat.divRounded_finite positive.ne'

end Rate

/-! ## Efficiency -/

/-- The greatest efficiency that rounding gives: the double after a hundred. -/
def topEfficiency : ℚ := 100 + 1 / 2 ^ 46

theorem isDouble_topEfficiency : Binary64.IsDouble topEfficiency := by
  have scaled := @Binary64.isDouble_of_le (100 * 2 ^ 46 + 1) (-46) (by decide) (by decide)
  have same : ((100 * 2 ^ 46 + 1 : Int) : ℚ) * 2 ^ (-46 : Int) = topEfficiency := by
    norm_num [topEfficiency]
  rwa [same] at scaled

/-- A delivered rate whose hundredfold is in the range makes up no more than the whole of the
flow, up to rounding. -/
theorem efficiencyOf_le {delivered lost : PyFloat} (isFloat : delivered.IsFloat)
    (nonneg : delivered.Nonneg) (lostNonneg : lost.Nonneg ∨ lost = .nan) {hundredfold : ℚ}
    (inRange : (PyFloat.finite 100).mulRounded delivered = .finite hundredfold) :
    ∃ efficiency, efficiencyOf delivered lost = .ok (.finite efficiency) ∧ 0 ≤ efficiency ∧
      efficiency ≤ topEfficiency := by
  obtain ⟨rate, rfl, below, rfl⟩ := PyFloat.mulRounded_eq_finite (by norm_num) inRange
  have rateNonneg : 0 ≤ rate := PyFloat.nonneg_finite_iff.mp nonneg
  have isDouble := (PyFloat.isFloat_finite_iff.mp isFloat).1
  have whole : ∃ efficiency, (Except.ok (PyFloat.finite 100) : Except PyFault PyFloat) =
      .ok (.finite efficiency) ∧ 0 ≤ efficiency ∧ efficiency ≤ topEfficiency :=
    ⟨100, rfl, by norm_num, by norm_num [topEfficiency]⟩
  have nothing : ∃ efficiency, (PyFloat.finite (Binary64.nearest (100 * rate))).divRounded
      (.infinity false) = .ok (.finite efficiency) ∧ 0 ≤ efficiency ∧
        efficiency ≤ topEfficiency :=
    ⟨0, congrArg Except.ok PyFloat.rounded_zero, le_rfl, by norm_num [topEfficiency]⟩
  rw [efficiencyOf, inRange]
  rcases lostNonneg with lostNonneg | rfl
  · cases lost with
    | nan => cases lostNonneg
    | infinity negative =>
        cases negative with
        | true => cases lostNonneg
        | false => exact nothing
    | finite loss =>
        have lossNonneg : 0 ≤ loss := PyFloat.nonneg_finite_iff.mp lostNonneg
        have sumNonneg := add_nonneg rateNonneg lossNonneg
        by_cases fits : rate + loss < Binary64.limit
        · rw [PyFloat.addRounded_eq (by rwa [abs_of_nonneg sumNonneg])]
          simp only [PyFloat.lt_finite_iff]
          split
          next positive =>
            -- The hundredfold is rounded up by a small part of it, and the flow not below the rate.
            have part : rate ≤ Binary64.nearest (rate + loss) :=
              isDouble.le_nearest (le_add_of_nonneg_right lossNonneg)
            have hundredNonneg : 0 ≤ 100 * rate := mul_nonneg (by norm_num) rateNonneg
            have isGrid : Binary64.IsGrid (100 * rate) := isDouble.isGrid.intCast_mul 100
            have error := isGrid.abs_nearest_sub_le
            rw [abs_of_nonneg hundredNonneg, abs_le] at error
            have quotientNonneg : 0 ≤ Binary64.nearest (100 * rate) /
                Binary64.nearest (rate + loss) :=
              div_nonneg (Binary64.nearest_nonneg hundredNonneg) positive.le
            have quotient : Binary64.nearest (100 * rate) / Binary64.nearest (rate + loss) ≤
                topEfficiency := by
              rw [div_le_iff₀ positive]
              have roundoff : 100 + Binary64.unitRoundoff * 100 ≤ topEfficiency := by
                norm_num [Binary64.unitRoundoff, topEfficiency]
              have scaled := mul_le_mul_of_nonneg_right roundoff positive.le
              have bound : 0 ≤ 100 + Binary64.unitRoundoff * 100 := by
                norm_num [Binary64.unitRoundoff]
              have grown := mul_le_mul_of_nonneg_left part bound
              linarith
            have inside : topEfficiency < Binary64.limit := by decide +kernel
            rw [PyFloat.divRounded_finite positive.ne', PyFloat.ofExact_eq
              ((abs_of_nonneg quotientNonneg).trans_lt (quotient.trans_lt inside))]
            exact ⟨_, rfl, Binary64.nearest_nonneg quotientNonneg,
              isDouble_topEfficiency.nearest_le quotient⟩
          next => exact whole
        · rw [PyFloat.addRounded_infinite sumNonneg fits]
          exact nothing
  · exact whole

/-! ## Reads -/

/-- The tracker reads as if nothing were ever pruned: its rates are the float sums over the
window by the window, its totals running sums.  Of values that are not negative the rates are
near the exact ones, and the efficiency is a percentage up to rounding. -/
structure ReadsUnpruned (python : PySum) (window : PyFloat)
    (actions : List (TrackerAction PyFloat)) (reached : TrackerCalls) : Prop where
  rates : ∀ outcome now, reached.clock ≤ now →
    reached.tracker.perSec python outcome now =
      rateOver python window (recorded outcome actions) now
  totals : ∀ outcome, reached.tracker.total outcome = runningTotal (recorded outcome actions)
  near : ∀ outcome now seconds values, reached.clock ≤ now → window = .finite seconds →
    (∀ event ∈ recorded outcome actions, IsAmount event.2 ∧ event.2 = .finite event.2.value) →
    valuesInWindow window (recorded outcome actions) now = values →
    PySum.growth values.length * exactSum values < Binary64.limit →
    ∃ sum, |sum - exactSum values| ≤
        (PySum.growth (values.length + 1) - 1) * exactSum values ∧
      reached.tracker.perSec python outcome now = .ok (.ofExact (sum / seconds))
  efficiency : (∀ outcome, ∀ event ∈ recorded outcome actions, IsAmount event.2) →
    ∀ deliveredNow lostNow, reached.clock ≤ deliveredNow → deliveredNow ≤ lostNow →
      ∃ rate, reached.tracker.valueDeliveredPerSec python deliveredNow = .ok rate ∧
        ∀ hundredfold, (PyFloat.finite 100).mulRounded rate = .finite hundredfold →
          ∃ efficiency,
            reached.tracker.valueEfficiencyPct python deliveredNow lostNow =
              .ok (.finite efficiency) ∧
            0 ≤ efficiency ∧ efficiency ≤ topEfficiency

theorem Faithful.perSec {window : PyFloat} {past : List (TrackerAction PyFloat)}
    {calls : TrackerCalls} (faithful : Faithful window past calls) (python : PySum)
    (outcome : ValueOutcome) {now : ℚ} (later : calls.clock ≤ now) :
    calls.tracker.perSec python outcome now =
      rateOver python window (recorded outcome past) now := by
  have rate : calls.tracker.perSec python outcome now =
      rateOver python calls.tracker.window (calls.tracker.events outcome) now := by
    cases outcome with
    | delivered => rfl
    | dropped => rfl
  rw [rate, faithful.window_eq, rateOver, rateOver, faithful.agree outcome now later]

/-- After any interleaving of record calls, reads and resets, at any time not before the last
clock reading. -/
theorem reads_unpruned (python : PySum) (windowSeconds : PyFloat)
    (isFloat : windowSeconds.IsFloat) (clock : ℚ) (actions : List (TrackerAction PyFloat))
    (reached : TrackerCalls)
    (replays : replay perform (start windowSeconds clock) actions = some reached) :
    ReadsUnpruned python (.maximum (.ofExact (1 / 10)) windowSeconds) actions reached := by
  have faithful := replay_faithful isFloat replays
  have isWindow := init_isWindow isFloat
  generalize PyFloat.maximum (.ofExact (1 / 10)) windowSeconds = window at faithful isWindow ⊢
  exact {
    rates := fun outcome now later => faithful.perSec python outcome later
    totals := faithful.total
    near := by
      intro outcome now seconds values later isFinite amounts inWindow fits
      subst isFinite
      rw [faithful.perSec python outcome later]
      exact isWindow.rateOver_near python now (fun event member => (amounts event member).1)
        (fun event member => (amounts event member).2) inWindow fits
    efficiency := by
      intro amounts deliveredNow lostNow later ordered
      obtain ⟨rate, isRate, sign, rateIsFloat⟩ :=
        isWindow.rateOver python deliveredNow (amounts .delivered)
      obtain ⟨loss, isLoss, lossSign, _⟩ :=
        isWindow.rateOver python lostNow (amounts .dropped)
      have delivers := faithful.perSec python .delivered later
      have loses := faithful.perSec python .dropped (later.trans ordered)
      rw [isRate] at delivers
      rw [isLoss] at loses
      refine ⟨rate, delivers, ?_⟩
      intro hundredfold inRange
      have nonneg : rate.Nonneg := by
        rcases sign with nonneg | rfl
        · exact nonneg
        · cases inRange
      obtain ⟨efficiency, isEfficiency, bounds⟩ :=
        efficiencyOf_le rateIsFloat nonneg lossSign inRange
      refine ⟨efficiency, ?_, bounds⟩
      have read : reached.tracker.valueEfficiencyPct python deliveredNow lostNow = (do
          let delivered ← reached.tracker.valueDeliveredPerSec python deliveredNow
          let lost ← reached.tracker.valueLostPerSec python lostNow
          efficiencyOf delivered lost) := rfl
      have lossRead : reached.tracker.valueLostPerSec python lostNow = .ok loss := loses
      have rateRead : reached.tracker.valueDeliveredPerSec python deliveredNow = .ok rate :=
        delivers
      rw [read, rateRead, lossRead]
      exact isEfficiency }

/-- A record call that appends after one with a later reading. -/
def lateRecord : List (TrackerAction PyFloat) :=
  [.readClock 1 ⟨.delivered, .finite 4, 1⟩, .readClock 2 ⟨.delivered, .finite 6, 2⟩,
    .record 2 ⟨.delivered, .finite 6, 2⟩, .readRate 3, .record 1 ⟨.delivered, .finite 4, 1⟩]

theorem replay_lateRecord : (replay perform (start (.finite 5) 0) lateRecord).isSome := by
  decide +kernel

theorem lateRecord_amounts (outcome : ValueOutcome) :
    ∀ event ∈ recorded outcome lateRecord, IsAmount event.2 := by
  cases outcome with
  | delivered =>
      have logged : recorded .delivered lateRecord = [(2, .finite 6), (1, .finite 4)] := rfl
      rw [logged, List.forall_mem_cons, List.forall_mem_singleton]
      exact ⟨⟨by decide +kernel, by decide +kernel⟩, ⟨by decide +kernel, by decide +kernel⟩⟩
  | dropped =>
      have logged : recorded .dropped lateRecord = [] := rfl
      rw [logged]
      exact fun _ member => absurd member List.not_mem_nil

theorem reads_unpruned_lateRecord :
    let tracker := ((replay perform (start (.finite 5) 0) lateRecord).get
      replay_lateRecord).tracker
    tracker.valueDeliveredPerSec .compensated 3 = .ok (.finite 2) ∧
      ∃ efficiency, tracker.valueEfficiencyPct .compensated 3 3 = .ok (.finite efficiency) ∧
        0 ≤ efficiency ∧ efficiency ≤ topEfficiency := by
  have reads := reads_unpruned .compensated (.finite 5) (by decide +kernel) 0 lateRecord _
    (Option.some_get replay_lateRecord).symm
  have later : ((replay perform (start (.finite 5) 0) lateRecord).get
      replay_lateRecord).clock ≤ 3 := by
    decide +kernel
  have read := reads.rates .delivered 3 later
  have isTwo : rateOver .compensated (.maximum (.ofExact (1 / 10)) (.finite 5))
      (recorded .delivered lateRecord) 3 = .ok (.finite 2) := by
    decide +kernel
  obtain ⟨rate, isRate, efficiency⟩ :=
    reads.efficiency lateRecord_amounts 3 3 later le_rfl
  rw [isTwo] at read
  refine ⟨read, efficiency 200 ?_⟩
  cases isRate.symm.trans read
  decide +kernel

/-- One delivered value of 1.7 makes up more than all of the flow. -/
theorem efficiency_exceeds_hundred :
    let efficiency (python : PySum) := (replay perform (start (.finite 5) 0) [
        .readClock 1 ⟨.delivered, .ofExact (17 / 10), 1⟩,
        .record 1 ⟨.delivered, .ofExact (17 / 10), 1⟩]).map fun reached =>
      reached.tracker.valueEfficiencyPct python 1 1
    efficiency .running = some (.ok (.finite (100 + 1 / 2 ^ 46))) ∧
      efficiency .compensated = some (.ok (.finite (100 + 1 / 2 ^ 46))) := by
  decide +kernel

end TrackerCalls

end SmartBandwidth

import SmartBandwidth.Lib.Feedback
import SmartBandwidth.Pipeline.DeliveredRate
import SmartBandwidth.Value.Dynamics

/-!
# The monitoring loop

A monitoring loop reports the tracker's delivered rate to the tuner once a period.  The rate counts
packets at the coefficients that the tuner has set, so the loop feeds back on itself: under steady
traffic it comes to rest, and does so by raising what packets are worth, not by forwarding more.
-/

namespace SmartBandwidth

open ValueCoefficientTuner

/-! ## The loop -/

/-- A period of the monitoring loop: the calls on the optimizer between two times, then one
observation of each rule with the time at which its rate is read. -/
structure MonitoringRound where
  opens : ℚ
  calls : List OptimizerCall
  ends : ℚ
  observations : List (String × ℚ)

namespace FeedbackLoop

/-- The rate of the tracker is observed for a rule. -/
def observeRate (slaMinRate : ℚ) (loop : FeedbackLoop) (observation : String × ℚ) : FeedbackLoop :=
  match loop.optimizer.engine.valueTracker with
  | none => loop
  | some tracker =>
      loop.control (.tuner (.observe observation.1 (tracker.valueDeliveredPerSec observation.2)
        slaMinRate))

/-- One period. -/
def monitor (rt : Runtime) (slaMinRate : ℚ) (loop : FeedbackLoop) (round : MonitoringRound) :
    List OptimizerReply × FeedbackLoop :=
  let (replies, optimizer, store) :=
    Machine.run (BandwidthOptimizer.call rt) (loop.optimizer, loop.store) round.calls
  (replies, round.observations.foldl (observeRate slaMinRate)
    { loop with optimizer := optimizer, store := store })

end FeedbackLoop

/-- The same period of an optimizer that nobody observes. -/
def BandwidthOptimizer.unmonitored (rt : Runtime) (state : BandwidthOptimizer × Store)
    (round : MonitoringRound) : List OptimizerReply × (BandwidthOptimizer × Store) :=
  Machine.run (BandwidthOptimizer.call rt) state round.calls

/-- A period clears no statistics and observes the names; what it records is within the window of
its observations, and what was recorded until `previous` is not. -/
structure MonitoringRound.Spaced (window previous : ℚ) (names : List String)
    (round : MonitoringRound) : Prop where
  names : round.observations.map Prod.fst = names
  ordered : previous ≤ round.ends
  within : ∀ call ∈ round.calls, call.RecordsWithin round.opens round.ends
  past : ∀ observation ∈ round.observations, previous < observation.2 - window
  present : ∀ observation ∈ round.observations,
    observation.2 - window ≤ round.opens ∧ round.ends ≤ observation.2

/-- Each period comes a window after the one before it. -/
def SpacedRounds (window : ℚ) (names : List String) : ℚ → List MonitoringRound → Prop
  | _, [] => True
  | previous, round :: rest =>
      round.Spaced window previous names ∧ SpacedRounds window names round.ends rest

/-! ## The tuner as a bank of controllers -/

namespace ValueCoefficientTuner

theorem monotone_efficiency (slaMinRate : ℚ) : Monotone fun rate => efficiency rate slaMinRate := by
  intro slower faster ordered
  simp only [efficiency]
  split
  next positive =>
    exact div_le_div_of_nonneg_right (mul_le_mul_of_nonneg_left ordered (by norm_num)) positive.le
  next => exact le_rfl

theorem efficiency_shrinks {share rate scaled : ℚ} (le_one : share ≤ 1)
    (shrinks : share * rate ≤ scaled) (slaMinRate : ℚ) :
    share * efficiency rate slaMinRate ≤ efficiency scaled slaMinRate := by
  rw [efficiency, efficiency]
  split
  next positive =>
    rw [← mul_div_assoc, mul_left_comm]
    exact div_le_div_of_nonneg_right (mul_le_mul_of_nonneg_left shrinks (by norm_num)) positive.le
  next => exact mul_le_of_le_one_left (by norm_num) le_one

end ValueCoefficientTuner

section Bank

variable (tuner : ValueCoefficientTuner) (policy : FlowValuePolicy) (names : List String)

/-- How far the coefficients of a name can rise: to the ceiling of the tuner if it is observed. -/
def coefficientCeiling (name : String) : ℚ :=
  if name ∈ names then max (policy.staticCoefficient name) tuner.maxCoeff
  else policy.staticCoefficient name

theorem staticCoefficient_le_ceiling (name : String) :
    policy.staticCoefficient name ≤ coefficientCeiling tuner policy names name := by
  rw [coefficientCeiling]
  split
  next => exact le_max_left _ _
  next => exact le_rfl

/-- A controller for each rule; those that are not observed cannot move. -/
def monitorBank (nonneg : ∀ name, 0 ≤ policy.staticCoefficient name) : ControllerBank String ℚ where
  controller name := {
    increase := tuner.boostFactor
    decrease := tuner.decayFactor
    floor := policy.staticCoefficient name
    ceiling := coefficientCeiling tuner policy names name
    low := tuner.violation
    high := tuner.perfection
    one_le_increase := tuner.one_le_boostFactor
    decrease_nonneg := tuner.decayFactor_nonneg
    decrease_le_one := tuner.decayFactor_le_one
    floor_nonneg := nonneg name
    floor_le_ceiling := staticCoefficient_le_ceiling tuner policy names name }
  decrease := tuner.decayFactor
  low := tuner.violation
  high := tuner.perfection
  decrease_nonneg := tuner.decayFactor_nonneg
  decrease_le_one := tuner.decayFactor_le_one
  decrease_eq := fun _ => rfl
  low_eq := fun _ => rfl
  high_eq := fun _ => rfl

variable {policy}

/-- What the tuner sees of steady traffic. -/
def monitorPlant (nonneg : 0 ≤ policy.defaultCoefficient) (load : List (Option String))
    {window : ℚ} (positive : 0 < window) (slaMinRate : ℚ) : Plant String ℚ where
  signal coefficients := efficiency (policy.loadWorth coefficients load / window) slaMinRate
  mono := by
    intro smaller larger ordered
    apply monotone_efficiency slaMinRate
    exact div_le_div_of_nonneg_right (policy.loadWorth_mono load ordered) positive.le
  scale := by
    intro share coefficients _ le_one
    apply efficiency_shrinks le_one
    rw [← mul_div_assoc]
    exact div_le_div_of_nonneg_right
      (FlowValuePolicy.loadWorth_scale nonneg le_one coefficients load) positive.le

end Bank

/-! ## What the tuner keeps -/

/-- The policy gives observed rules the coefficients and leaves the others static. -/
structure Tracks (bank : ControllerBank String ℚ) (policy : FlowValuePolicy) (names : List String)
    (coefficients : String → ℚ) (shared : TunedPolicy) : Prop where
  rules : shared.2.rules = policy.rules
  default : shared.2.defaultCoefficient = policy.defaultCoefficient
  observed : ∀ name ∈ names, Follows (bank.controller name) name (coefficients name) shared
  others : ∀ name ∉ names, shared.2.overrides.get? name = none ∧
    coefficients name = policy.staticCoefficient name

namespace Tracks

variable {bank : ControllerBank String ℚ} {policy : FlowValuePolicy} {names : List String}
variable {coefficients : String → ℚ} {shared : TunedPolicy}

/-- A packet gets the coefficient of its rule. -/
theorem getCoefficient (tracks : Tracks bank policy names coefficients shared)
    (distinct : (policy.rules.map PolicyRule.name).Nodup)
    (floors : ∀ name, (bank.controller name).floor = policy.staticCoefficient name) (rt : Runtime)
    (packet : Packet) :
    shared.2.getCoefficient rt packet =
      policy.worthAt coefficients (policy.ruleName? rt packet) := by
  have current : shared.2.matchingRule rt packet = policy.matchingRule rt packet := by
    rw [FlowValuePolicy.matchingRule, tracks.rules, FlowValuePolicy.matchingRule]
  rw [FlowValuePolicy.ruleName?]
  cases found : policy.matchingRule rt packet with
  | none =>
      rw [FlowValuePolicy.getCoefficient, current, found]
      exact tracks.default
  | some first =>
      obtain ⟨index, rule⟩ := first
      have static : policy.staticCoefficient rule.name = rule.valueCoefficient :=
        staticCoefficient_of_mem distinct
          (List.mem_of_getElem? (FirstMatch.firstMatch_spec found).1)
      rw [found] at current
      change _ = coefficients rule.name
      by_cases observed : rule.name ∈ names
      · exact (tracks.observed _ observed).getCoefficient (static.symm.trans (floors _).symm) rt
          current
      · obtain ⟨unset, same⟩ := tracks.others _ observed
        rw [FlowValuePolicy.getCoefficient, current]
        simp only [unset, Option.getD_none, same, static]

/-- An observation moves the coefficient of its rule as the controller does. -/
theorem observe (tracks : Tracks bank policy names coefficients shared) {name : String}
    (member : name ∈ names) (rate slaMinRate : ℚ) :
    Tracks bank policy names
      (Function.update coefficients name
        ((bank.controller name).next (coefficients name) (efficiency rate slaMinRate)))
      (shared.1.observe shared.2 name rate slaMinRate).2 where
  rules := tracks.rules
  default := tracks.default
  observed := by
    intro other isObserved
    have follows := call_follows (tracks.observed other isObserved) (.observe name rate slaMinRate)
    rw [track] at follows
    by_cases same : name = other
    · subst same
      rw [if_pos rfl] at follows
      rwa [Function.update_self]
    · rw [if_neg same] at follows
      rwa [Function.update_of_ne (Ne.symm same)]
  others := by
    intro other isOther
    have apart : other ≠ name := by
      rintro rfl
      exact isOther member
    rw [observe_overrides, if_neg apart, Function.update_of_ne apart]
    exact tracks.others other isOther

end Tracks

/-! ## One period -/

section Period

variable {rt : Runtime} {config : OptimizerConfig} {bank : ControllerBank String ℚ}
variable {policy : FlowValuePolicy} {names : List String} {window slaMinRate : ℚ}
variable {coefficients : String → ℚ}

/-- The loop runs beside an unmonitored optimizer: they have one shape, the tuner tracks the
coefficients, and all that was delivered was recorded by some time. -/
structure Monitored (config : OptimizerConfig) (bank : ControllerBank String ℚ)
    (policy : FlowValuePolicy) (names : List String) (window : ℚ) (coefficients : String → ℚ)
    (recorded : ℚ) (loop : FeedbackLoop) (alone : BandwidthOptimizer × Store) : Prop where
  shapes : loop.shaped = BandwidthOptimizer.shaped alone
  configured : alone.1.Configured config (some policy)
  tracked : ∃ current scheduler tracker,
    loop.optimizer.engine = .pvm current scheduler tracker ∧
      loop.optimizer.Configured config (some current) ∧
      Tracks bank policy names coefficients (loop.tuner, current) ∧
      tracker.window = window ∧ tracker.RecordedBy recorded

/-- The coefficients after some rules have been observed. -/
def observedCoefficients (bank : ControllerBank String ℚ) (signal : ℚ) (coefficients : String → ℚ)
    (observed : List String) (name : String) : ℚ :=
  if name ∈ observed then (bank.controller name).next (coefficients name) signal
  else coefficients name

theorem observedCoefficients_cons {signal : ℚ} {first : String} {rest : List String}
    (fresh : first ∉ rest) :
    observedCoefficients bank signal
        (Function.update coefficients first
          ((bank.controller first).next (coefficients first) signal)) rest =
      observedCoefficients bank signal coefficients (first :: rest) := by
  funext name
  rw [observedCoefficients, observedCoefficients]
  by_cases same : name = first
  · subst same
    rw [if_neg fresh, Function.update_self, if_pos List.mem_cons_self]
  · rw [Function.update_of_ne same]
    simp only [List.mem_cons, same, false_or]

/-- Observations that all read one rate move each rule once, and change nothing else. -/
theorem FeedbackLoop.observeRate_foldl {current : FlowValuePolicy} {scheduler : ValueScheduler}
    {tracker : ValueLossTracker} {rate : ℚ} {observations : List (String × ℚ)}
    (distinct : (observations.map Prod.fst).Nodup)
    (among : ∀ observation ∈ observations, observation.1 ∈ names)
    (reads : ∀ observation ∈ observations, tracker.valueDeliveredPerSec observation.2 = rate)
    {loop : FeedbackLoop} (engineEq : loop.optimizer.engine = .pvm current scheduler tracker)
    (tracks : Tracks bank policy names coefficients (loop.tuner, current)) :
    let final := observations.foldl (FeedbackLoop.observeRate slaMinRate) loop
    final.shaped = loop.shaped ∧ (loop.Configured config → final.Configured config) ∧
      ∃ policy', final.optimizer.engine = .pvm policy' scheduler tracker ∧
        Tracks bank policy names
          (observedCoefficients bank (efficiency rate slaMinRate) coefficients
            (observations.map Prod.fst)) (final.tuner, policy') := by
  induction observations generalizing loop current coefficients with
  | nil => exact ⟨rfl, id, current, engineEq, tracks⟩
  | cons observation rest ih =>
      rw [List.forall_mem_cons] at among reads
      rw [List.map_cons, List.nodup_cons] at distinct
      have step : FeedbackLoop.observeRate slaMinRate loop observation =
          loop.control (.tuner (.observe observation.1 rate slaMinRate)) := by
        rw [FeedbackLoop.observeRate, engineEq]
        simp only [Engine.valueTracker, reads.1]
      have controlled := FeedbackLoop.control_engine engineEq
        (.tuner (.observe observation.1 rate slaMinRate))
      have nextEngine : (FeedbackLoop.observeRate slaMinRate loop observation).optimizer.engine =
          .pvm (loop.tuner.observe current observation.1 rate slaMinRate).2.2 scheduler
            tracker := by
        rw [step, controlled]
        rfl
      have nextTuner : (FeedbackLoop.observeRate slaMinRate loop observation).tuner =
          (loop.tuner.observe current observation.1 rate slaMinRate).2.1 := by
        rw [step, controlled]
        rfl
      have nextTracks : Tracks bank policy names
          (Function.update coefficients observation.1
            ((bank.controller observation.1).next (coefficients observation.1)
              (efficiency rate slaMinRate)))
          ((FeedbackLoop.observeRate slaMinRate loop observation).tuner,
            (loop.tuner.observe current observation.1 rate slaMinRate).2.2) := by
        rw [nextTuner]
        exact tracks.observe among.1 rate slaMinRate
      obtain ⟨shapes, configured, policy', finalEngine, finalTracks⟩ :=
        ih distinct.2 among.2 reads.2 nextEngine nextTracks
      refine ⟨shapes.trans ?_, fun before => configured ?_, policy', finalEngine, ?_⟩
      · rw [step]
        exact FeedbackLoop.control_shaped loop _
      · rw [step]
        exact FeedbackLoop.control_configured before _
      · rw [List.map_cons, ← observedCoefficients_cons distinct.1]
        exact finalTracks

/-- Optimizers of one shape answer a run of calls with one shape. -/
theorem BandwidthOptimizer.run_shapes (rt : Runtime) {current : FlowValuePolicy}
    {left right : BandwidthOptimizer × Store} (shapes : shaped left = shaped right)
    (leftConfigured : left.1.Configured config (some current))
    (rightConfigured : right.1.Configured config (some policy)) (calls : List OptimizerCall) :
    let leftRun := Machine.run (BandwidthOptimizer.call rt) left calls
    let rightRun := Machine.run (BandwidthOptimizer.call rt) right calls
    leftRun.1.map OptimizerReply.shape = rightRun.1.map OptimizerReply.shape ∧
      shaped leftRun.2 = shaped rightRun.2 := by
  induction calls generalizing left right with
  | nil => exact ⟨rfl, shapes⟩
  | cons call rest ih =>
      have both := (call_shape rt left leftConfigured.positive call).symm.trans
        ((congrArg (Shaper.call rt · call) shapes).trans
          (call_shape rt right rightConfigured.positive call))
      obtain ⟨replies, states⟩ := Prod.mk.inj both
      obtain ⟨laterReplies, laterStates⟩ := ih states (call_configured leftConfigured rt call)
        (call_configured rightConfigured rt call)
      exact ⟨List.cons_eq_cons.mpr ⟨replies, laterReplies⟩, laterStates⟩

/-- What the calls of a period deliver is what the load is worth. -/
theorem Monitored.valueDelivered {previous : ℚ} {loop : FeedbackLoop}
    {alone : BandwidthOptimizer × Store} {load : List (Option String)}
    (distinct : (policy.rules.map PolicyRule.name).Nodup)
    (floors : ∀ name, (bank.controller name).floor = policy.staticCoefficient name)
    (monitored : Monitored config bank policy names window coefficients previous loop alone)
    {calls : List OptimizerCall}
    (steady : (forwardedRules rt policy alone.2
      (Machine.run (BandwidthOptimizer.call rt) alone calls).1).Perm load) :
    ((Machine.run (BandwidthOptimizer.call rt) (loop.optimizer, loop.store) calls).1.map
      OptimizerReply.valueDelivered).sum = policy.loadWorth coefficients load := by
  obtain ⟨current, scheduler, tracker, engineEq, configured, tracks, _, _⟩ := monitored.tracked
  obtain ⟨replies, _⟩ := BandwidthOptimizer.run_shapes rt monitored.shapes configured
    monitored.configured calls
  have forwards := @BandwidthOptimizer.run_forwards rt (loop.optimizer, loop.store) current
    scheduler tracker engineEq calls
  have worth : (fun ref => current.getCoefficient rt (loop.store ref)) =
      policy.worthAt coefficients ∘ fun ref => policy.ruleName? rt (loop.store ref) :=
    funext fun ref => tracks.getCoefficient distinct floors rt (loop.store ref)
  have loads := forwardedRules_of_shapes rt policy (congrArg Prod.snd monitored.shapes) replies
  rw [forwards, worth, ← List.map_map]
  change policy.loadWorth coefficients (forwardedRules rt policy loop.store _) = _
  rw [loads]
  exact FlowValuePolicy.loadWorth_perm steady coefficients

/-- A rate that looks back over a period, and over nothing that came before, shows what was
delivered in it. -/
theorem ValueLossTracker.Records.rate {tracker next : ValueLossTracker} {opens ends value : ℚ}
    (records : Records opens ends tracker next value) (positive : 0 < tracker.window) {time : ℚ}
    (recorded : tracker.RecordedBy time) {now : ℚ} (past : time < now - tracker.window)
    (opened : now - tracker.window ≤ opens) (closed : ends ≤ now) :
    next.valueDeliveredPerSec now = value / tracker.window := by
  have recent : ends ≤ now - tracker.window + 2 * tracker.window := by linarith
  have sees := records.delivered (now - tracker.window) opened recent
  rw [deliveredFrom_of_recordedBy recorded past, zero_add] at sees
  rw [← sees, ← records.window]
  rfl

/-- In a period the tuner sees what the load is worth, and moves each observed rule by it. -/
theorem FeedbackLoop.monitor_monitored {previous : ℚ} {loop : FeedbackLoop}
    {alone : BandwidthOptimizer × Store} {load : List (Option String)}
    (distinct : (policy.rules.map PolicyRule.name).Nodup)
    (floors : ∀ name, (bank.controller name).floor = policy.staticCoefficient name)
    (nodup : names.Nodup) (positive : 0 < window)
    (monitored : Monitored config bank policy names window coefficients previous loop alone)
    {round : MonitoringRound} (spaced : round.Spaced window previous names)
    (steady : (forwardedRules rt policy alone.2
      (BandwidthOptimizer.unmonitored rt alone round).1).Perm load) :
    (loop.monitor rt slaMinRate round).1.map OptimizerReply.shape =
        (BandwidthOptimizer.unmonitored rt alone round).1.map OptimizerReply.shape ∧
      Monitored config bank policy names window
        (observedCoefficients bank
          (efficiency (policy.loadWorth coefficients load / window) slaMinRate) coefficients names)
        round.ends (loop.monitor rt slaMinRate round).2
        (BandwidthOptimizer.unmonitored rt alone round).2 := by
  obtain ⟨current, scheduler, tracker, engineEq, configured, tracks, windowEq, recorded⟩ :=
    monitored.tracked
  obtain ⟨replies, states⟩ := BandwidthOptimizer.run_shapes rt monitored.shapes configured
    monitored.configured round.calls
  obtain ⟨next, last, lastEq, records⟩ := @BandwidthOptimizer.run_records rt
    (loop.optimizer, loop.store) current scheduler tracker _ _ engineEq _ spaced.within
  have delivered := monitored.valueDelivered distinct floors steady
  rw [delivered] at records
  have reads : ∀ observation ∈ round.observations, last.valueDeliveredPerSec observation.2 =
      policy.loadWorth coefficients load / window := by
    intro observation member
    obtain ⟨opened, closed⟩ := spaced.present observation member
    have past := spaced.past observation member
    rw [← windowEq] at positive past opened ⊢
    exact records.rate positive recorded past opened closed
  have among : ∀ observation ∈ round.observations, observation.1 ∈ names := by
    rw [← spaced.names]
    exact fun observation member => List.mem_map_of_mem member
  let ran : FeedbackLoop :=
    let (_, optimizer, store) :=
      Machine.run (BandwidthOptimizer.call rt) (loop.optimizer, loop.store) round.calls
    { loop with optimizer := optimizer, store := store }
  have ranConfigured : ran.Configured config :=
    ⟨current, @BandwidthOptimizer.run_configured config (some current) (loop.optimizer, loop.store)
      configured rt round.calls⟩
  have observes : (round.observations.map Prod.fst).Nodup := by rwa [spaced.names]
  obtain ⟨shapes, configures, policy', finalEngine, finalTracks⟩ :=
    @FeedbackLoop.observeRate_foldl config bank policy names slaMinRate coefficients current next
      last _ round.observations observes among reads ran lastEq tracks
  rw [spaced.names] at finalTracks
  obtain ⟨configuredPolicy, finalConfigured⟩ := configures ranConfigured
  have samePolicy : configuredPolicy = some policy' := by
    rw [← finalConfigured.policyEq, finalEngine]
    rfl
  subst samePolicy
  refine ⟨replies, shapes.trans states, ?_, _, next, last, finalEngine, finalConfigured,
    finalTracks, records.window.trans windowEq, ?_⟩
  · exact BandwidthOptimizer.run_configured monitored.configured rt round.calls
  · exact records.recorded fun event member => (recorded event member).trans spaced.ordered

end Period

/-! ## Rest -/

section Rest

variable {rt : Runtime} {config : OptimizerConfig} {tuner : ValueCoefficientTuner}
variable {policy : FlowValuePolicy} {names : List String} {window slaMinRate : ℚ}

/-- A round of the bank moves the observed rules, and no others. -/
theorem monitorBank_round (tuner : ValueCoefficientTuner)
    (nonneg : ∀ name, 0 ≤ policy.staticCoefficient name)
    (plant : Plant String ℚ) {coefficients : String → ℚ}
    (others : ∀ name ∉ names, coefficients name = policy.staticCoefficient name) :
    (monitorBank tuner policy names nonneg).round plant coefficients =
      observedCoefficients (monitorBank tuner policy names nonneg) (plant.signal coefficients)
        coefficients names := by
  funext name
  rw [ControllerBank.round, observedCoefficients]
  split
  next => rfl
  next unobserved =>
    have ceilingEq : coefficientCeiling tuner policy names name = policy.staticCoefficient name :=
      if_neg unobserved
    have still : ((monitorBank tuner policy names nonneg).controller name).Bounded
        (coefficients name) := by
      rw [others name unobserved]
      exact ⟨le_rfl, staticCoefficient_le_ceiling tuner policy names name⟩
    have bounded := Controller.next_bounded still (plant.signal coefficients)
    apply le_antisymm
    · exact (bounded.le_ceiling.trans ceilingEq.le).trans (others name unobserved).ge
    · exact (others name unobserved).le.trans bounded.floor_le

/-- Period after period the loop follows the bank. -/
theorem run_monitored (distinct : (policy.rules.map PolicyRule.name).Nodup)
    (nonneg : ∀ name, 0 ≤ policy.staticCoefficient name)
    (defaultNonneg : 0 ≤ policy.defaultCoefficient) (nodup : names.Nodup) (positive : 0 < window)
    {load : List (Option String)} {rounds : List MonitoringRound} {previous : ℚ}
    (spaced : SpacedRounds window names previous rounds) {start : Store}
    {alone : BandwidthOptimizer × Store}
    (headers : ∀ ref, (start ref).SameHeader (alone.2 ref))
    (steady : ∀ replies ∈ (Machine.run (BandwidthOptimizer.unmonitored rt) alone rounds).1,
      (forwardedRules rt policy start replies).Perm load)
    {coefficients : String → ℚ} {loop : FeedbackLoop}
    (monitored : Monitored config (monitorBank tuner policy names nonneg) policy names window
      coefficients previous loop alone) :
    let bank := monitorBank tuner policy names nonneg
    let plant := monitorPlant defaultNonneg load positive slaMinRate
    let final := Machine.run (FeedbackLoop.monitor rt slaMinRate) loop rounds
    let finalAlone := Machine.run (BandwidthOptimizer.unmonitored rt) alone rounds
    final.1.map (List.map OptimizerReply.shape) =
        finalAlone.1.map (List.map OptimizerReply.shape) ∧
      ∃ recorded, Monitored config bank policy names window
        ((bank.round plant)^[rounds.length] coefficients) recorded final.2 finalAlone.2 := by
  induction rounds generalizing previous alone coefficients loop with
  | nil => exact ⟨rfl, previous, monitored⟩
  | cons round rest ih =>
      rw [Machine.run_cons, List.forall_mem_cons] at steady
      have sameRules : forwardedRules rt policy start
          (BandwidthOptimizer.unmonitored rt alone round).1 =
            forwardedRules rt policy alone.2
              (BandwidthOptimizer.unmonitored rt alone round).1 :=
        List.map_congr_left fun ref _ => (policy.ruleName?_of_sameHeader rt (headers ref)).symm
      have first := steady.1
      rw [sameRules] at first
      obtain ⟨replies, next⟩ := FeedbackLoop.monitor_monitored distinct (fun _ => rfl) nodup
        positive monitored spaced.1 first
      obtain ⟨_, _, _, _, _, tracks, _, _⟩ := monitored.tracked
      have kept (state : BandwidthOptimizer × Store) (call : OptimizerCall)
          (before : ∀ ref, (start ref).SameHeader (state.2 ref)) (ref : PacketRef) :
          (start ref).SameHeader ((BandwidthOptimizer.call rt state call).2.2 ref) :=
        (before ref).trans (BandwidthOptimizer.call_sameHeader rt state call ref)
      have laterHeaders := Machine.run_invariant kept headers round.calls
      have moved := monitorBank_round tuner nonneg
        (monitorPlant defaultNonneg load positive slaMinRate)
        fun name isOther => (tracks.others name isOther).2
      rw [monitorPlant] at moved
      rw [← moved] at next
      obtain ⟨laterReplies, recorded, last⟩ := ih spaced.2 laterHeaders steady.2 next
      refine ⟨List.cons_eq_cons.mpr ⟨replies, laterReplies⟩, recorded, ?_⟩
      rw [List.length_cons, Function.iterate_succ_apply]
      exact last

theorem staticCoefficient_nonneg (nonneg : ∀ rule ∈ policy.rules, 0 ≤ rule.valueCoefficient)
    (name : String) : 0 ≤ policy.staticCoefficient name := by
  rw [FlowValuePolicy.staticCoefficient]
  split
  next rule found => exact nonneg rule (List.mem_of_find?_eq_some found)
  next => exact zero_le_one

/-- The ceiling of an observed name whose static coefficient is not above that of the tuner. -/
theorem coefficientCeiling_eq
    (below : ∀ name ∈ names, policy.staticCoefficient name ≤ tuner.maxCoeff) (name : String) :
    coefficientCeiling tuner policy names name =
      if name ∈ names then tuner.maxCoeff else policy.staticCoefficient name := by
  rw [coefficientCeiling]
  split
  next member => exact max_eq_right (below name member)
  next => rfl

/-- The factors of the tuner lead through the ranges of all names if they lead through those of
the observed ones; the others have nowhere to go. -/
theorem monitorBank_spans (nonneg : ∀ name, 0 ≤ policy.staticCoefficient name) {up down : Nat}
    (below : ∀ name ∈ names, policy.staticCoefficient name ≤ tuner.maxCoeff)
    (rises : ∀ name ∈ names,
      tuner.maxCoeff ≤ policy.staticCoefficient name * tuner.boostFactor ^ up)
    (falls : ∀ name ∈ names,
      tuner.maxCoeff * tuner.decayFactor ^ down ≤ policy.staticCoefficient name) :
    (monitorBank tuner policy names nonneg).Spans up down := by
  constructor
  · intro name
    change coefficientCeiling tuner policy names name ≤ _
    rw [coefficientCeiling_eq below]
    split
    next member => exact rises name member
    next =>
      exact le_mul_of_one_le_right (nonneg name) (one_le_pow₀ tuner.one_le_boostFactor)
  · intro name
    change coefficientCeiling tuner policy names name * _ ≤ _
    rw [coefficientCeiling_eq below]
    split
    next member => exact falls name member
    next =>
      exact mul_le_of_le_one_right (nonneg name)
        (pow_le_one₀ tuner.decayFactor_nonneg tuner.decayFactor_le_one)

end Rest

/-- The window of a fresh tracker. -/
theorem ValueLossTracker.init_window : (ValueLossTracker.init).window = 5 := by
  rw [init]
  norm_num

/-- A fresh optimizer under a fresh tuner is monitored. -/
theorem init_monitored {config : OptimizerConfig} {rules : List PolicyRule}
    {defaultCoefficient : ℚ} {clock : TrafficPriority → ℚ} {fresh : BandwidthOptimizer}
    (constructed : BandwidthOptimizer.init config
      (some (FlowValuePolicy.init rules defaultCoefficient)) clock = .ok fresh)
    (classifier : TrafficClassifier) (store : Store) {tuner : ValueCoefficientTuner}
    (unseen : tuner.states = .empty) {names : List String}
    (nonneg : ∀ name, 0 ≤ (FlowValuePolicy.init rules defaultCoefficient).staticCoefficient name)
    (below : ∀ name ∈ names,
      (FlowValuePolicy.init rules defaultCoefficient).staticCoefficient name ≤ tuner.maxCoeff)
    (previous : ℚ) :
    let policy := FlowValuePolicy.init rules defaultCoefficient
    let start : BandwidthOptimizer := { fresh with classifier := classifier }
    Monitored config (monitorBank tuner policy names nonneg) policy names 5
      policy.staticCoefficient previous ⟨start, store, tuner⟩ (start, store) := by
  intro policy start
  have configured : start.Configured config (some policy) :=
    (BandwidthOptimizer.init_configured constructed).of_kept rfl rfl ⟨rfl, rfl⟩
  have tracks : Tracks (monitorBank tuner policy names nonneg) policy names
      policy.staticCoefficient (tuner, policy) :=
    { rules := rfl
      default := rfl
      observed := by
        intro name member
        have ceiling : tuner.maxCoeff = coefficientCeiling tuner policy names name :=
          ((coefficientCeiling_eq below name).trans (if_pos member)).symm
        exact
          { runs := ⟨rfl, rfl, ceiling, rfl, rfl⟩
            tuned := tuned_fresh unseen rfl (below name member) name
            static := rfl
            live := rfl }
      others := fun _ _ => ⟨rfl, rfl⟩ }
  exact
    { shapes := rfl
      configured := configured
      tracked := ⟨policy, _, _, BandwidthOptimizer.init_engine constructed, configured, tracks,
        ValueLossTracker.init_window, fun _ member => absurd member List.not_mem_nil⟩ }

/-- Where each period forwards the same numbers of packets of each rule, a fresh tuner with a
violation threshold that one decay of perfect efficiency does not cross comes to rest.  After the
periods that its factors need from the static coefficients to the ceiling and back, the coefficients
stand still: with the efficiency between the thresholds, or all observed ones at the ceiling and the
efficiency still a violation, or all at their static values and the efficiency perfect.  Meanwhile
every reply is what it is without a tuner, values and the identity of served packets apart. -/
theorem monitoring_settles (rt : Runtime) (config : OptimizerConfig) (rules : List PolicyRule)
    (defaultCoefficient : ℚ) (distinct : (rules.map PolicyRule.name).Nodup)
    (nonneg : ∀ rule ∈ rules, 0 ≤ rule.valueCoefficient) (tuner : ValueCoefficientTuner)
    (unseen : tuner.states = .empty)
    (stable : tuner.violation ≤ tuner.decayFactor * tuner.perfection) (names : List String)
    (nodup : names.Nodup) (up down : Nat)
    (spans : ∀ name ∈ names, ∃ rule ∈ rules, rule.name = name ∧
      rule.valueCoefficient ≤ tuner.maxCoeff ∧
      tuner.maxCoeff ≤ rule.valueCoefficient * tuner.boostFactor ^ up ∧
      tuner.maxCoeff * tuner.decayFactor ^ down ≤ rule.valueCoefficient)
    (clock : TrafficPriority → ℚ) (fresh : BandwidthOptimizer)
    (constructed : BandwidthOptimizer.init config
      (some (FlowValuePolicy.init rules defaultCoefficient)) clock = .ok fresh)
    (classifier : TrafficClassifier) (store : Store) (slaMinRate : ℚ)
    (load : List (Option String)) :
    let policy := FlowValuePolicy.init rules defaultCoefficient
    ∃ rest : String → ℚ,
      let percent := efficiency (policy.loadWorth rest load / 5) slaMinRate
      (∀ name, policy.staticCoefficient name ≤ rest name ∧
        rest name ≤ if name ∈ names then tuner.maxCoeff else policy.staticCoefficient name) ∧
      (percent < tuner.violation ∧ (∀ name ∈ names, rest name = tuner.maxCoeff) ∨
        tuner.perfection ≤ percent ∧
          (∀ name ∈ names, rest name = policy.staticCoefficient name) ∨
        tuner.violation ≤ percent ∧ percent < tuner.perfection) ∧
      ∀ previous rounds, SpacedRounds 5 names previous rounds →
        let start : BandwidthOptimizer := { fresh with classifier := classifier }
        let alone := Machine.run (BandwidthOptimizer.unmonitored rt) (start, store) rounds
        let run := Machine.run (FeedbackLoop.monitor rt slaMinRate) ⟨start, store, tuner⟩ rounds
        (∀ replies ∈ alone.1, (forwardedRules rt policy store replies).Perm load) →
        run.1.map (List.map OptimizerReply.shape) =
            alone.1.map (List.map OptimizerReply.shape) ∧
          (up + down ≤ rounds.length → ∃ current scheduler tracker,
            run.2.optimizer.engine = .pvm current scheduler tracker ∧ ∀ packet,
              current.getCoefficient rt packet =
                policy.worthAt rest (policy.ruleName? rt packet)) := by
  intro policy
  have static : ∀ name ∈ names, policy.staticCoefficient name ≤ tuner.maxCoeff ∧
      tuner.maxCoeff ≤ policy.staticCoefficient name * tuner.boostFactor ^ up ∧
      tuner.maxCoeff * tuner.decayFactor ^ down ≤ policy.staticCoefficient name := by
    intro name member
    obtain ⟨rule, isRule, rfl, within⟩ := spans name member
    rwa [show policy.staticCoefficient rule.name = rule.valueCoefficient from
      staticCoefficient_of_mem distinct isRule]
  have below : ∀ name ∈ names, policy.staticCoefficient name ≤ tuner.maxCoeff :=
    fun name member => (static name member).1
  have ceilingEq := coefficientCeiling_eq below
  have staticNonneg := @staticCoefficient_nonneg policy nonneg
  have defaultNonneg : 0 ≤ policy.defaultCoefficient := le_max_left 0 defaultCoefficient
  have positive : (0 : ℚ) < 5 := by norm_num
  have bankSpans : (monitorBank tuner policy names staticNonneg).Spans up down :=
    monitorBank_spans staticNonneg below (fun name member => (static name member).2.1)
      fun name member => (static name member).2.2
  have startBounded : (monitorBank tuner policy names staticNonneg).Bounded
      policy.staticCoefficient :=
    fun name => ⟨le_rfl, staticCoefficient_le_ceiling tuner policy names name⟩
  obtain ⟨rest, bounded, settled, reaches⟩ := ControllerBank.comes_to_rest bankSpans stable
    (monitorPlant defaultNonneg load positive slaMinRate) startBounded
  refine ⟨rest, ?_, ?_, ?_⟩
  · intro name
    rw [← ceilingEq]
    exact ⟨(bounded name).floor_le, (bounded name).le_ceiling⟩
  · cases settled with
    | saturated low ceiling =>
        refine .inl ⟨low, fun name member => ?_⟩
        rw [ceiling name]
        exact (ceilingEq name).trans (if_pos member)
    | relaxed high floor => exact .inr (.inl ⟨high, fun name _ => floor name⟩)
    | inZone low high => exact .inr (.inr ⟨low, high⟩)
  · intro previous rounds spaced start alone run steady
    obtain ⟨replies, recorded, final⟩ := @run_monitored rt config tuner policy names 5 slaMinRate
      distinct staticNonneg defaultNonneg nodup positive load rounds previous spaced store
      (start, store) (fun _ => ⟨rfl, rfl, rfl⟩) steady policy.staticCoefficient
      ⟨start, store, tuner⟩
      (init_monitored constructed classifier store unseen staticNonneg below previous)
    refine ⟨replies, fun enough => ?_⟩
    rw [reaches rounds.length enough] at final
    obtain ⟨current, scheduler, tracker, engineEq, _, lastTracks, _⟩ := final.tracked
    exact ⟨current, scheduler, tracker, engineEq,
      fun packet => lastTracks.getCoefficient distinct (fun _ => rfl) rt packet⟩

/-- A period in which one call is forwarded. -/
def callPeriod (time : ℚ) : MonitoringRound where
  opens := time
  calls := [.process 0 (.frozen time 0), .dequeue]
  ends := time
  observations := [("calls", time + 1)]

theorem callPeriod_spaced {previous time : ℚ} (later : previous + 10 ≤ time) :
    (callPeriod time).Spaced 5 previous ["calls"] where
  names := rfl
  ordered := by
    change previous ≤ time
    linarith
  within := List.forall_mem_cons.mpr
    ⟨⟨le_rfl, le_rfl⟩, List.forall_mem_singleton.mpr trivial⟩
  past := List.forall_mem_singleton.mpr (by linarith)
  present := by
    intro observation member
    rw [List.mem_singleton.mp member]
    change time + 1 - 5 ≤ time ∧ time ≤ time + 1
    constructor <;> linarith

/-- Four periods with one call each, for which a rate is agreed that the static coefficient
misses. -/
theorem monitoring_settles_calls :
    ∃ fresh, BandwidthOptimizer.init singleSlot (some callsFirst) (fun _ => 0) = .ok fresh ∧
      let run := Machine.run (FeedbackLoop.monitor .plain 12)
        ⟨{ fresh with classifier := {} }, criticalPackets, .init 2 (1 / 2) 40 100 40⟩
        [callPeriod 0, callPeriod 10, callPeriod 20, callPeriod 30]
      ∃ rest : String → ℚ, rest "calls" ≤ 40 ∧ ∃ current scheduler tracker,
        run.2.optimizer.engine = .pvm current scheduler tracker ∧ ∀ packet,
          current.getCoefficient .plain packet =
            callsFirst.worthAt rest (callsFirst.ruleName? .plain packet) := by
  obtain ⟨fresh, constructed⟩ := BandwidthOptimizer.singleSlot_constructs
  refine ⟨fresh, constructed, ?_⟩
  have loads : (BandwidthOptimizer.init singleSlot (some callsFirst) fun _ => 0).map
      (fun fresh => (Machine.run (BandwidthOptimizer.unmonitored .plain)
        ({ fresh with classifier := {} }, criticalPackets)
        [callPeriod 0, callPeriod 10, callPeriod 20, callPeriod 30]).1.map
          (forwardedRules .plain callsFirst criticalPackets)) =
      .ok (List.replicate 4 [some "calls"]) := by decide +kernel
  obtain ⟨rest, bounds, _, settles⟩ := monitoring_settles .plain singleSlot callsFirst.rules 1
    (by decide) (by decide +kernel) (.init 2 (1 / 2) 40 100 40) rfl (by decide +kernel) ["calls"]
    (by decide) 2 2 (by decide +kernel) (fun _ => 0) fresh constructed {} criticalPackets 12
    [some "calls"]
  have spaced : SpacedRounds 5 ["calls"] (-10)
      [callPeriod 0, callPeriod 10, callPeriod 20, callPeriod 30] :=
    ⟨callPeriod_spaced (by norm_num), callPeriod_spaced (by decide +kernel),
      callPeriod_spaced (by decide +kernel), callPeriod_spaced (by decide +kernel), trivial⟩
  have steady : ∀ replies ∈ (Machine.run (BandwidthOptimizer.unmonitored .plain)
      ({ fresh with classifier := {} }, criticalPackets)
      [callPeriod 0, callPeriod 10, callPeriod 20, callPeriod 30]).1,
      (forwardedRules .plain callsFirst criticalPackets replies).Perm [some "calls"] := by
    intro replies member
    rw [constructed] at loads
    have among : forwardedRules .plain callsFirst criticalPackets replies ∈
        List.replicate 4 [some "calls"] := by
      rw [← Except.ok.inj loads]
      exact List.mem_map_of_mem member
    rw [(List.mem_replicate.mp among).2]
  obtain ⟨_, final⟩ := settles (-10) _ spaced steady
  exact ⟨rest, (bounds "calls").2, final (by decide)⟩

end SmartBandwidth

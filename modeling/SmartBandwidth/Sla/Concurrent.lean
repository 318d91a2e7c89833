import SmartBandwidth.Sla.Violations
import SmartBandwidth.Pipeline.ConcurrentAdmission

/-!
# Concurrent calls on one monitor

Any number of `process`, `dequeue`, `sla_stats` and `reset_sla_stats` calls run on one monitor.
A call is the sequence of its locked sections and of the optimizer's; the steps of different
calls interleave freely.  An expired packet is recorded in one locked section and counted in a
second one.
-/

namespace SmartBandwidth

/-- How far a call on a monitor has come. -/
inductive SLAPhase where
  | passed (call : PassedCall)
  | processed (ref : PacketRef) (result : ProcessResult)
  | slow (violation : SLAViolation) (result : ProcessResult)
  | answered (result : Except PyError ProcessResult)
  | pulling
  | pulled (ref : PacketRef)
  | overdue (violation : SLAViolation)
  | counting
  | dequeued (ref : Option PacketRef)
  | reported (stats : SLAStats)

/-- The phases of a `dequeue` call that has not returned. -/
def SLAPhase.dequeuing : SLAPhase → Bool
  | .pulling | .pulled _ | .overdue _ | .counting => true
  | .passed _ | .processed _ _ | .slow _ _ | .answered _ | .dequeued _ | .reported _ => false

/-- A monitor, its packets, and the calls that have begun. -/
structure SLACalls where
  monitor : SLAMonitor
  store : Store
  phases : Dict Nat SLAPhase

/-- The atomic steps of calls on a monitor. -/
inductive SLAAction where
  | filter (call : Nat) (ref : PacketRef) (readings : ProcessReadings)
  | enqueue (call : Nat)
  | time (call : Nat) (times : PipelineTimes)
  | recordPipeline (call : Nat)
  | enter (call : Nat)
  | pull (call : Nat)
  | examine (call : Nat) (monotonic time : ℚ)
  | recordSojourn (call : Nat)
  | count (call : Nat)
  | slaStats (call : Nat)
  | resetSlaStats

namespace SLACalls

/-- A monitor on which no call has begun. -/
def start (monitor : SLAMonitor) (store : Store) : SLACalls where
  monitor := monitor
  store := store
  phases := .empty

/-- Move one call on. -/
def advance (calls : SLACalls) (call : Nat) (monitor : SLAMonitor) (store : Store)
    (phase : SLAPhase) : SLACalls where
  monitor := monitor
  store := store
  phases := calls.phases.set call phase

/-- The phase of a `process` call whose optimizer has returned or raised. -/
def optimized (ref : PacketRef) : Except PyError ProcessResult → SLAPhase
  | .error raised => .answered (.error raised)
  | .ok result => .processed ref result

/-- One atomic step, if the call it belongs to has come to it. -/
def perform (rt : Runtime) (calls : SLACalls) : SLAAction → Option SLACalls
  | .filter call ref readings =>
      match calls.phases.get? call with
      | some _ => none
      | none =>
          match calls.monitor.optimizer.filterStep rt calls.store readings ref with
          | (.finished result, optimizer, store) =>
              some (calls.advance call { calls.monitor with optimizer := optimizer } store
                (optimized ref result))
          | (.passed record, optimizer, store) =>
              some (calls.advance call { calls.monitor with optimizer := optimizer } store
                (.passed { ref := ref, readings := readings, record := record }))
  | .enqueue call =>
      match calls.phases.get? call with
      | some (.passed passed) =>
          let (result, optimizer, store) :=
            calls.monitor.optimizer.deliver rt calls.store passed.readings passed.ref passed.record
          some (calls.advance call { calls.monitor with optimizer := optimizer } store
            (optimized passed.ref result))
      | _ => none
  | .time call times =>
      match calls.phases.get? call with
      | some (.processed ref result) =>
          match calls.monitor.config.pipelineViolation (calls.store ref) times with
          | none => some (calls.advance call calls.monitor calls.store (.answered (.ok result)))
          | some violation =>
              some (calls.advance call calls.monitor calls.store (.slow violation result))
      | _ => none
  | .recordPipeline call =>
      match calls.phases.get? call with
      | some (.slow violation result) =>
          some (calls.advance call (calls.monitor.recordViolation violation) calls.store
            (.answered (.ok result)))
      | _ => none
  | .enter call =>
      match calls.phases.get? call with
      | some _ => none
      | none => some (calls.advance call calls.monitor calls.store .pulling)
  | .pull call =>
      match calls.phases.get? call with
      | some .pulling =>
          match calls.monitor.optimizer.dequeue calls.store with
          | (none, optimizer) =>
              some (calls.advance call { calls.monitor with optimizer := optimizer } calls.store
                (.dequeued none))
          | (some ref, optimizer) =>
              some (calls.advance call { calls.monitor with optimizer := optimizer } calls.store
                (.pulled ref))
      | _ => none
  | .examine call monotonic time =>
      match calls.phases.get? call with
      | some (.pulled ref) =>
          match calls.monitor.config.sojournViolation (calls.store ref) monotonic time with
          | none => some (calls.advance call calls.monitor calls.store (.dequeued (some ref)))
          | some violation =>
              some (calls.advance call calls.monitor calls.store (.overdue violation))
      | _ => none
  | .recordSojourn call =>
      match calls.phases.get? call with
      | some (.overdue violation) =>
          some (calls.advance call (calls.monitor.recordViolation violation) calls.store .counting)
      | _ => none
  | .count call =>
      match calls.phases.get? call with
      | some .counting =>
          some (calls.advance call
            { calls.monitor with packetsExpired := calls.monitor.packetsExpired + 1 }
            calls.store .pulling)
      | _ => none
  | .slaStats call =>
      match calls.phases.get? call with
      | some _ => none
      | none =>
          some (calls.advance call calls.monitor calls.store (.reported calls.monitor.slaStats))
  | .resetSlaStats => some { calls with monitor := calls.monitor.resetSlaStats }

/-- No `dequeue` call is in progress. -/
def Quiet (calls : SLACalls) : Prop :=
  ∀ entry ∈ calls.phases.entries, entry.2.dequeuing = false

instance (calls : SLACalls) : Decidable calls.Quiet :=
  inferInstanceAs (Decidable (∀ entry ∈ calls.phases.entries, entry.2.dequeuing = false))

/-- The expired packets are as many as the sojourn violations. -/
def Agree (calls : SLACalls) : Prop :=
  calls.monitor.slaStats.packetsExpired =
    ∑ priority, calls.monitor.slaStats.sojournViolations priority

instance (calls : SLACalls) : Decidable calls.Agree :=
  inferInstanceAs (Decidable (_ = _))

/-- A call has recorded an expired packet and not counted it. -/
def Counting (calls : SLACalls) (call : Nat) : Prop :=
  calls.phases.get? call = some .counting

/-- The last reset of a run, if there is one, fell between the two sections of no call. -/
def LastResetClean (rt : Runtime) (calls : SLACalls) (actions : List SLAAction) : Prop :=
  ∀ before since, actions = before ++ .resetSlaStats :: since → .resetSlaStats ∉ since →
    ∀ reached, replay (perform rt) calls before = some reached → ∀ call, ¬ reached.Counting call

/-! ## What a step can do -/

end SLACalls

/-- A violation that waits to be recorded is of the kind of its call. -/
def SLAPhase.Typed : SLAPhase → Prop
  | .slow violation _ => violation.violationType = .pipeline
  | .overdue violation => violation.violationType = .sojourn
  | .passed _ | .processed _ _ | .answered _ | .pulling | .pulled _ | .counting | .dequeued _
  | .reported _ => True

namespace SLACalls

/-- Every violation that waits to be recorded is of the kind of its call. -/
def Typed (calls : SLACalls) : Prop :=
  ∀ call phase, calls.phases.get? call = some phase → phase.Typed

/-- What a step can do: move a call on without touching a counter, record a violation, count an
expired packet, or reset. -/
inductive Performs (calls : SLACalls) : SLAAction → SLACalls → Prop where
  | moved {action : SLAAction} {call : Nat} {optimizer : BandwidthOptimizer} {store : Store}
      {phase : SLAPhase} : action ≠ .resetSlaStats → ¬ calls.Counting call →
      phase ≠ .counting → phase.Typed →
      Performs calls action
        (calls.advance call { calls.monitor with optimizer := optimizer } store phase)
  | recordedPipeline {call : Nat} {violation : SLAViolation} {result : ProcessResult} :
      calls.phases.get? call = some (.slow violation result) →
      Performs calls (.recordPipeline call)
        (calls.advance call (calls.monitor.recordViolation violation) calls.store
          (.answered (.ok result)))
  | recordedSojourn {call : Nat} {violation : SLAViolation} :
      calls.phases.get? call = some (.overdue violation) →
      Performs calls (.recordSojourn call)
        (calls.advance call (calls.monitor.recordViolation violation) calls.store .counting)
  | counted {call : Nat} : calls.Counting call →
      Performs calls (.count call)
        (calls.advance call
          { calls.monitor with packetsExpired := calls.monitor.packetsExpired + 1 }
          calls.store .pulling)
  | reset : Performs calls .resetSlaStats { calls with monitor := calls.monitor.resetSlaStats }

section Steps

variable {rt : Runtime} {calls : SLACalls}

theorem not_counting_of_get? {call : Nat} {phase : Option SLAPhase}
    (current : calls.phases.get? call = phase) (other : phase ≠ some .counting) :
    ¬ calls.Counting call := by
  rw [Counting, current]
  exact other

theorem optimized_spec (ref : PacketRef) (result : Except PyError ProcessResult) :
    optimized ref result ≠ .counting ∧ (optimized ref result).Typed := by
  cases result with
  | error raised => exact ⟨by simp [optimized], trivial⟩
  | ok result => exact ⟨by simp [optimized], trivial⟩

theorem performs_of_perform {action : SLAAction} {next : SLACalls}
    (performed : calls.perform rt action = some next) : Performs calls action next := by
  cases action with
  | filter call ref readings =>
      simp only [perform] at performed
      split at performed
      next => cases performed
      next unbegun =>
        have notCounting := not_counting_of_get? unbegun (by simp)
        split at performed
        next result optimizer store _ =>
          cases performed
          obtain ⟨other, typed⟩ := optimized_spec ref result
          exact .moved (by simp) notCounting other typed
        next =>
          cases performed
          exact .moved (by simp) notCounting (by simp) trivial
  | enqueue call =>
      simp only [perform] at performed
      split at performed
      next passed begun =>
        cases performed
        obtain ⟨other, typed⟩ := optimized_spec passed.ref (calls.monitor.optimizer.deliver rt
          calls.store passed.readings passed.ref passed.record).1
        exact .moved (by simp) (not_counting_of_get? begun (by simp)) other typed
      next => cases performed
  | time call times =>
      simp only [perform] at performed
      split at performed
      next ref result begun =>
        have notCounting := not_counting_of_get? begun (by simp)
        split at performed
        next =>
          cases performed
          exact .moved (by simp) notCounting (by simp) trivial
        next violation violated =>
          cases performed
          exact .moved (by simp) notCounting (by simp) (SLAMonitor.pipelineViolation_type violated)
      next => cases performed
  | recordPipeline call =>
      simp only [perform] at performed
      split at performed
      next begun =>
        cases performed
        exact .recordedPipeline begun
      next => cases performed
  | enter call =>
      simp only [perform] at performed
      split at performed
      next => cases performed
      next unbegun =>
        cases performed
        exact .moved (by simp) (not_counting_of_get? unbegun (by simp)) (by simp) trivial
  | pull call =>
      simp only [perform] at performed
      split at performed
      next begun =>
        have notCounting := not_counting_of_get? begun (by simp)
        split at performed
        next =>
          cases performed
          exact .moved (by simp) notCounting (by simp) trivial
        next =>
          cases performed
          exact .moved (by simp) notCounting (by simp) trivial
      next => cases performed
  | examine call monotonic time =>
      simp only [perform] at performed
      split at performed
      next ref begun =>
        have notCounting := not_counting_of_get? begun (by simp)
        have checks := calls.monitor.config.sojournViolation_checks (calls.store ref)
          monotonic time
        generalize calls.monitor.config.sojournViolation (calls.store ref) monotonic time =
          outcome at checks performed
        cases checks with
        | fresh =>
            cases performed
            exact .moved (by simp) notCounting (by simp) trivial
        | expired _ sojourn =>
            cases performed
            exact .moved (by simp) notCounting (by simp) sojourn
      next => cases performed
  | recordSojourn call =>
      simp only [perform] at performed
      split at performed
      next begun =>
        cases performed
        exact .recordedSojourn begun
      next => cases performed
  | count call =>
      simp only [perform] at performed
      split at performed
      next begun =>
        cases performed
        exact .counted begun
      next => cases performed
  | slaStats call =>
      simp only [perform] at performed
      split at performed
      next => cases performed
      next unbegun =>
        cases performed
        exact .moved (by simp) (not_counting_of_get? unbegun (by simp)) (by simp) trivial
  | resetSlaStats =>
      cases performed
      exact .reset

end Steps

/-! ## Between the two sections -/

/-- The calls between their two sections are as many as the violations that have been recorded
and not counted, up to a skew. -/
structure Halfway (calls : SLACalls) (midway : Finset Nat) (skew : Nat) : Prop where
  members : ∀ call, call ∈ midway ↔ calls.Counting call
  counts : calls.monitor.packetsExpired + midway.card =
    ∑ priority, calls.monitor.sojournViolations priority + skew
  typed : calls.Typed

section Halfway

variable {calls : SLACalls} {midway : Finset Nat} {skew : Nat}

theorem counting_advance {call other : Nat} {monitor : SLAMonitor} {store : Store}
    {phase : SLAPhase} :
    (calls.advance call monitor store phase).Counting other ↔
      if other = call then phase = .counting else calls.Counting other := by
  rw [Counting, advance, Dict.get?_set]
  split
  next => exact Option.some_inj
  next => exact Iff.rfl

theorem Typed.advance (typed : calls.Typed) {call : Nat} {monitor : SLAMonitor} {store : Store}
    {phase : SLAPhase} (phaseTyped : phase.Typed) :
    (calls.advance call monitor store phase).Typed := by
  intro other found present
  rw [SLACalls.advance, Dict.get?_set] at present
  split at present
  next =>
    cases present
    exact phaseTyped
  next => exact typed other found present

/-- A call that is not between its sections and does not come there leaves the set of those
that are. -/
theorem Halfway.members_advance (halfway : Halfway calls midway skew) {call : Nat}
    {monitor : SLAMonitor} {store : Store} {phase : SLAPhase}
    (notCounting : ¬ calls.Counting call) (other : phase ≠ .counting) (query : Nat) :
    query ∈ midway ↔ (calls.advance call monitor store phase).Counting query := by
  rw [counting_advance, halfway.members]
  split
  next same =>
    rw [same]
    exact iff_of_false notCounting other
  next => exact Iff.rfl

/-- No step but a reset changes the skew. -/
theorem Halfway.step (halfway : Halfway calls midway skew) {action : SLAAction}
    {next : SLACalls} (performs : Performs calls action next)
    (noReset : action ≠ .resetSlaStats) : ∃ midway, Halfway next midway skew := by
  have counts := halfway.counts
  cases performs with
  | moved _ notCounting other typed =>
      exact ⟨midway, halfway.members_advance notCounting other, counts,
        halfway.typed.advance typed⟩
  | @recordedPipeline call violation result begun =>
      have pipeline : violation.violationType = .pipeline := halfway.typed _ _ begun
      refine ⟨midway, halfway.members_advance (not_counting_of_get? begun (by simp)) (by simp), ?_,
        halfway.typed.advance trivial⟩
      simp only [advance, SLAMonitor.recordViolation, pipeline]
      exact counts
  | @recordedSojourn call violation begun =>
      have sojourn : violation.violationType = .sojourn := halfway.typed _ _ begun
      have outside : call ∉ midway := by
        rw [halfway.members]
        exact not_counting_of_get? begun (by simp)
      refine ⟨insert call midway, ?_, ?_, halfway.typed.advance trivial⟩
      · intro query
        rw [counting_advance, Finset.mem_insert, halfway.members]
        split
        next same => exact iff_of_true (.inl same) rfl
        next different => exact or_iff_right different
      · rw [Finset.card_insert_of_notMem outside]
        simp only [advance, SLAMonitor.recordViolation, sojourn, SLAMonitor.sum_bump]
        omega
  | @counted call begun =>
      have inside : call ∈ midway := (halfway.members call).mpr begun
      refine ⟨midway.erase call, ?_, ?_, halfway.typed.advance trivial⟩
      · intro query
        rw [counting_advance, Finset.mem_erase, halfway.members]
        split
        next same => exact iff_of_false (fun both => both.1 same) (by simp)
        next different => exact and_iff_right different
      · have positive : 0 < midway.card := Finset.card_pos.mpr ⟨call, inside⟩
        rw [Finset.card_erase_of_mem inside]
        simp only [advance]
        omega
  | reset => exact absurd rfl noReset

/-- A reset leaves a skew of as many calls as it has come between. -/
theorem Halfway.reset (halfway : Halfway calls midway skew) :
    Halfway { calls with monitor := calls.monitor.resetSlaStats } midway midway.card where
  members := halfway.members
  counts := by simp [SLAMonitor.resetSlaStats]
  typed := halfway.typed

/-- Without a call between its sections the counters differ by the skew. -/
theorem Halfway.agree_iff (halfway : Halfway calls midway skew) (quiet : calls.Quiet) :
    calls.Agree ↔ skew = 0 := by
  have none : midway = ∅ := by
    rw [Finset.eq_empty_iff_forall_notMem]
    intro call inside
    have current : calls.phases.get? call = some .counting := (halfway.members call).mp inside
    cases quiet _ (Dict.mem_of_get? current)
  have counts := halfway.counts
  rw [none, Finset.card_empty, Nat.add_zero] at counts
  rw [Agree, SLAMonitor.slaStats, counts]
  exact Nat.add_eq_left

end Halfway

/-! ## Runs -/

section Runs

variable {rt : Runtime} {calls reached : SLACalls} {past : List SLAAction}

theorem lastResetClean_snoc {action : SLAAction} (noReset : action ≠ .resetSlaStats) :
    LastResetClean rt calls (past ++ [action]) ↔ LastResetClean rt calls past := by
  constructor
  · intro clean before since split unreset
    subst split
    apply clean before (since ++ [action]) (by simp)
    simp [unreset, noReset.symm]
  · intro clean before since split unreset
    rcases since.eq_nil_or_concat with rfl | ⟨init, last, rfl⟩
    · exact absurd (List.append_inj' split rfl).2 (by simpa using noReset)
    · rw [List.concat_eq_append, ← List.cons_append, ← List.append_assoc] at split
      apply clean before init (List.append_inj' split rfl).1
      intro member
      exact unreset (by simp [member])

theorem lastResetClean_reset (replays : replay (perform rt) calls past = some reached) :
    LastResetClean rt calls (past ++ [.resetSlaStats]) ↔ ∀ call, ¬ reached.Counting call := by
  constructor
  · intro clean
    exact clean past [] rfl List.not_mem_nil reached replays
  · intro clean before since split unreset found finds
    rcases since.eq_nil_or_concat with rfl | ⟨init, last, rfl⟩
    · obtain rfl := (List.append_inj' split rfl).1
      cases replays.symm.trans finds
      exact clean
    · rw [List.concat_eq_append, ← List.cons_append, ← List.append_assoc] at split
      have same := (List.append_inj' split rfl).2
      exact absurd (by simp [List.singleton_inj.mp same]) unreset

/-- After a run the counters are halfway, with a skew unless the last reset was clean. -/
def Skewed (rt : Runtime) (calls : SLACalls) (past : List SLAAction) (reached : SLACalls) :
    Prop :=
  replay (perform rt) calls past = some reached ∧
    ∃ midway skew, Halfway reached midway skew ∧ (skew = 0 ↔ LastResetClean rt calls past)

theorem Skewed.step (skewed : Skewed rt calls past reached) {action : SLAAction}
    {next : SLACalls} (performed : reached.perform rt action = some next) :
    Skewed rt calls (past ++ [action]) next := by
  obtain ⟨replays, midway, skew, halfway, clean⟩ := skewed
  refine ⟨replay.append_eq_some.mpr ⟨reached, replays, replay.singleton_eq_some.mpr performed⟩,
    ?_⟩
  by_cases isReset : action = .resetSlaStats
  · subst isReset
    cases performed
    refine ⟨midway, midway.card, halfway.reset, ?_⟩
    rw [lastResetClean_reset replays, Finset.card_eq_zero, Finset.eq_empty_iff_forall_notMem]
    exact forall_congr' fun call => not_congr (halfway.members call)
  · obtain ⟨midway, halfway⟩ := halfway.step (performs_of_perform performed) isReset
    exact ⟨midway, skew, halfway, clean.trans (lastResetClean_snoc isReset).symm⟩

end Runs

/-- Over any interleaving of calls on a new monitor, whenever no `dequeue` is in progress, the
expired packets are as many as the sojourn violations exactly if the last reset fell between
the two sections of no call. -/
theorem agree_iff_lastResetClean (rt : Runtime) (optimizer : BandwidthOptimizer)
    (config : SLAConfig) (monitor : SLAMonitor)
    (created : SLAMonitor.init optimizer config = .ok monitor) (store : Store)
    (actions : List SLAAction) (calls : SLACalls)
    (replays : replay (perform rt) (start monitor store) actions = some calls)
    (quiet : calls.Quiet) :
    calls.Agree ↔ LastResetClean rt (start monitor store) actions := by
  have books := (SLAMonitor.init_books created).1
  have fresh : Halfway (start monitor store) ∅ 0 := by
    refine ⟨?_, ?_, ?_⟩
    · exact fun call => iff_of_false (Finset.notMem_empty call) nofun
    · exact books.expired
    · exact fun call phase present => nomatch present
  have unreset : LastResetClean rt (start monitor store) [] := by
    intro before since split
    simp at split
  have initial : Skewed rt (start monitor store) [] (start monitor store) :=
    ⟨rfl, ∅, 0, fresh, iff_of_true rfl unreset⟩
  have kept (past : List SLAAction) (state : SLACalls) (action : SLAAction) (next : SLACalls)
      (before : Skewed rt (start monitor store) past state)
      (performs : perform rt state action = some next) :
      Skewed rt (start monitor store) (past ++ [action]) next :=
    before.step performs
  obtain ⟨_, midway, skew, halfway, clean⟩ := replay.invariant kept initial replays
  exact (halfway.agree_iff quiet).trans clean

/-- A critical packet is queued, and a `dequeue` a second later finds it expired. -/
def expiry : List SLAAction :=
  [.filter 0 0 (.frozen 0 0), .enqueue 0, .time 0 { start := 0, finish := 0, timestamp := 0 },
    .enter 1, .pull 1, .examine 1 1 1, .recordSojourn 1]

/-- A run on a monitor of a default optimizer, evaluated. -/
theorem default_replays (actions : List SLAAction) (told : Bool × Bool)
    (evaluated : (BandwidthOptimizer.init {} none fun _ => 0).toOption.bind (fun optimizer =>
      (SLAMonitor.init optimizer).toOption.bind fun monitor =>
        (replay (perform .plain) (start monitor fun _ => { priority := some .critical })
          actions).map fun calls => (decide calls.Quiet, decide calls.Agree)) = some told) :
    ∃ optimizer monitor calls, BandwidthOptimizer.init {} none (fun _ => 0) = .ok optimizer ∧
      SLAMonitor.init optimizer = .ok monitor ∧
      replay (perform .plain) (start monitor fun _ => { priority := some .critical }) actions =
        some calls ∧
      (decide calls.Quiet, decide calls.Agree) = told := by
  obtain ⟨optimizer, constructed⟩ := BandwidthOptimizer.default_constructs
  rw [constructed] at evaluated
  obtain ⟨calls, replays, toldEq⟩ := Option.map_eq_some_iff.mp evaluated
  exact ⟨optimizer, _, calls, constructed, rfl, replays, toldEq⟩

/-- The packet is counted with nothing between, and the counters agree. -/
theorem agree_iff_lastResetClean_alone :
    ∃ monitor calls,
      replay (perform .plain) (start monitor fun _ => { priority := some .critical })
        (expiry ++ [.count 1, .pull 1]) = some calls ∧ calls.Quiet ∧
      LastResetClean .plain (start monitor fun _ => { priority := some .critical })
        (expiry ++ [.count 1, .pull 1]) := by
  obtain ⟨optimizer, monitor, calls, constructed, created, replays, told⟩ :=
    default_replays (expiry ++ [.count 1, .pull 1]) (true, true) (by decide +kernel)
  obtain ⟨quiet, agree⟩ := Prod.ext_iff.mp told
  refine ⟨monitor, calls, replays, of_decide_eq_true quiet, ?_⟩
  exact (agree_iff_lastResetClean .plain optimizer {} monitor created _ _ calls replays
    (of_decide_eq_true quiet)).mp (of_decide_eq_true agree)

/-- A reset falls between the two sections: the packet is counted, its violation is gone, and no
later step of the `dequeue` makes up for it. -/
theorem reset_between_sections :
    ∃ optimizer monitor calls, BandwidthOptimizer.init {} none (fun _ => 0) = .ok optimizer ∧
      SLAMonitor.init optimizer = .ok monitor ∧
      replay (perform .plain) (start monitor fun _ => { priority := some .critical })
        (expiry ++ [.resetSlaStats, .count 1, .pull 1]) = some calls ∧
      calls.Quiet ∧ ¬ calls.Agree := by
  obtain ⟨optimizer, monitor, calls, constructed, created, replays, told⟩ :=
    default_replays (expiry ++ [.resetSlaStats, .count 1, .pull 1]) (true, false)
      (by decide +kernel)
  obtain ⟨quiet, disagree⟩ := Prod.ext_iff.mp told
  exact ⟨optimizer, monitor, calls, constructed, created, replays, of_decide_eq_true quiet,
    of_decide_eq_false disagree⟩

end SLACalls

end SmartBandwidth

import SmartBandwidth.Benchmark.Stress
import Mathlib.Algebra.BigOperators.Fin
import Mathlib.Order.Lattice.Nat
import Mathlib.Tactic.NormNum
import Mathlib.Algebra.Order.BigOperators.Group.Finset

/-!
# What a stress run reports

The result is read off the steps of the workers on which `process` never raised, whatever the
interleaving.  A worker on which it did raise takes its counts with it.
-/

namespace SmartBandwidth

/-! ## What the steps of a worker show -/

namespace WorkerStep

/-- When a call of `process` began. -/
def callTime : Int × WorkerStep → Option Int
  | (now, .call) => some now
  | _ => none

/-- When a call returned. -/
def answerTime : Int × WorkerStep → Option Int
  | (now, .answer (some _)) => some now
  | _ => none

/-- Whether the result was a drop. -/
def dropped : Int × WorkerStep → Option Bool
  | (_, .answer (some dropped)) => some dropped
  | _ => none

/-- A queue depth that was seen. -/
def depth : Int × WorkerStep → Option Nat
  | (_, .settle depth) => depth
  | _ => none

/-- A call that raised. -/
def raises : Int × WorkerStep → Bool
  | (_, .answer none) => true
  | _ => false

/-- The durations of the calls that returned. -/
def latencies (steps : List (Int × WorkerStep)) : List Int :=
  List.zipWith (· - ·) (steps.filterMap answerTime) (steps.filterMap callTime)

/-- The greatest depth seen. -/
def peak (steps : List (Int × WorkerStep)) : Nat := (steps.filterMap depth).foldl max 0

theorem peak_snoc (steps : List (Int × WorkerStep)) (timed : Int × WorkerStep) :
    peak (steps ++ [timed]) = max (peak steps) ((depth timed).getD 0) := by
  rw [peak, peak, List.filterMap_append, List.foldl_append]
  cases seen : depth timed with
  | none => simp [seen]
  | some size => simp [seen]

end WorkerStep

/-- The call that is in progress, or on which the worker ended. -/
def WorkerPhase.inFlight : WorkerPhase → List Int
  | .processing _ t0Ns | .raised t0Ns => [t0Ns]
  | .created | .waiting | .looping _ | .running | .paced _ | .answered _ _ | .leaving
  | .merged => []

/-- A worker whose counts are what its steps have shown. -/
structure Worker.Traced (steps : List (Int × WorkerStep)) (worker : Worker) : Prop where
  sent : worker.counts.sent = (steps.filterMap WorkerStep.dropped).length
  dropped : worker.counts.dropped = (steps.filterMap WorkerStep.dropped).count true
  peak : worker.counts.peak = WorkerStep.peak steps
  calls : ∃ answered, steps.filterMap WorkerStep.callTime = answered ++ worker.phase.inFlight ∧
    answered.length = (steps.filterMap WorkerStep.answerTime).length ∧
    worker.counts.samples = List.zipWith (· - ·) (steps.filterMap WorkerStep.answerTime) answered
  timed : (steps.filterMap WorkerStep.answerTime).length =
    (steps.filterMap WorkerStep.dropped).length
  raised : steps.any WorkerStep.raises = true ↔ ∃ t0Ns, worker.phase = .raised t0Ns

namespace Worker

theorem traced_fresh : Traced [] {} where
  sent := rfl
  dropped := rfl
  peak := rfl
  calls := ⟨[], rfl, rfl, rfl⟩
  timed := rfl
  raised := by simp

variable {sine : ℚ → Set.Icc (-1 : ℚ) 1} {cfg : StressConfig} {worker next : Worker} {now : Int}
variable {step : WorkerStep} {steps : List (Int × WorkerStep)}

/-- A step that neither begins nor ends a call. -/
structure Silent (timed : Int × WorkerStep) : Prop where
  call : WorkerStep.callTime timed = none
  time : WorkerStep.answerTime timed = none
  dropped : WorkerStep.dropped timed = none
  raises : WorkerStep.raises timed = false

theorem not_raised_of_idle {phase : WorkerPhase} (idle : phase.inFlight = []) :
    ¬ ∃ t0Ns, phase = .raised t0Ns := by
  rintro ⟨t0Ns, rfl⟩
  cases idle

theorem Traced.not_raised (traced : worker.Traced steps) (idle : worker.phase.inFlight = []) :
    steps.any WorkerStep.raises = false :=
  Bool.eq_false_iff.mpr fun raised => not_raised_of_idle idle (traced.raised.mp raised)

/-- Between calls a silent step changes no count but the peak. -/
theorem Traced.moved (traced : worker.Traced steps) (idle : worker.phase.inFlight = [])
    (silent : Silent (now, step)) (stays : next.phase.inFlight = [])
    (counts : next.counts = { worker.counts with
      peak := max worker.counts.peak ((WorkerStep.depth (now, step)).getD 0) }) :
    next.Traced (steps ++ [(now, step)]) := by
  obtain ⟨answered, calls, length, samples⟩ := traced.calls
  rw [idle] at calls
  exact
    { sent := by simp [counts, silent.dropped, traced.sent]
      dropped := by simp [counts, silent.dropped, traced.dropped]
      peak := by rw [counts, WorkerStep.peak_snoc, traced.peak]
      calls := ⟨answered, by simp [calls, silent.call, stays], by simp [length, silent.time],
        by simp [counts, samples, silent.time]⟩
      timed := by simp [traced.timed, silent.time, silent.dropped]
      raised := by
        simpa [silent.raises, traced.not_raised idle] using not_raised_of_idle stays }

/-- A silent step that sees no queue depth changes no count. -/
theorem Traced.kept (traced : worker.Traced steps) (idle : worker.phase.inFlight = [])
    (silent : Silent (now, step)) (unseen : WorkerStep.depth (now, step) = none)
    (stays : next.phase.inFlight = []) (counts : next.counts = worker.counts) :
    next.Traced (steps ++ [(now, step)]) := by
  apply traced.moved idle silent stays
  rw [counts, unseen, Option.getD_none, Nat.max_zero]

theorem Traced.called (traced : worker.Traced steps) (idle : worker.phase.inFlight = [])
    (begun : next.phase.inFlight = [now]) (alive : ¬ ∃ t0Ns, next.phase = .raised t0Ns)
    (counts : next.counts = worker.counts) : next.Traced (steps ++ [(now, .call)]) := by
  have call : WorkerStep.callTime (now, .call) = some now := rfl
  have time : WorkerStep.answerTime (now, .call) = none := rfl
  have answer : WorkerStep.dropped (now, .call) = none := rfl
  have depth : WorkerStep.depth (now, .call) = none := rfl
  have raises : WorkerStep.raises (now, .call) = false := rfl
  obtain ⟨answered, calls, length, samples⟩ := traced.calls
  rw [idle, List.append_nil] at calls
  exact
    { sent := by simp [counts, traced.sent, answer]
      dropped := by simp [counts, traced.dropped, answer]
      peak := by simp [counts, WorkerStep.peak_snoc, traced.peak, depth]
      calls := ⟨answered, by simp [calls, call, begun], by simp [length, time],
        by simp [counts, samples, time]⟩
      timed := by simp [traced.timed, time, answer]
      raised := by simpa [traced.not_raised idle, raises] using alive }

theorem Traced.failed {t0Ns : Int} (traced : worker.Traced steps)
    (calling : worker.phase.inFlight = [t0Ns]) (ended : next.phase = .raised t0Ns)
    (counts : next.counts = worker.counts) : next.Traced (steps ++ [(now, .answer none)]) := by
  have call : WorkerStep.callTime (now, .answer none) = none := rfl
  have time : WorkerStep.answerTime (now, .answer none) = none := rfl
  have answer : WorkerStep.dropped (now, .answer none) = none := rfl
  have depth : WorkerStep.depth (now, .answer none) = none := rfl
  have raises : WorkerStep.raises (now, .answer none) = true := rfl
  obtain ⟨answered, calls, length, samples⟩ := traced.calls
  rw [calling] at calls
  exact
    { sent := by simp [counts, traced.sent, answer]
      dropped := by simp [counts, traced.dropped, answer]
      peak := by simp [counts, WorkerStep.peak_snoc, traced.peak, depth]
      calls := ⟨answered, by simp [calls, call, ended, WorkerPhase.inFlight],
        by simp [length, time], by simp [counts, samples, time]⟩
      timed := by simp [traced.timed, time, answer]
      raised := by simp [raises, ended] }

theorem Traced.answered {t0Ns : Int} {outcome : Bool} (traced : worker.Traced steps)
    (calling : worker.phase.inFlight = [t0Ns]) (alive : ¬ ∃ t0Ns, worker.phase = .raised t0Ns)
    (returned : next.phase.inFlight = [])
    (counts : next.counts = worker.counts.add outcome (now - t0Ns)) :
    next.Traced (steps ++ [(now, .answer (some outcome))]) := by
  have call : WorkerStep.callTime (now, .answer (some outcome)) = none := rfl
  have time : WorkerStep.answerTime (now, .answer (some outcome)) = some now := rfl
  have answer : WorkerStep.dropped (now, .answer (some outcome)) = some outcome := rfl
  have depth : WorkerStep.depth (now, .answer (some outcome)) = none := rfl
  have raises : WorkerStep.raises (now, .answer (some outcome)) = false := rfl
  have unraised : steps.any WorkerStep.raises = false :=
    Bool.eq_false_iff.mpr fun raised => alive (traced.raised.mp raised)
  obtain ⟨answered, calls, length, samples⟩ := traced.calls
  rw [calling] at calls
  have pairs : List.zipWith (· - ·) (steps.filterMap WorkerStep.answerTime ++ [now])
      (answered ++ [t0Ns]) =
        List.zipWith (· - ·) (steps.filterMap WorkerStep.answerTime) answered ++ [now - t0Ns] :=
    List.zipWith_append length.symm
  exact
    { sent := by simp [counts, WorkerCounts.add, traced.sent, answer]
      dropped := by
        cases outcome <;> simp [counts, WorkerCounts.add, traced.dropped, answer]
      peak := by simp [counts, WorkerCounts.add, WorkerStep.peak_snoc, traced.peak, depth]
      calls := ⟨answered ++ [t0Ns], by simp [calls, call, returned], by simp [length, time],
        by simp [counts, WorkerCounts.add, samples, time, pairs]⟩
      timed := by simp [traced.timed, time, answer]
      raised := by simpa [unraised, raises] using not_raised_of_idle returned }

/-- Every packet that was sent has a sample. -/
theorem Traced.samples_length (traced : worker.Traced steps) :
    worker.counts.samples.length = worker.counts.sent := by
  obtain ⟨answered, _, length, samples⟩ := traced.calls
  rw [samples, List.length_zipWith, length, Nat.min_self, traced.timed, traced.sent]

theorem Traced.moves (traced : worker.Traced steps) (moves : worker.Moves sine cfg now step next) :
    next.Traced (steps ++ [(now, step)]) := by
  cases moves with
  | spawn stands | release _ stands | entered stands | left stands | pace _ stands | merge stands =>
      exact traced.kept (congrArg WorkerPhase.inFlight stands) ⟨rfl, rfl, rfl, rfl⟩ rfl rfl rfl
  | call stands =>
      exact traced.called (congrArg WorkerPhase.inFlight stands) rfl (by simp) rfl
  | raised stands => exact traced.failed (congrArg WorkerPhase.inFlight stands) rfl rfl
  | answered outcome stands =>
      exact traced.answered (congrArg WorkerPhase.inFlight stands) (by simp [stands]) rfl rfl
  | settle depth stands =>
      exact traced.moved (congrArg WorkerPhase.inFlight stands) ⟨rfl, rfl, rfl, rfl⟩ rfl rfl

end Worker

/-! ## What a run adds up -/

/-- The steps of one worker. -/
def StressAction.owned {cfg : StressConfig} (index : Fin cfg.threads) :
    StressAction cfg → Option (Int × WorkerStep)
  | .open _ => none
  | .step owner now taken => if owner = index then some (now, taken) else none

/-- What a worker has added to the shared variables. -/
def Worker.share (worker : Worker) : WorkerCounts :=
  if worker.phase = .merged then worker.counts else {}

theorem Worker.share_of_ne {worker : Worker} (outside : worker.phase ≠ .merged) :
    worker.share = {} :=
  if_neg outside

section Totals

variable {ι : Type} [Fintype ι] [DecidableEq ι]

/-- A total to which a member adds that had added nothing. -/
theorem sum_update_of_eq_zero {M : Type} [AddCommMonoid M] {amounts : ι → M} {index : ι}
    (nothing : amounts index = 0) (amount : M) :
    ∑ other, Function.update amounts index amount other =
      (∑ other, amounts other) + amount := by
  rw [Finset.sum_update_of_mem (Finset.mem_univ index), add_comm,
    ← Finset.add_sum_erase _ amounts (Finset.mem_univ index), nothing, zero_add,
    Finset.sdiff_singleton_eq_erase]

/-- A maximum over members one of which had shown nothing. -/
theorem sup_update_of_eq_zero {sizes : ι → Nat} {index : ι} (nothing : sizes index = 0)
    (size : Nat) :
    Finset.univ.sup (Function.update sizes index size) = max (Finset.univ.sup sizes) size := by
  apply le_antisymm
  · apply Finset.sup_le
    intro other _
    by_cases same : other = index
    · subst same
      rw [Function.update_self]
      exact le_max_right _ _
    · rw [Function.update_of_ne same]
      exact (Finset.le_sup (Finset.mem_univ other)).trans (le_max_left _ _)
  · apply max_le
    · apply Finset.sup_le
      intro other _
      by_cases same : other = index
      · subst same
        rw [nothing]
        exact Nat.zero_le _
      · rw [← Function.update_of_ne same size sizes]
        exact Finset.le_sup (Finset.mem_univ other)
    · calc
        size = Function.update sizes index size index :=
          (Function.update_self index size sizes).symm
        _ ≤ _ := Finset.le_sup (Finset.mem_univ index)

end Totals

namespace StressRun

variable {sine : ℚ → Set.Icc (-1 : ℚ) 1} {cfg : StressConfig}

/-- What the actions of a run do: the event is set, a worker makes a step outside its locked part,
or it adds its counts. -/
inductive Moves (sine : ℚ → Set.Icc (-1 : ℚ) 1) (run : StressRun cfg) :
    StressAction cfg → StressRun cfg → Prop where
  | opened (runStart : ℚ) : Moves sine run (.open runStart)
      { run with runStart := some runStart }
  | stepped {index : Fin cfg.threads} {now : Int} {step : WorkerStep} {worker : Worker} :
      (run.workers index).perform sine cfg index (now, step) = some worker →
      (run.workers index).phase ≠ .merged → worker.phase ≠ .merged →
      Moves sine run (.step index now step)
        { run with workers := Function.update run.workers index worker }
  | merged {index : Fin cfg.threads} {now : Int} {worker : Worker} :
      (run.workers index).perform sine cfg index (now, .merge) = some worker →
      (run.workers index).phase ≠ .merged → worker.phase = .merged →
      Moves sine run (.step index now .merge)
        ({ run with workers := Function.update run.workers index worker }.merge worker.counts)

theorem perform_moves {run next : StressRun cfg} {action : StressAction cfg}
    (performs : run.perform sine action = some next) : run.Moves sine action next := by
  cases action with
  | «open» runStart =>
      simp only [perform] at performs
      split at performs
      next =>
        cases performs
        exact .opened runStart
      next => cases performs
  | step index now step =>
      simp only [perform] at performs
      split at performs
      next =>
        obtain ⟨worker, moves, rfl⟩ := Option.map_eq_some_iff.mp performs
        obtain ⟨later, stepped⟩ := Worker.perform_moves moves
        cases stepped with
        | merge stands => exact .merged moves (by simp [stands]) rfl
        | entered stands | left stands =>
            exact .stepped moves (by simp [stands]) (by simp)
        | spawn stands | release _ stands | pace _ stands | call stands | raised stands
        | answered _ stands | settle _ stands =>
            exact .stepped moves (by simp [stands]) (by simp)
      next => cases performs

/-- The shared variables are what the workers past their locked parts have counted. -/
structure Shares (run : StressRun cfg) : Prop where
  sent : run.packetsSent = ∑ index, (run.workers index).share.sent
  dropped : run.packetsDropped = ∑ index, (run.workers index).share.dropped
  peak : run.peakQueueDepth = Finset.univ.sup fun index => (run.workers index).share.peak
  samples : (run.latencySamplesNs : Multiset Int) =
    ∑ index, ((run.workers index).share.samples : Multiset Int)

theorem shares_fresh : Shares ({} : StressRun cfg) where
  sent := Finset.sum_const_zero.symm
  dropped := Finset.sum_const_zero.symm
  peak := (Finset.sup_bot _).symm
  samples := Finset.sum_const_zero.symm

/-- A reading of the shares after one of the workers has moved. -/
theorem share_update {β : Type} (read : WorkerCounts → β) (workers : Fin cfg.threads → Worker)
    (index : Fin cfg.threads) (worker : Worker) :
    (fun other => read (Function.update workers index worker other).share) =
      Function.update (fun other => read (workers other).share) index (read worker.share) :=
  Function.comp_update (read ∘ Worker.share) workers index worker

theorem Shares.moves {run next : StressRun cfg} {action : StressAction cfg}
    (shares : run.Shares) (moves : run.Moves sine action next) : next.Shares := by
  cases moves with
  | opened => exact ⟨shares.sent, shares.dropped, shares.peak, shares.samples⟩
  | @stepped index now step worker _ outside stays =>
      have same (other : Fin cfg.threads) :
          (Function.update run.workers index worker other).share = (run.workers other).share := by
        by_cases moved : other = index
        · subst moved
          rw [Function.update_self, Worker.share_of_ne stays, Worker.share_of_ne outside]
        · rw [Function.update_of_ne moved]
      exact
        { sent := by simpa only [same] using shares.sent
          dropped := by simpa only [same] using shares.dropped
          peak := by simpa only [same] using shares.peak
          samples := by simpa only [same] using shares.samples }
  | @merged index now worker _ outside inside =>
      have before := Worker.share_of_ne outside
      have after : worker.share = worker.counts := if_pos inside
      exact
        { sent := by
            change run.packetsSent + worker.counts.sent =
              ∑ other, (Function.update run.workers index worker other).share.sent
            rw [share_update, sum_update_of_eq_zero (by rw [before]), after, shares.sent]
          dropped := by
            change run.packetsDropped + worker.counts.dropped =
              ∑ other, (Function.update run.workers index worker other).share.dropped
            rw [share_update, sum_update_of_eq_zero (by rw [before]), after, shares.dropped]
          peak := by
            change (if run.peakQueueDepth < worker.counts.peak then worker.counts.peak
                else run.peakQueueDepth) =
              Finset.univ.sup fun other =>
                (Function.update run.workers index worker other).share.peak
            rw [share_update, sup_update_of_eq_zero (by rw [before]), after, ← shares.peak]
            exact (max_def_lt _ _).symm
          samples := by
            change ((run.latencySamplesNs ++ worker.counts.samples : List Int) : Multiset Int) =
              ∑ other, ((Function.update run.workers index worker other).share.samples :
                Multiset Int)
            rw [share_update fun counts => (counts.samples : Multiset Int),
              sum_update_of_eq_zero (by rw [before]; rfl), after, ← shares.samples]
            exact (Multiset.coe_add _ _).symm }

theorem replay_shares {run : StressRun cfg} {actions : List (StressAction cfg)}
    (replays : replay (perform sine) {} actions = some run) : run.Shares :=
  replay.preserves (fun _ _ _ shares performs => shares.moves (perform_moves performs))
    shares_fresh replays

/-- Every worker has made its own steps. -/
theorem worker_replays {run : StressRun cfg} {actions : List (StressAction cfg)}
    (replays : replay (perform sine) {} actions = some run) (index : Fin cfg.threads) :
    replay (Worker.perform sine cfg index) {} (actions.filterMap (StressAction.owned index)) =
      some (run.workers index) := by
  apply replay.component (fun run : StressRun cfg => run.workers index) _ _ _ replays
  · intro run action next own performs owns
    cases perform_moves performs with
    | opened => cases owns
    | @stepped owner now taken worker moves | @merged owner now worker moves =>
        rw [StressAction.owned, Option.ite_none_right_eq_some, Option.some_inj] at owns
        obtain ⟨rfl, rfl⟩ := owns
        exact moves.trans (congrArg some (Function.update_self _ worker run.workers).symm)
  · intro run action next performs owns
    cases perform_moves performs with
    | opened => rfl
    | @stepped owner now taken worker | @merged owner now worker =>
        rw [StressAction.owned, ite_eq_right_iff] at owns
        exact Function.update_of_ne (fun same => nomatch owns same.symm) worker run.workers

theorem worker_traced {run : StressRun cfg} {actions : List (StressAction cfg)}
    (replays : replay (perform sine) {} actions = some run) (index : Fin cfg.threads) :
    (run.workers index).Traced (actions.filterMap (StressAction.owned index)) := by
  have kept (past : List (Int × WorkerStep)) (worker : Worker) (timed : Int × WorkerStep)
      (next : Worker) (traced : worker.Traced past)
      (performs : worker.perform sine cfg index timed = some next) :
      next.Traced (past ++ [timed]) :=
    traced.moves (Worker.perform_moves performs).2
  exact replay.invariant kept Worker.traced_fresh (worker_replays replays index)

end StressRun

/-! ## The result -/

/-- Samples of some members, as a sum and as a list. -/
theorem sum_samples {ι : Type} (members : List ι) (present : ι → Bool) (samples : ι → List Int) :
    (members.map fun member =>
        if present member then (samples member : Multiset Int) else 0).sum =
      ((members.filter present).flatMap samples : List Int) := by
  induction members with
  | nil => rfl
  | cons member rest ih =>
      rw [List.map_cons, List.sum_cons, ih]
      cases stays : present member with
      | false => rw [List.filter_cons_of_neg (by simp [stays])]; exact zero_add _
      | true =>
          rw [List.filter_cons_of_pos stays, List.flatMap_cons, ← Multiset.coe_add]
          rfl

namespace StressRun

variable {sine : ℚ → Set.Icc (-1 : ℚ) 1} {cfg : StressConfig}

/-- The steps of one worker. -/
def own (actions : List (StressAction cfg)) (index : Fin cfg.threads) :
    List (Int × WorkerStep) :=
  actions.filterMap (StressAction.owned index)

/-- `process` never raised on the worker. -/
def survived (actions : List (StressAction cfg)) (index : Fin cfg.threads) : Bool :=
  !(own actions index).any WorkerStep.raises

/-- When all threads have ended, those on which `process` never raised have added what their
steps have shown, and the others nothing. -/
theorem share_eq {run : StressRun cfg} {actions : List (StressAction cfg)}
    (replays : replay (perform sine) {} actions = some run) (joined : run.Joined)
    (index : Fin cfg.threads) :
    (run.workers index).share =
      if survived actions index then {
        sent := ((own actions index).filterMap WorkerStep.dropped).length
        dropped := ((own actions index).filterMap WorkerStep.dropped).count true
        peak := WorkerStep.peak (own actions index)
        samples := WorkerStep.latencies (own actions index) }
      else
        {} := by
  have traced := worker_traced replays index
  cases joined index with
  | inl merged =>
      have idle : (run.workers index).phase.inFlight = [] := by rw [merged]; rfl
      have survives : survived actions index = true := by
        rw [survived, own, traced.not_raised idle, Bool.not_false]
      obtain ⟨answered, calls, length, samples⟩ := traced.calls
      rw [idle, List.append_nil] at calls
      rw [if_pos survives, Worker.share, if_pos merged, WorkerStep.latencies, own, calls,
        ← samples, ← traced.sent, ← traced.dropped, ← traced.peak]
  | inr raised =>
      have fails : survived actions index = false := by
        rw [survived, own, traced.raised.mpr raised, Bool.not_true]
      obtain ⟨t0Ns, phase⟩ := raised
      rw [fails, if_neg (by decide), Worker.share_of_ne (by simp [phase])]

end StressRun

theorem StressResult.dropRate_bounds {result : StressResult}
    (fewer : result.packetsDropped ≤ result.packetsSent) :
    0 ≤ result.dropRate ∧ result.dropRate ≤ 1 := by
  rw [dropRate]
  split
  next => exact ⟨le_rfl, zero_le_one⟩
  next =>
    exact ⟨div_nonneg (Nat.cast_nonneg _) (Nat.cast_nonneg _),
      div_le_one_of_le₀ (Nat.cast_le.mpr fewer) (Nat.cast_nonneg _)⟩

theorem StressRun.samples_length {sine : ℚ → Set.Icc (-1 : ℚ) 1} {cfg : StressConfig}
    {run : StressRun cfg} {actions : List (StressAction cfg)}
    (replays : replay (StressRun.perform sine) {} actions = some run) :
    run.latencySamplesNs.length = run.packetsSent := by
  have shares := replay_shares replays
  have each (index : Fin cfg.threads) :
      Multiset.card ((run.workers index).share.samples : Multiset Int) =
        (run.workers index).share.sent := by
    rw [Worker.share, Multiset.coe_card]
    split
    next => exact (worker_traced replays index).samples_length
    next => rfl
  rw [← Multiset.coe_card, shares.samples, Multiset.card_sum, shares.sent]
  exact Finset.sum_congr rfl fun index _ => each index

/-- The result is what the calls of the workers add up to on which none raised. -/
structure StressBooks {cfg : StressConfig} (actions : List (StressAction cfg))
    (result : StressResult) : Prop where
  sent : result.packetsSent = ∑ index with StressRun.survived actions index,
    ((StressRun.own actions index).filterMap WorkerStep.dropped).length
  dropped : result.packetsDropped = ∑ index with StressRun.survived actions index,
    ((StressRun.own actions index).filterMap WorkerStep.dropped).count true
  peak : result.peakQueueDepth = ({index | StressRun.survived actions index} : Finset _).sup
    fun index => WorkerStep.peak (StressRun.own actions index)
  latency : LatencyStats.fromSamples
    ((((List.finRange cfg.threads).filter (StressRun.survived actions)).flatMap fun index =>
      WorkerStep.latencies (StressRun.own actions index)).map fun ns : Int => (ns : ℚ) / 1000) =
    some result.latency
  sampleCount : result.latency.sampleCount = result.packetsSent
  dropRate : 0 ≤ result.dropRate ∧ result.dropRate ≤ 1

/-- However the threads interleave and whatever they are answered, a run whose threads have ended
reports the books of the workers on which `process` never raised. -/
theorem stress_books (sine : ℚ → Set.Icc (-1 : ℚ) 1) (cfg : StressConfig)
    (actions : List (StressAction cfg)) (run : StressRun cfg)
    (replays : replay (StressRun.perform sine) {} actions = some run) (joined : run.Joined)
    (actualDuration : ℚ) :
    ∃ result, run.result actualDuration = some result ∧ StressBooks actions result := by
  have shares := StressRun.replay_shares replays
  have share := StressRun.share_eq replays joined
  obtain ⟨latency, computed⟩ := LatencyStats.exists_fromSamples
    (run.latencySamplesNs.map fun ns : Int => (ns : ℚ) / 1000)
  refine ⟨_, by rw [StressRun.result, computed]; rfl, ?_⟩
  have sent : run.packetsSent = ∑ index with StressRun.survived actions index,
      ((StressRun.own actions index).filterMap WorkerStep.dropped).length := by
    rw [shares.sent, Finset.sum_filter]
    apply Finset.sum_congr rfl
    intro index _
    rw [share index, apply_ite WorkerCounts.sent]
  have dropped : run.packetsDropped = ∑ index with StressRun.survived actions index,
      ((StressRun.own actions index).filterMap WorkerStep.dropped).count true := by
    rw [shares.dropped, Finset.sum_filter]
    apply Finset.sum_congr rfl
    intro index _
    rw [share index, apply_ite WorkerCounts.dropped]
  have fewer : run.packetsDropped ≤ run.packetsSent := by
    rw [sent, dropped]
    exact Finset.sum_le_sum fun index _ => List.count_le_length
  have gathered : (run.latencySamplesNs : Multiset Int) =
      (((List.finRange cfg.threads).filter (StressRun.survived actions)).flatMap fun index =>
        WorkerStep.latencies (StressRun.own actions index) : List Int) := by
    rw [shares.samples, Fin.sum_univ_def, ← sum_samples]
    congr 2
    funext index
    rw [share index]
    cases StressRun.survived actions index <;> rfl
  exact
    { sent := sent
      dropped := dropped
      peak := by
        have shown : (fun index => (run.workers index).share.peak) = fun index =>
            if StressRun.survived actions index then
              WorkerStep.peak (StressRun.own actions index) else 0 := by
          funext index
          rw [share index, apply_ite WorkerCounts.peak]
        change run.peakQueueDepth = _
        rw [shares.peak, shown, Finset.sup_ite]
        exact sup_eq_left.mpr (Finset.sup_le fun _ _ => Nat.zero_le _)
      latency := by
        rw [← computed]
        exact LatencyStats.fromSamples_eq_of_perm
          ((Multiset.coe_eq_coe.mp gathered).symm.map _)
      sampleCount := by
        rw [LatencyStats.sampleCount_of_fromSamples computed, List.length_map]
        exact StressRun.samples_length replays
      dropRate := StressResult.dropRate_bounds fewer }

/-- Two threads, one of which sends a packet that is dropped, while the other meets an exception. -/
def StressRun.twoThreads : List (StressAction { durationSeconds := 1, nThreads := 2 }) :=
  [.step 0 0 .spawn, .step 1 0 .spawn, .open 0, .step 1 1 (.release 0), .step 0 1 (.release 0),
    .step 1 2 .check, .step 1 3 .pace, .step 0 4 .check, .step 1 5 .call, .step 0 6 .pace,
    .step 0 7 .call, .step 1 8 (.answer none), .step 0 9 (.answer (some true)),
    .step 0 10 (.settle (some 3)), .step 0 2000000000 .check, .step 0 2000000001 .merge]

theorem zero_mem_Icc : (0 : ℚ) ∈ Set.Icc (-1 : ℚ) 1 := by norm_num

/-- An oscillation that rests in the middle. -/
def StressTester.resting : ℚ → Set.Icc (-1 : ℚ) 1 := fun _ => ⟨0, zero_mem_Icc⟩

theorem stress_books_twoThreads :
    ∃ run, replay (StressRun.perform StressTester.resting) {} StressRun.twoThreads = some run ∧
      ∃ result, run.result 2 = some result ∧ StressBooks StressRun.twoThreads result := by
  have phases : (replay (StressRun.perform StressTester.resting) {} StressRun.twoThreads).map
      (fun run => ((run.workers 0).phase, (run.workers 1).phase)) =
        some (.merged, .raised 5) := by
    decide +kernel
  obtain ⟨run, replays, ended⟩ := Option.map_eq_some_iff.mp phases
  obtain ⟨first, second⟩ := Prod.mk.inj ended
  exact ⟨run, replays, stress_books _ _ StressRun.twoThreads run replays
    (Fin.forall_fin_two.mpr ⟨.inl first, .inr ⟨5, second⟩⟩) 2⟩

end SmartBandwidth

import SmartBandwidth.Benchmark.LatencyStats
import SmartBandwidth.Lib.Replay
import Mathlib.Algebra.BigOperators.Group.Finset.Basic
import Mathlib.Algebra.Order.Floor.Ring
import Mathlib.Data.Fintype.BigOperators
import Mathlib.Data.Rat.Floor
import Mathlib.Tactic.Linarith

/-!
# The stress tester

Worker threads send packets at a rate that follows a pattern, each into counts of its own, and add
them to the shared ones when they leave their loops.  The workers are machines that move in any
order.  What the optimizer answers them is not restricted, since they may be its only users or not.
-/

namespace SmartBandwidth

/-- `StressPattern`. -/
inductive StressPattern where
  | uniform
  | burstFlood
  | oscillating
  | priorityInversion
  | allCritical
  deriving DecidableEq, Repr

/-- The string value of a pattern. -/
def StressPattern.value : StressPattern → String
  | .uniform => "uniform"
  | .burstFlood => "burst_flood"
  | .oscillating => "oscillating"
  | .priorityInversion => "priority_inversion"
  | .allCritical => "all_critical"

/-- `StressConfig`. -/
structure StressConfig where
  durationSeconds : ℚ := 10
  targetPps : Int := 10000
  nThreads : Int := 4
  pattern : StressPattern := .uniform
  packetSizeBytes : Int := 512
  burstMultiplier : ℚ := 10

namespace StressConfig

/-- How many threads are started. -/
def threads (cfg : StressConfig) : Nat := (max 1 cfg.nThreads).toNat

instance (cfg : StressConfig) : NeZero cfg.threads where
  out := by
    have one : 1 ≤ max 1 cfg.nThreads := le_max_left _ _
    rw [threads]
    omega

/-- `per_thread_pps`. -/
def perThreadPps (cfg : StressConfig) : ℚ := cfg.targetPps / max 1 cfg.nThreads

end StressConfig

namespace StressTester

/-- `_rate_multiplier`; `sine` gives the values of `math.sin(2 * math.pi * elapsed / 0.5)`. -/
def rateMultiplier (sine : ℚ → Set.Icc (-1 : ℚ) 1) (pattern : StressPattern) (elapsed : ℚ)
    (burstMultiplier : ℚ) : ℚ :=
  match pattern with
  | .uniform => 1
  | .burstFlood => if Int.fract elapsed < 1 / 10 then burstMultiplier else 1
  | .oscillating => 1 / 10 + 9 / 10 * (1 / 2 + 1 / 2 * (sine elapsed).val)
  | .priorityInversion => 1
  | .allCritical => 1

/-- `sleep_s`. -/
def sleepSeconds (currentPps : ℚ) : ℚ :=
  if 0 < currentPps then 1 / currentPps else 1 / 100

/-- A reading of the clock, in seconds. -/
def seconds (ns : Int) : ℚ := ns / 10 ^ 9

end StressTester

/-! ## One worker -/

/-- The variables a worker adds to the shared ones. -/
structure WorkerCounts where
  sent : Nat := 0
  dropped : Nat := 0
  peak : Nat := 0
  samples : List Int := []

/-- Where a worker stands: not begun, at `start_event.wait()`, at the loop's condition or asleep
before it, past the condition, with its sleep computed, inside `process`, past it, out of the
loop, past the locked part, or ended by an exception. -/
inductive WorkerPhase where
  | created
  | waiting
  | looping (wakes : ℚ)
  | running
  | paced (sleepS : ℚ)
  | processing (sleepS : ℚ) (t0Ns : Int)
  | answered (sleepS : ℚ) (t0Ns : Int)
  | leaving
  | merged
  | raised (t0Ns : Int)
  deriving DecidableEq

/-- A worker; `now` is its last reading of the clock. -/
structure Worker where
  phase : WorkerPhase := .created
  now : Int := 0
  deadline : ℚ := 0
  runStart : ℚ := 0
  counts : WorkerCounts := {}

/-- The steps of a worker, one for each phase it leaves.  An answer is the `dropped` of a result,
or none where `process` raises; the depth is none where `stats()` raises. -/
inductive WorkerStep where
  | spawn
  | release (runStart : ℚ)
  | check
  | pace
  | call
  | answer (dropped : Option Bool)
  | settle (depth : Option Nat)
  | merge
  deriving DecidableEq

/-- The counts after an answered packet. -/
def WorkerCounts.add (counts : WorkerCounts) (dropped : Bool) (elapsedNs : Int) : WorkerCounts where
  sent := counts.sent + 1
  dropped := if dropped then counts.dropped + 1 else counts.dropped
  peak := counts.peak
  samples := counts.samples ++ [elapsedNs]

namespace Worker

open StressTester

/-- One step of a worker in its phase, `now` being the reading of the clock at the step. -/
def advance (sine : ℚ → Set.Icc (-1 : ℚ) 1) (cfg : StressConfig) (threadId : Nat)
    (worker : Worker) (now : Int) : WorkerStep → Option Worker
  | .spawn =>
      match worker.phase with
      | .created => some { worker with
          phase := .waiting
          now := now
          deadline := seconds now + cfg.durationSeconds }
      | _ => none
  | .release runStart =>
      match worker.phase with
      | .waiting => some { worker with
          phase := .looping (seconds now)
          now := now
          runStart := runStart }
      | _ => none
  | .check =>
      match worker.phase with
      | .looping wakes =>
          if wakes ≤ seconds now then
            some { worker with
              phase := if seconds now < worker.deadline then .running else .leaving
              now := now }
          else
            none
      | _ => none
  | .pace =>
      match worker.phase with
      | .running =>
          let phase : ℚ := threadId / max 1 cfg.nThreads
          let elapsed := seconds now - worker.runStart + phase
          let rateMul := rateMultiplier sine cfg.pattern elapsed cfg.burstMultiplier
          let currentPps := cfg.perThreadPps * rateMul
          some { worker with phase := .paced (sleepSeconds currentPps), now := now }
      | _ => none
  | .call =>
      match worker.phase with
      | .paced sleepS => some { worker with phase := .processing sleepS now, now := now }
      | _ => none
  | .answer outcome =>
      match worker.phase with
      | .processing sleepS t0Ns =>
          match outcome with
          | none => some { worker with phase := .raised t0Ns, now := now }
          | some dropped => some { worker with
              phase := .answered sleepS t0Ns
              now := now
              counts := worker.counts.add dropped (now - t0Ns) }
      | _ => none
  | .settle depth =>
      match worker.phase with
      | .answered sleepS t0Ns =>
          let remaining := sleepS - seconds (now - t0Ns)
          some { worker with
            phase := .looping
              (if 0 < remaining then seconds now + remaining else seconds now)
            now := now
            counts := { worker.counts with
              peak := max worker.counts.peak (depth.getD 0) } }
      | _ => none
  | .merge =>
      match worker.phase with
      | .leaving => some { worker with phase := .merged, now := now }
      | _ => none

/-- One step, where the clock of the worker has not gone back. -/
def perform (sine : ℚ → Set.Icc (-1 : ℚ) 1) (cfg : StressConfig) (threadId : Nat)
    (worker : Worker) (timed : Int × WorkerStep) : Option Worker :=
  if worker.now ≤ timed.1 then
    worker.advance sine cfg threadId timed.1 timed.2
  else
    none

end Worker

/-! ## The run -/

/-- The workers and the variables they share; `run_start` is set before `start_event`. -/
structure StressRun (cfg : StressConfig) where
  runStart : Option ℚ := none
  workers : Fin cfg.threads → Worker := fun _ => {}
  packetsSent : Nat := 0
  packetsDropped : Nat := 0
  peakQueueDepth : Nat := 0
  latencySamplesNs : List Int := []

/-- The main thread sets the event, or a worker makes a step. -/
inductive StressAction (cfg : StressConfig) where
  | open (runStart : ℚ)
  | step (index : Fin cfg.threads) (now : Int) (step : WorkerStep)
  deriving DecidableEq

/-- Only the return of `start_event.wait()` needs the main thread. -/
def WorkerStep.enabled (runStart : Option ℚ) : WorkerStep → Bool
  | .release start => runStart == some start
  | .spawn | .check | .pace | .call | .answer _ | .settle _ | .merge => true

namespace StressRun

variable {cfg : StressConfig}

/-- The locked part of a worker. -/
def merge (run : StressRun cfg) (counts : WorkerCounts) : StressRun cfg :=
  { run with
    packetsSent := run.packetsSent + counts.sent
    packetsDropped := run.packetsDropped + counts.dropped
    peakQueueDepth :=
      if run.peakQueueDepth < counts.peak then counts.peak else run.peakQueueDepth
    latencySamplesNs := run.latencySamplesNs ++ counts.samples }

/-- One action. -/
def perform (sine : ℚ → Set.Icc (-1 : ℚ) 1) (run : StressRun cfg) :
    StressAction cfg → Option (StressRun cfg)
  | .open runStart =>
      if run.runStart = none then some { run with runStart := some runStart } else none
  | .step index now step =>
      if step.enabled run.runStart then
        ((run.workers index).perform sine cfg index (now, step)).map fun worker =>
          let run := { run with workers := Function.update run.workers index worker }
          if step = .merge then run.merge worker.counts else run
      else
        none

/-- All threads have ended. -/
def Joined (run : StressRun cfg) : Prop :=
  ∀ index, (run.workers index).phase = .merged ∨ ∃ t0Ns, (run.workers index).phase = .raised t0Ns

end StressRun

/-- `StressResult`. -/
structure StressResult where
  pattern : String
  durationSeconds : ℚ
  targetPps : Int
  achievedPps : ℚ
  packetsSent : Nat
  packetsDropped : Nat
  peakQueueDepth : Nat
  latency : LatencyStats
  deriving DecidableEq, Repr

/-- `drop_rate`. -/
def StressResult.dropRate (result : StressResult) : ℚ :=
  if result.packetsSent = 0 then 0 else result.packetsDropped / result.packetsSent

/-- The end of `run`, `actual_duration` after the event was set; none is an `IndexError`. -/
def StressRun.result {cfg : StressConfig} (run : StressRun cfg) (actualDuration : ℚ) :
    Option StressResult :=
  (LatencyStats.fromSamples (run.latencySamplesNs.map fun ns : Int => (ns : ℚ) / 1000)).map
    fun latency => {
      pattern := cfg.pattern.value
      durationSeconds := actualDuration
      targetPps := cfg.targetPps
      achievedPps := if 0 < actualDuration then run.packetsSent / actualDuration else 0
      packetsSent := run.packetsSent
      packetsDropped := run.packetsDropped
      peakQueueDepth := run.peakQueueDepth
      latency := latency }

/-! ## What a step does -/

/-- The outcomes of the steps, each in the phase it leaves. -/
inductive Worker.Moves (sine : ℚ → Set.Icc (-1 : ℚ) 1) (cfg : StressConfig) (worker : Worker)
    (now : Int) : WorkerStep → Worker → Prop where
  | spawn : worker.phase = .created → Moves sine cfg worker now .spawn { worker with
      phase := .waiting
      now := now
      deadline := StressTester.seconds now + cfg.durationSeconds }
  | release (runStart : ℚ) : worker.phase = .waiting →
      Moves sine cfg worker now (.release runStart) { worker with
        phase := .looping (StressTester.seconds now)
        now := now
        runStart := runStart }
  | entered {wakes : ℚ} : worker.phase = .looping wakes → wakes ≤ StressTester.seconds now →
      StressTester.seconds now < worker.deadline →
      Moves sine cfg worker now .check { worker with phase := .running, now := now }
  | left {wakes : ℚ} : worker.phase = .looping wakes →
      Moves sine cfg worker now .check { worker with phase := .leaving, now := now }
  | pace (elapsed : ℚ) : worker.phase = .running → Moves sine cfg worker now .pace { worker with
      phase := .paced (StressTester.sleepSeconds (cfg.perThreadPps *
        StressTester.rateMultiplier sine cfg.pattern elapsed cfg.burstMultiplier))
      now := now }
  | call {sleepS : ℚ} : worker.phase = .paced sleepS →
      Moves sine cfg worker now .call { worker with phase := .processing sleepS now, now := now }
  | raised {sleepS : ℚ} {t0Ns : Int} : worker.phase = .processing sleepS t0Ns →
      Moves sine cfg worker now (.answer none) { worker with phase := .raised t0Ns, now := now }
  | answered {sleepS : ℚ} {t0Ns : Int} (dropped : Bool) :
      worker.phase = .processing sleepS t0Ns →
      Moves sine cfg worker now (.answer (some dropped)) { worker with
        phase := .answered sleepS t0Ns
        now := now
        counts := worker.counts.add dropped (now - t0Ns) }
  | settle {sleepS wakes : ℚ} {t0Ns : Int} (depth : Option Nat) :
      worker.phase = .answered sleepS t0Ns → StressTester.seconds t0Ns + sleepS ≤ wakes →
      Moves sine cfg worker now (.settle depth) { worker with
        phase := .looping wakes
        now := now
        counts := { worker.counts with peak := max worker.counts.peak (depth.getD 0) } }
  | merge : worker.phase = .leaving →
      Moves sine cfg worker now .merge { worker with phase := .merged, now := now }

/-- The throttle sleeps until `sleep_s` after the call began, if it is not that late yet. -/
theorem StressTester.le_wakes (sleepS : ℚ) (t0Ns now : Int) :
    seconds t0Ns + sleepS ≤
      if 0 < sleepS - seconds (now - t0Ns) then seconds now + (sleepS - seconds (now - t0Ns))
      else seconds now := by
  have difference : seconds (now - t0Ns) = seconds now - seconds t0Ns := by
    rw [seconds, Int.cast_sub, sub_div, seconds, seconds]
  rw [difference]
  split <;> linarith

theorem Worker.perform_moves {sine : ℚ → Set.Icc (-1 : ℚ) 1} {cfg : StressConfig}
    {threadId : Nat} {worker next : Worker} {now : Int} {step : WorkerStep}
    (performs : worker.perform sine cfg threadId (now, step) = some next) :
    worker.now ≤ now ∧ worker.Moves sine cfg now step next := by
  rw [perform] at performs
  split at performs
  next later =>
    refine ⟨later, ?_⟩
    cases step with
    | spawn | release | pace | call | merge =>
        simp only [advance] at performs
        split at performs
        next stands =>
          cases performs
          constructor
          exact stands
        next => cases performs
    | check =>
        simp only [advance] at performs
        split at performs
        next wakes stands =>
          split at performs
          next awake =>
            cases performs
            split
            next early => exact .entered stands awake early
            next => exact .left stands
          next => cases performs
        next => cases performs
    | answer outcome =>
        simp only [advance] at performs
        split at performs
        next sleepS t0Ns stands =>
          cases outcome with
          | none =>
              cases performs
              exact .raised stands
          | some dropped =>
              cases performs
              exact .answered dropped stands
        next => cases performs
    | settle depth =>
        simp only [advance] at performs
        split at performs
        next sleepS t0Ns stands =>
          cases performs
          exact .settle depth stands (StressTester.le_wakes _ _ _)
        next => cases performs
  next => cases performs

end SmartBandwidth

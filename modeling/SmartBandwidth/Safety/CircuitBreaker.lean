import SmartBandwidth.Safety.SafetyGuard
import SmartBandwidth.Lib.Streak

/-!
# The circuit breaker over a history of outcomes

The optimizer calls that a run makes since its last reset form a history of outcomes.
Noting each outcome next to the optimizer's own state changes no answer of the guard, and
the state of the breaker is a function of the history.
-/

namespace SmartBandwidth

universe u v

variable {σ : Type u} {ρ : Type v}

/-- Whether an answer is an exception. -/
def raises : Except Raised ProcessResult → Bool
  | .ok _ => false
  | .error _ => true

/-- A wrapped optimizer with a note of each of its outcomes. -/
def WrappedOptimizer.noted (optimizer : WrappedOptimizer σ ρ) :
    WrappedOptimizer (σ × List Bool) ρ :=
  fun state packet readings =>
    let (answer, system) := optimizer state.1 packet readings
    (answer, (system, state.2 ++ [raises answer]))

namespace SafetyGuard

/-- One call with the outcomes noted; a reset starts a new history. -/
def watch (optimizer : WrappedOptimizer σ ρ) (state : SafetyGuard × (σ × List Bool))
    (call : SafetyCall ρ) : Option ProcessResult × (SafetyGuard × (σ × List Bool)) :=
  let (reply, guard, system, history) := SafetyGuard.call optimizer.noted state call
  match call with
  | .reset => (reply, (guard, (system, [])))
  | .process .. | .setFailMode _ => (reply, (guard, (system, history)))

/-- The outcomes of the optimizer calls that a run makes since its last reset. -/
def history (optimizer : WrappedOptimizer σ ρ) (guard : SafetyGuard) (system : σ)
    (calls : List (SafetyCall ρ)) : List Bool :=
  (Machine.run (watch optimizer) (guard, (system, [])) calls).2.2.2

/-! ## Watching changes nothing -/

/-- A watched process call is a process call of the unwatched guard. -/
theorem process_noted (optimizer : WrappedOptimizer σ ρ) (guard : SafetyGuard) (system : σ)
    (history : List Bool) (packet : PacketRef) (readings : ρ) (now : ℚ) :
    (guard.process optimizer.noted (system, history) packet readings now).1 =
        (guard.process optimizer system packet readings now).1 ∧
      (guard.process optimizer.noted (system, history) packet readings now).2.1 =
        (guard.process optimizer system packet readings now).2.1 ∧
      (guard.process optimizer.noted (system, history) packet readings now).2.2.1 =
        (guard.process optimizer system packet readings now).2.2 := by
  by_cases opened : guard.state = .bypassed
  · simp [process, opened]
  · cases answers : optimizer system packet readings with
    | mk answer next =>
        cases answer <;>
          simp [process, opened, WrappedOptimizer.noted, answers]

/-- A watched guard and the guard it watches. -/
private def Watches (watched : SafetyGuard × (σ × List Bool)) (plain : SafetyGuard × σ) : Prop :=
  watched.1 = plain.1 ∧ watched.2.1 = plain.2

private theorem watch_agrees (optimizer : WrappedOptimizer σ ρ)
    (watched : SafetyGuard × (σ × List Bool)) (plain : SafetyGuard × σ) (call : SafetyCall ρ)
    (watches : Watches watched plain) :
    (watch optimizer watched call).1 = (SafetyGuard.call optimizer plain call).1 ∧
      Watches (watch optimizer watched call).2 (SafetyGuard.call optimizer plain call).2 := by
  obtain rfl : (watched.1, watched.2.1) = plain := Prod.ext watches.1 watches.2
  cases call with
  | process packet readings now =>
      obtain ⟨resultEq, guardEq, systemEq⟩ :=
        process_noted optimizer watched.1 watched.2.1 watched.2.2 packet readings now
      exact ⟨congrArg some resultEq, guardEq, systemEq⟩
  | reset => exact ⟨rfl, rfl, rfl⟩
  | setFailMode value => exact ⟨rfl, rfl, rfl⟩

/-- A watched run answers as the run does and ends in the same guard and optimizer. -/
theorem run_watch (optimizer : WrappedOptimizer σ ρ) (guard : SafetyGuard) (system : σ)
    (calls : List (SafetyCall ρ)) :
    (Machine.run (watch optimizer) (guard, (system, [])) calls).1 =
        (Machine.run (SafetyGuard.call optimizer) (guard, system) calls).1 ∧
      (Machine.run (watch optimizer) (guard, (system, [])) calls).2.1 =
        (Machine.run (SafetyGuard.call optimizer) (guard, system) calls).2.1 ∧
      (Machine.run (watch optimizer) (guard, (system, [])) calls).2.2.1 =
        (Machine.run (SafetyGuard.call optimizer) (guard, system) calls).2.2 := by
  have initial : Watches (guard, (system, [])) (guard, system) := ⟨rfl, rfl⟩
  exact Machine.run_simulation (watch_agrees optimizer) initial calls

/-! ## The breaker and its history -/

/-- The history has tripped the breaker: as many errors as the threshold, in a row. -/
def Trips (circuitThreshold : Int) (history : List Bool) : Prop :=
  0 < circuitThreshold ∧ Streak.Contains history circuitThreshold.toNat

/-- The guard's fields as a function of the history of outcomes. -/
structure Tracks (circuitThreshold : Int) (guard : SafetyGuard) (history : List Bool) : Prop where
  threshold : guard.circuitThreshold = circuitThreshold
  streak : Streak.EndsWith history guard.consecutiveErrors
  errors : guard.totalErrors = history.count true
  bypassed : guard.state = .bypassed ↔ Trips circuitThreshold history
  otherwise : guard.state ≠ .bypassed →
    guard.state = if history.getLast? = some true then .degraded else .healthy

variable {circuitThreshold : Int} {guard : SafetyGuard} {outcomes : List Bool}

/-- An empty history trips no breaker. -/
theorem not_trips_nil (circuitThreshold : Int) : ¬ Trips circuitThreshold [] := by
  rintro ⟨positive, contains⟩
  exact Streak.not_contains_nil (Int.lt_toNat.mpr positive) contains

theorem tracks_init (startTime : ℚ) (failMode : FailMode) (circuitThreshold : Int) :
    Tracks circuitThreshold (.init startTime failMode circuitThreshold) [] where
  threshold := rfl
  streak := Streak.endsWith_nil
  errors := rfl
  bypassed := by simp [init, not_trips_nil]
  otherwise := by simp [init]

/-- A reset tracks the empty history. -/
theorem Tracks.reset (tracks : Tracks circuitThreshold guard outcomes) :
    Tracks circuitThreshold guard.reset [] where
  threshold := tracks.threshold
  streak := Streak.endsWith_nil
  errors := rfl
  bypassed := by simp [SafetyGuard.reset, not_trips_nil]
  otherwise := by simp [SafetyGuard.reset]

/-- A success of a closed circuit leaves it closed and healthy. -/
theorem Tracks.success (tracks : Tracks circuitThreshold guard outcomes)
    (closed : guard.state ≠ .bypassed) :
    Tracks circuitThreshold guard.enter.2.recordSuccess (outcomes ++ [false]) where
  threshold := tracks.threshold
  streak := Streak.endsWith_unmarked outcomes
  errors := by simpa [recordSuccess] using tracks.errors
  bypassed := by
    have ends := Streak.endsWith_unmarked outcomes
    rw [recordSuccess_bypassed_iff, Trips, Streak.contains_concat ends]
    constructor
    · intro opened
      exact absurd opened closed
    · rintro ⟨positive, short | contains⟩
      · exact absurd (Int.toNat_eq_zero.mp (Nat.le_zero.mp short)) (not_le.mpr positive)
      · exact tracks.bypassed.mpr ⟨positive, contains⟩
  otherwise := by
    intro _
    cases stateEq : guard.state with
    | healthy => simp [recordSuccess, stateEq]
    | degraded => simp [recordSuccess, stateEq]
    | bypassed => exact absurd stateEq closed

/-- An error of a closed circuit opens it exactly when it completes a streak. -/
theorem Tracks.error (tracks : Tracks circuitThreshold guard outcomes)
    (closed : guard.state ≠ .bypassed) (packet : PacketRef) (raised : Raised) (now : ℚ) :
    Tracks circuitThreshold (guard.enter.2.handleError packet raised now).2
      (outcomes ++ [true]) where
  threshold := by simp [handleError, recordError, tracks.threshold]
  streak := by simpa [handleError, recordError] using tracks.streak.marked
  errors := by simpa [handleError, recordError] using tracks.errors
  bypassed := by
    have ends := tracks.streak.marked
    have untripped := mt tracks.bypassed.mpr closed
    simp only [handleError, bypassResult_guard, recordError_bypassed_iff, enter_guard]
    rw [tracks.threshold, Trips, Streak.contains_concat ends, ← Int.toNat_le]
    constructor
    · rintro ⟨positive, reaches⟩
      exact ⟨positive, .inl reaches⟩
    · rintro ⟨positive, reaches | contains⟩
      · exact ⟨positive, reaches⟩
      · exact absurd ⟨positive, contains⟩ untripped
  otherwise := by
    simp only [handleError, bypassResult_guard, recordError]
    split
    next => simp
    next => simp

/-- What a watched `process` call does to the guard and to the history. -/
inductive Notes (guard : SafetyGuard) (history : List Bool) (packet : PacketRef) (now : ℚ) :
    SafetyGuard → List Bool → Prop where
  | opened : guard.state = .bypassed →
      Notes guard history packet now
        { guard with totalIn := guard.totalIn + 1, bypassCount := guard.bypassCount + 1 } history
  | succeeded : guard.state ≠ .bypassed →
      Notes guard history packet now guard.enter.2.recordSuccess (history ++ [false])
  | failed (raised : Raised) : guard.state ≠ .bypassed →
      Notes guard history packet now (guard.enter.2.handleError packet raised now).2
        (history ++ [true])

theorem watch_notes (optimizer : WrappedOptimizer σ ρ)
    (state : SafetyGuard × (σ × List Bool)) (packet : PacketRef) (readings : ρ) (now : ℚ) :
    Notes state.1 state.2.2 packet now
      (watch optimizer state (.process packet readings now)).2.1
      (watch optimizer state (.process packet readings now)).2.2.2 := by
  simp only [watch, SafetyGuard.call]
  have processes := state.1.process_processes optimizer.noted state.2 packet readings now
  generalize state.1.process optimizer.noted state.2 packet readings now = outcome
    at processes ⊢
  cases processes with
  | opened opened => exact .opened opened
  | succeeded closed answers =>
      simp only [WrappedOptimizer.noted, Prod.mk.injEq] at answers
      rw [← answers.2, answers.1]
      exact .succeeded closed
  | failed closed answers =>
      simp only [WrappedOptimizer.noted, Prod.mk.injEq] at answers
      rw [← answers.2, answers.1]
      exact .failed _ closed

/-- A watched guard is in step with the outcomes noted so far. -/
def TracksState (circuitThreshold : Int) (state : SafetyGuard × (σ × List Bool)) : Prop :=
  Tracks circuitThreshold state.1 state.2.2

/-- Every call keeps the guard in step with the noted outcomes. -/
theorem watch_tracks (optimizer : WrappedOptimizer σ ρ)
    (state : SafetyGuard × (σ × List Bool)) (call : SafetyCall ρ)
    (tracks : TracksState circuitThreshold state) :
    TracksState circuitThreshold (watch optimizer state call).2 := by
  rw [TracksState] at tracks ⊢
  cases call with
  | process packet readings now =>
      have notes := watch_notes optimizer state packet readings now
      generalize (watch optimizer state (.process packet readings now)).2.1 = guard at notes ⊢
      generalize (watch optimizer state (.process packet readings now)).2.2.2 = history at notes ⊢
      cases notes with
      | opened => exact ⟨tracks.threshold, tracks.streak, tracks.errors, tracks.bypassed,
          tracks.otherwise⟩
      | succeeded closed => exact tracks.success closed
      | failed raised closed => exact tracks.error closed packet raised now
  | reset => exact tracks.reset
  | setFailMode value => exact ⟨tracks.threshold, tracks.streak, tracks.errors, tracks.bypassed,
      tracks.otherwise⟩

/-- A packet counts once: as a success, or as a bypass. -/
def Accounted (state : SafetyGuard × (σ × List Bool)) : Prop :=
  state.1.totalIn = state.2.2.count false + state.1.bypassCount

theorem watch_accounted (optimizer : WrappedOptimizer σ ρ)
    (state : SafetyGuard × (σ × List Bool)) {call : SafetyCall ρ} (noReset : call ≠ .reset)
    (accounted : Accounted state) : Accounted (watch optimizer state call).2 := by
  rw [Accounted] at accounted ⊢
  cases call with
  | process packet readings now =>
      have notes := watch_notes optimizer state packet readings now
      generalize (watch optimizer state (.process packet readings now)).2.1 = guard at notes ⊢
      generalize (watch optimizer state (.process packet readings now)).2.2.2 = history at notes ⊢
      cases notes with
      | opened => exact congrArg (· + 1) accounted
      | succeeded closed =>
          simp [recordSuccess, accounted]
          omega
      | failed raised closed =>
          simp [handleError, recordError, accounted]
          omega
  | reset => exact absurd rfl noReset
  | setFailMode value => exact accounted

/-- While the circuit is open a call forwards its packet and makes no optimizer call. -/
theorem call_of_bypassed (optimizer : WrappedOptimizer σ ρ) {state : SafetyGuard × σ}
    (opened : state.1.state = .bypassed) (packet : PacketRef) (readings : ρ) (now : ℚ) :
    ∃ next, SafetyGuard.call optimizer state (.process packet readings now) =
      (some { packet := packet, dropped := false }, (next, state.2)) := by
  simp only [SafetyGuard.call]
  have processes := state.1.process_processes optimizer state.2 packet readings now
  generalize state.1.process optimizer state.2 packet readings now = outcome at processes ⊢
  cases processes with
  | opened => exact ⟨_, rfl⟩
  | succeeded closed => exact absurd opened closed
  | failed closed => exact absurd opened closed

/-- The circuit breaker is a function of the outcomes of the optimizer calls since the last
reset.  It is open exactly when some threshold of them in a row were errors, and otherwise
shows the last of them; the errors are counted since the reset; without a reset every packet
is a success or a bypass; and while the circuit is open packets are forwarded and no
optimizer call is made. -/
theorem breaker_follows_history (optimizer : WrappedOptimizer σ ρ) (system : σ)
    (startTime now : ℚ) (failMode : FailMode) (circuitThreshold : Int)
    (calls : List (SafetyCall ρ)) :
    let fresh := SafetyGuard.init startTime failMode circuitThreshold
    let final := (Machine.run (SafetyGuard.call optimizer) (fresh, system) calls).2
    let outcomes := history optimizer fresh system calls
    ((final.1.health now).state = .bypassed ↔
        0 < circuitThreshold ∧ Streak.Contains outcomes circuitThreshold.toNat) ∧
      ((final.1.health now).state ≠ .bypassed → (final.1.health now).state =
        if outcomes.getLast? = some true then .degraded else .healthy) ∧
      (final.1.health now).totalErrors = outcomes.count true ∧
      (SafetyCall.reset ∉ calls →
        final.1.totalIn = outcomes.count false + final.1.bypassCount) ∧
      (final.1.state = .bypassed → ∀ packet readings time,
        history optimizer fresh system (calls ++ [.process packet readings time]) = outcomes ∧
          ∃ next, SafetyGuard.call optimizer final (.process packet readings time) =
            (some { packet := packet, dropped := false }, (next, final.2))) := by
  intro fresh final outcomes
  obtain ⟨_, sameGuard, sameSystem⟩ := run_watch optimizer fresh system calls
  have tracks : Tracks circuitThreshold final.1 outcomes := by
    have initial : TracksState circuitThreshold (fresh, (system, ([] : List Bool))) :=
      tracks_init startTime failMode circuitThreshold
    have watched := Machine.run_invariant (watch_tracks optimizer) initial calls
    rwa [TracksState, sameGuard] at watched
  refine ⟨tracks.bypassed, tracks.otherwise, tracks.errors, ?_, ?_⟩
  · intro unreset
    have accounted : Accounted (Machine.run (watch optimizer) (fresh, (system, [])) calls).2 := by
      apply Machine.run_invariant_of_mem
      · intro state call member
        exact watch_accounted optimizer state fun isReset => unreset (isReset ▸ member)
      · rfl
    rwa [Accounted, sameGuard] at accounted
  · intro opened packet readings time
    refine ⟨?_, call_of_bypassed optimizer opened packet readings time⟩
    rw [← sameGuard] at opened
    obtain ⟨next, forwards⟩ := call_of_bypassed optimizer.noted opened packet readings time
    rw [history, Machine.run_snoc_final, watch, forwards]
    rfl

end SafetyGuard

end SmartBandwidth

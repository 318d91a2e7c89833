import SmartBandwidth.Pipeline.Optimizer
import SmartBandwidth.Lib.Machine

/-!
# The safety guard

The guard wraps an optimizer: it answers for it when it raises, and stops calling it
after a number of consecutive errors.  Each section that the source runs under the
guard's lock is one function here, so that the calls of one thread compose them in order
and the calls of several interleave them.
-/

namespace SmartBandwidth

/-- What happens to a packet when the optimizer raises. -/
inductive FailMode where
  | failOpen
  | failClosed
  deriving DecidableEq, Repr

/-- The string value of a fail mode. -/
def FailMode.value : FailMode → String
  | .failOpen => "fail_open"
  | .failClosed => "fail_closed"

/-- The state of the circuit breaker. -/
inductive CircuitState where
  | healthy
  | degraded
  | bypassed
  deriving DecidableEq, Repr

/-- The string value of a circuit state. -/
def CircuitState.value : CircuitState → String
  | .healthy => "healthy"
  | .degraded => "degraded"
  | .bypassed => "bypassed"

/-- What the guard reads of an exception: `type(exc).__name__` and `str(exc)`. -/
structure Raised where
  typeName : String
  text : String
  deriving DecidableEq, Repr

/-- Snapshot of the guard's health. -/
structure HealthStatus where
  state : CircuitState
  failMode : FailMode
  totalErrors : Nat
  consecutiveErrors : Nat
  circuitThreshold : Int
  lastError : String
  lastErrorTime : Option ℚ
  uptimeSeconds : ℚ
  deriving DecidableEq, Repr

/-- `is_healthy`. -/
def HealthStatus.isHealthy (status : HealthStatus) : Bool := status.state = .healthy

/-- The fields of a guard, less the optimizer it wraps. -/
structure SafetyGuard where
  failMode : FailMode
  circuitThreshold : Int
  state : CircuitState
  totalErrors : Nat
  consecutiveErrors : Nat
  lastError : String
  lastErrorTime : Option ℚ
  startTime : ℚ
  totalIn : Nat
  bypassCount : Nat
  deriving DecidableEq, Repr

namespace SafetyGuard

/-- `__init__`, at the reading `startTime` of the clock. -/
def init (startTime : ℚ) (failMode : FailMode := .failOpen) (circuitThreshold : Int := 5) :
    SafetyGuard where
  failMode := failMode
  circuitThreshold := circuitThreshold
  state := .healthy
  totalErrors := 0
  consecutiveErrors := 0
  lastError := ""
  lastErrorTime := none
  startTime := startTime
  totalIn := 0
  bypassCount := 0

/-! ## The sections under the lock -/

/-- The section `process` opens with: count the packet and read whether the circuit is
open. -/
def enter (guard : SafetyGuard) : Bool × SafetyGuard :=
  (guard.state = .bypassed, { guard with totalIn := guard.totalIn + 1 })

/-- The section after an optimizer call that returned. -/
def recordSuccess (guard : SafetyGuard) : SafetyGuard :=
  { guard with
    consecutiveErrors := 0
    state := if guard.state = .degraded then .healthy else guard.state }

/-- The section of `_handle_error`: record the error, update the state, and read the fail
mode. -/
def recordError (guard : SafetyGuard) (raised : Raised) (now : ℚ) : FailMode × SafetyGuard :=
  let consecutiveErrors := guard.consecutiveErrors + 1
  (guard.failMode,
    { guard with
      totalErrors := guard.totalErrors + 1
      consecutiveErrors := consecutiveErrors
      lastError := raised.typeName ++ ": " ++ raised.text
      lastErrorTime := some now
      state :=
        if 0 < guard.circuitThreshold ∧ guard.circuitThreshold ≤ consecutiveErrors then
          .bypassed
        else
          .degraded })

/-- `_bypass_result`. -/
def bypassResult (guard : SafetyGuard) (packet : PacketRef) (reason : String := "bypass")
    (forceDrop : Bool := false) : ProcessResult × SafetyGuard :=
  let guard := { guard with bypassCount := guard.bypassCount + 1 }
  if forceDrop then
    ({ packet := packet, dropped := true, dropReason := reason }, guard)
  else
    ({ packet := packet, dropped := false, dropReason := "" }, guard)

/-- `reset`. -/
def reset (guard : SafetyGuard) : SafetyGuard :=
  { guard with
    state := .healthy
    totalErrors := 0
    consecutiveErrors := 0
    lastError := ""
    lastErrorTime := none
    bypassCount := 0 }

/-- The setter of `fail_mode`. -/
def setFailMode (guard : SafetyGuard) (value : FailMode) : SafetyGuard :=
  { guard with failMode := value }

/-- `health`. -/
def health (guard : SafetyGuard) (now : ℚ) : HealthStatus where
  state := guard.state
  failMode := guard.failMode
  totalErrors := guard.totalErrors
  consecutiveErrors := guard.consecutiveErrors
  circuitThreshold := guard.circuitThreshold
  lastError := guard.lastError
  lastErrorTime := guard.lastErrorTime
  uptimeSeconds := now - guard.startTime

/-! ## Calls of one thread -/

/-- The reason `_handle_error` hands on. -/
def errorReason (raised : Raised) : String := "error:" ++ raised.typeName

/-- `_handle_error`. -/
def handleError (guard : SafetyGuard) (packet : PacketRef) (raised : Raised) (now : ℚ) :
    ProcessResult × SafetyGuard :=
  let (failMode, guard) := guard.recordError raised now
  guard.bypassResult packet (errorReason raised) (failMode = .failClosed)

end SafetyGuard

universe u v

/-- A wrapped optimizer: its answer to a packet, or what it raises, and what it leaves
behind; `ρ` is what it reads of the world during the call. -/
abbrev WrappedOptimizer (σ : Type u) (ρ : Type v) :=
  σ → PacketRef → ρ → Except Raised ProcessResult × σ

namespace SafetyGuard

variable {σ : Type u} {ρ : Type v}

/-- `process`; `now` is the reading of the clock that `_handle_error` may take. -/
def process (optimizer : WrappedOptimizer σ ρ) (guard : SafetyGuard) (system : σ)
    (packet : PacketRef) (readings : ρ) (now : ℚ) : ProcessResult × SafetyGuard × σ :=
  let (bypassed, guard) := guard.enter
  if bypassed then
    let (result, guard) := guard.bypassResult packet "circuit_open"
    (result, guard, system)
  else
    match optimizer system packet readings with
    | (.ok result, system) => (result, guard.recordSuccess, system)
    | (.error raised, system) =>
        let (result, guard) := guard.handleError packet raised now
        (result, guard, system)

end SafetyGuard

/-- Calls on a guard. -/
inductive SafetyCall (ρ : Type v) where
  | process (packet : PacketRef) (readings : ρ) (now : ℚ)
  | reset
  | setFailMode (value : FailMode)

/-- One call on a guard and the optimizer it wraps; `process` answers with a result. -/
def SafetyGuard.call {σ : Type u} {ρ : Type v} (optimizer : WrappedOptimizer σ ρ)
    (state : SafetyGuard × σ) : SafetyCall ρ → Option ProcessResult × (SafetyGuard × σ)
  | .process packet readings now =>
      let (result, guard, system) := state.1.process optimizer state.2 packet readings now
      (some result, (guard, system))
  | .reset => (none, (state.1.reset, state.2))
  | .setFailMode value => (none, (state.1.setFailMode value, state.2))

/-! ## What the sections write -/

namespace SafetyGuard

variable (guard : SafetyGuard)

@[simp] theorem enter_bypassed : guard.enter.1 = decide (guard.state = .bypassed) := rfl

@[simp] theorem enter_guard :
    guard.enter.2 = { guard with totalIn := guard.totalIn + 1 } := rfl

@[simp] theorem bypassResult_guard (packet : PacketRef) (reason : String) (forceDrop : Bool) :
    (guard.bypassResult packet reason forceDrop).2 =
      { guard with bypassCount := guard.bypassCount + 1 } := by
  rw [bypassResult]
  split <;> rfl

@[simp] theorem bypassResult_packet (packet : PacketRef) (reason : String) (forceDrop : Bool) :
    (guard.bypassResult packet reason forceDrop).1.packet = packet := by
  rw [bypassResult]
  split <;> rfl

@[simp] theorem bypassResult_dropped (packet : PacketRef) (reason : String) (forceDrop : Bool) :
    (guard.bypassResult packet reason forceDrop).1.dropped = forceDrop := by
  cases forceDrop <;> rfl

/-- An error opens the circuit exactly when it completes the threshold. -/
theorem recordError_bypassed_iff (raised : Raised) (now : ℚ) :
    (guard.recordError raised now).2.state = .bypassed ↔
      0 < guard.circuitThreshold ∧
        guard.circuitThreshold ≤ (guard.consecutiveErrors + 1 : Nat) := by
  simp only [recordError]
  split
  next tripped =>
    constructor
    · intro _
      exact tripped
    · intro _
      rfl
  next short =>
    constructor
    · intro impossible
      cases impossible
    · intro tripped
      exact absurd tripped short

/-- A success leaves the circuit open that it finds open, and closes no other. -/
theorem recordSuccess_bypassed_iff :
    guard.recordSuccess.state = .bypassed ↔ guard.state = .bypassed := by
  cases stateEq : guard.state <;> simp [recordSuccess, stateEq]

/-! ## The three outcomes of `process` -/

section Process

variable {σ : Type u} {ρ : Type v} (optimizer : WrappedOptimizer σ ρ) (system : σ)
variable (packet : PacketRef) (readings : ρ) (now : ℚ)

/-- The outcomes of `process`: the circuit is open, the optimizer returns, or it raises. -/
inductive Processes : ProcessResult × SafetyGuard × σ → Prop where
  | opened : guard.state = .bypassed →
      Processes ({ packet := packet, dropped := false },
        { guard with totalIn := guard.totalIn + 1, bypassCount := guard.bypassCount + 1 },
        system)
  | succeeded {result : ProcessResult} {next : σ} : guard.state ≠ .bypassed →
      optimizer system packet readings = (.ok result, next) →
      Processes (result, guard.enter.2.recordSuccess, next)
  | failed {raised : Raised} {next : σ} : guard.state ≠ .bypassed →
      optimizer system packet readings = (.error raised, next) →
      Processes ((guard.enter.2.handleError packet raised now).1,
        (guard.enter.2.handleError packet raised now).2, next)

theorem process_processes :
    guard.Processes optimizer system packet readings now
      (guard.process optimizer system packet readings now) := by
  rw [process]
  by_cases opened : guard.state = .bypassed
  · simp only [enter, opened, decide_true, ↓reduceIte, bypassResult, Bool.false_eq_true]
    exact opened ▸ .opened opened
  · simp only [enter, opened, decide_false, Bool.false_eq_true, ↓reduceIte]
    cases answers : optimizer system packet readings with
    | mk answer next =>
        cases answer with
        | ok result => exact .succeeded opened answers
        | error raised => exact .failed opened answers

end Process

end SafetyGuard

end SmartBandwidth

import SmartBandwidth.Safety.SafetyGuard
import SmartBandwidth.Lib.Replay
import Mathlib.Logic.Function.Basic

/-!
# Concurrent calls on one guard

Any number of calls of `process` run on one guard.  A call is the sequence of its locked
sections and of the optimizer call between them, which takes no lock of the guard; the
actions of different calls interleave freely.
-/

namespace SmartBandwidth

/-- Identity of one call of `process`. -/
abbrev CallId := Nat

/-- How far a call has come. -/
inductive CallPhase where
  | idle
  | calling (packet : PacketRef)
  | returned (result : ProcessResult)
  | raised (packet : PacketRef) (raised : Raised)
  | bypassing (packet : PacketRef) (reason : String) (forceDrop : Bool)
  | finished (result : ProcessResult)

/-- A guard and the calls on it. -/
structure GuardedCalls where
  guard : SafetyGuard
  phase : CallId → CallPhase

/-- The atomic steps of calls on a guard. -/
inductive CallAction where
  | enter (call : CallId) (packet : PacketRef)
  | optimizerReturns (call : CallId) (result : ProcessResult)
  | optimizerRaises (call : CallId) (raised : Raised)
  | recordSuccess (call : CallId)
  | recordError (call : CallId) (now : ℚ)
  | bypass (call : CallId)
  | reset
  | setFailMode (value : FailMode)

namespace GuardedCalls

/-- A guard on which no call has started. -/
def start (guard : SafetyGuard) : GuardedCalls where
  guard := guard
  phase := fun _ => .idle

/-- Move one call on. -/
def advance (calls : GuardedCalls) (call : CallId) (guard : SafetyGuard) (phase : CallPhase) :
    GuardedCalls where
  guard := guard
  phase := Function.update calls.phase call phase

/-- One atomic step, if the call it belongs to has come to it. -/
def perform (calls : GuardedCalls) : CallAction → Option GuardedCalls
  | .enter call packet =>
      match calls.phase call with
      | .idle =>
          let (bypassed, guard) := calls.guard.enter
          some (calls.advance call guard
            (if bypassed then .bypassing packet "circuit_open" false else .calling packet))
      | _ => none
  | .optimizerReturns call result =>
      match calls.phase call with
      | .calling _ => some (calls.advance call calls.guard (.returned result))
      | _ => none
  | .optimizerRaises call raised =>
      match calls.phase call with
      | .calling packet => some (calls.advance call calls.guard (.raised packet raised))
      | _ => none
  | .recordSuccess call =>
      match calls.phase call with
      | .returned result =>
          some (calls.advance call calls.guard.recordSuccess (.finished result))
      | _ => none
  | .recordError call now =>
      match calls.phase call with
      | .raised packet raised =>
          let (failMode, guard) := calls.guard.recordError raised now
          some (calls.advance call guard
            (.bypassing packet (SafetyGuard.errorReason raised) (failMode = .failClosed)))
      | _ => none
  | .bypass call =>
      match calls.phase call with
      | .bypassing packet reason forceDrop =>
          let (result, guard) := calls.guard.bypassResult packet reason forceDrop
          some (calls.advance call guard (.finished result))
      | _ => none
  | .reset => some { calls with guard := calls.guard.reset }
  | .setFailMode value => some { calls with guard := calls.guard.setFailMode value }

/-- What a step does to the guard. -/
inductive Touches (guard : SafetyGuard) : CallAction → SafetyGuard → Prop where
  | enter (call : CallId) (packet : PacketRef) : Touches guard (.enter call packet) guard.enter.2
  | returns (call : CallId) (result : ProcessResult) :
      Touches guard (.optimizerReturns call result) guard
  | raises (call : CallId) (raised : Raised) : Touches guard (.optimizerRaises call raised) guard
  | success (call : CallId) : Touches guard (.recordSuccess call) guard.recordSuccess
  | error (call : CallId) (raised : Raised) (now : ℚ) :
      Touches guard (.recordError call now) (guard.recordError raised now).2
  | bypass (call : CallId) (packet : PacketRef) (reason : String) (forceDrop : Bool) :
      Touches guard (.bypass call) (guard.bypassResult packet reason forceDrop).2
  | reset : Touches guard .reset guard.reset
  | setFailMode (value : FailMode) : Touches guard (.setFailMode value) (guard.setFailMode value)

theorem perform_touches {calls next : GuardedCalls} {action : CallAction}
    (performs : calls.perform action = some next) : Touches calls.guard action next.guard := by
  cases action with
  | reset =>
      cases performs
      exact .reset
  | setFailMode value =>
      cases performs
      exact .setFailMode value
  | enter call packet =>
      simp only [perform] at performs
      split at performs
      next =>
        cases performs
        exact .enter call packet
      next => cases performs
  | optimizerReturns call result =>
      simp only [perform] at performs
      split at performs
      next =>
        cases performs
        exact .returns call result
      next => cases performs
  | optimizerRaises call raised =>
      simp only [perform] at performs
      split at performs
      next =>
        cases performs
        exact .raises call raised
      next => cases performs
  | recordSuccess call =>
      simp only [perform] at performs
      split at performs
      next =>
        cases performs
        exact .success call
      next => cases performs
  | recordError call now =>
      simp only [perform] at performs
      split at performs
      next packet raised _ =>
        cases performs
        exact .error call raised now
      next => cases performs
  | bypass call =>
      simp only [perform] at performs
      split at performs
      next packet reason forceDrop _ =>
        cases performs
        exact .bypass call packet reason forceDrop
      next => cases performs

/-! ## A call of one thread -/

/-- The steps of a call that meets no other. -/
def steps {σ ρ : Type} (optimizer : WrappedOptimizer σ ρ) (guard : SafetyGuard) (system : σ)
    (call : CallId) (packet : PacketRef) (readings : ρ) (now : ℚ) : List CallAction :=
  if guard.state = .bypassed then
    [.enter call packet, .bypass call]
  else
    match (optimizer system packet readings).1 with
    | .ok result =>
        [.enter call packet, .optimizerReturns call result, .recordSuccess call]
    | .error raised =>
        [.enter call packet, .optimizerRaises call raised, .recordError call now, .bypass call]

/-- Undisturbed, the steps of a call are the call. -/
theorem replay_steps {σ ρ : Type} (optimizer : WrappedOptimizer σ ρ) (calls : GuardedCalls)
    (system : σ) {call : CallId} (fresh : calls.phase call = .idle) (packet : PacketRef)
    (readings : ρ) (now : ℚ) :
    replay perform calls
        (steps optimizer calls.guard system call packet readings now) =
      some (calls.advance call
        (calls.guard.process optimizer system packet readings now).2.1
        (.finished (calls.guard.process optimizer system packet readings now).1)) := by
  by_cases opened : calls.guard.state = .bypassed
  · simp [steps, opened, replay, perform, fresh, advance, SafetyGuard.process]
  · cases answers : optimizer system packet readings with
    | mk answer next =>
        cases answer with
        | ok result =>
            simp [steps, opened, answers, replay, perform, fresh, advance,
              SafetyGuard.process]
        | error raised =>
            simp [steps, opened, answers, replay, perform, fresh, advance,
              SafetyGuard.process, SafetyGuard.handleError, SafetyGuard.recordError]

/-! ## The latch -/

/-- Once open, the circuit stays open until a reset, at every point of the run. -/
def Latched (calls : GuardedCalls) (actions : List CallAction) : Prop :=
  ∀ before during rest, actions = before ++ (during ++ rest) → CallAction.reset ∉ during →
    ∀ opened reached, replay perform calls before = some opened →
      opened.guard.state = .bypassed → replay perform opened during = some reached →
      reached.guard.state = .bypassed

/-- A success was recorded while the circuit was open, and no reset since. -/
def SuccessWhileOpen (calls : GuardedCalls) (actions : List CallAction) : Prop :=
  ∃ before call since, actions = before ++ .recordSuccess call :: since ∧
    CallAction.reset ∉ since ∧
    ∃ opened, replay perform calls before = some opened ∧ opened.guard.state = .bypassed

/-- An error is recorded after a success that was recorded while the circuit was open, and
no reset lies between them. -/
def ErrorAfterSuccess (calls : GuardedCalls) (actions : List CallAction) : Prop :=
  ∃ before call now rest, actions = before ++ .recordError call now :: rest ∧
    SuccessWhileOpen calls before

/-- No step changes the threshold. -/
theorem Touches.circuitThreshold {guard next : SafetyGuard} {action : CallAction}
    (touches : Touches guard action next) : next.circuitThreshold = guard.circuitThreshold := by
  cases touches <;> simp [SafetyGuard.recordSuccess, SafetyGuard.recordError,
    SafetyGuard.reset, SafetyGuard.setFailMode]

/-- Only a recorded error or a reset can close an open circuit. -/
theorem Touches.open_of_open {guard next : SafetyGuard} {action : CallAction}
    (touches : Touches guard action next) (opened : guard.state = .bypassed)
    (noReset : action ≠ .reset) (noError : ∀ call now, action ≠ .recordError call now) :
    next.state = .bypassed := by
  cases touches with
  | enter => exact opened
  | returns => exact opened
  | raises => exact opened
  | success => exact guard.recordSuccess_bypassed_iff.mpr opened
  | error call raised now => exact absurd rfl (noError call now)
  | bypass => simpa using opened
  | reset => exact absurd rfl noReset
  | setFailMode => exact opened

/-- While the circuit is open its error count is up to the threshold, unless a success was
recorded since it opened. -/
private def Counted (calls : GuardedCalls) (past : List CallAction) (reached : GuardedCalls) :
    Prop :=
  replay perform calls past = some reached ∧
    (reached.guard.state = .bypassed →
      reached.guard.circuitThreshold ≤ reached.guard.consecutiveErrors ∨
        SuccessWhileOpen calls past)

private theorem SuccessWhileOpen.later {calls : GuardedCalls} {past : List CallAction}
    (success : SuccessWhileOpen calls past) {action : CallAction} (noReset : action ≠ .reset) :
    SuccessWhileOpen calls (past ++ [action]) := by
  obtain ⟨before, call, since, rfl, unreset, opened⟩ := success
  refine ⟨before, call, since ++ [action], by simp, ?_, opened⟩
  simp [unreset, noReset.symm]

private theorem Counted.step {calls reached next : GuardedCalls} {past : List CallAction}
    {action : CallAction} (counted : Counted calls past reached)
    (performs : reached.perform action = some next) :
    Counted calls (past ++ [action]) next := by
  obtain ⟨replays, count⟩ := counted
  refine ⟨replay.append_eq_some.mpr ⟨reached, replays, replay.singleton_eq_some.mpr performs⟩, ?_⟩
  intro opened
  have touches := perform_touches performs
  generalize next.guard = guard at touches opened ⊢
  cases touches with
  | enter => exact (count opened).imp_right fun success => success.later (by simp)
  | returns => exact (count opened).imp_right fun success => success.later (by simp)
  | raises => exact (count opened).imp_right fun success => success.later (by simp)
  | success call =>
      right
      exact ⟨past, call, [], rfl, by simp, reached, replays,
        reached.guard.recordSuccess_bypassed_iff.mp opened⟩
  | error call raised now =>
      left
      exact ((reached.guard.recordError_bypassed_iff raised now).mp opened).2
  | bypass call packet reason forceDrop =>
      rw [SafetyGuard.bypassResult_guard] at opened ⊢
      exact (count opened).imp_right fun success => success.later (by simp)
  | reset => cases opened
  | setFailMode => exact (count opened).imp_right fun success => success.later (by simp)

/-- A run of a fresh guard counts its errors as `Counted` says. -/
private theorem replay_counted {guard : SafetyGuard} (closed : guard.state ≠ .bypassed)
    {actions : List CallAction} {reached : GuardedCalls}
    (replays : replay perform (start guard) actions = some reached) :
    Counted (start guard) actions reached := by
  have initial : Counted (start guard) [] (start guard) :=
    ⟨rfl, fun opened => absurd opened closed⟩
  have counted := replay.invariant
    (fun _ _ _ _ before performs => Counted.step before performs) initial replays
  rwa [List.nil_append] at counted

private theorem replay_circuitThreshold {calls reached : GuardedCalls}
    {actions : List CallAction} (replays : replay perform calls actions = some reached) :
    reached.guard.circuitThreshold = calls.guard.circuitThreshold := by
  have kept (current : GuardedCalls) (action : CallAction) (next : GuardedCalls)
      (same : current.guard.circuitThreshold = calls.guard.circuitThreshold)
      (performs : current.perform action = some next) :
      next.guard.circuitThreshold = calls.guard.circuitThreshold :=
    (perform_touches performs).circuitThreshold.trans same
  exact replay.preserves kept rfl replays

/-- Where no error follows a success of an open circuit, an error finds the count at the
threshold and opens the circuit again. -/
private theorem latched_of_noErrorAfterSuccess {guard : SafetyGuard}
    (closed : guard.state ≠ .bypassed) (positive : 0 < guard.circuitThreshold)
    {actions : List CallAction}
    (harmless : guard.circuitThreshold = 1 ∨ ¬ ErrorAfterSuccess (start guard) actions) :
    Latched (start guard) actions := by
  intro before during rest
  induction during generalizing before with
  | nil =>
      intro _ _ opened reached _ isOpen arrives
      cases arrives
      exact isOpen
  | cons action during ih =>
      intro split unreset opened reached opens isOpen arrives
      rw [List.mem_cons, not_or] at unreset
      obtain ⟨next, performs, arrives⟩ := replay.cons_eq_some.mp arrives
      refine ih (before ++ [action]) (by simpa using split) unreset.2 next reached
        (replay.append_eq_some.mpr ⟨opened, opens, replay.singleton_eq_some.mpr performs⟩)
        ?_ arrives
      have touches := perform_touches performs
      by_cases noError : ∀ call now, action ≠ .recordError call now
      · exact touches.open_of_open isOpen (Ne.symm unreset.1) noError
      · simp only [not_forall, not_not] at noError
        obtain ⟨call, now, rfl⟩ := noError
        generalize next.guard = final at touches ⊢
        cases touches with
        | error call raised now =>
            have threshold : opened.guard.circuitThreshold = guard.circuitThreshold :=
              replay_circuitThreshold opens
            rw [SafetyGuard.recordError_bypassed_iff, threshold]
            refine ⟨positive, ?_⟩
            push_cast
            rcases harmless with one | harmless
            · rw [one]
              exact le_add_of_nonneg_left (Int.natCast_nonneg _)
            · rcases (replay_counted closed opens).2 isOpen with counted | success
              · rw [threshold] at counted
                exact counted.trans (by simp)
              · exact absurd ⟨before, call, now, during ++ rest, split, success⟩ harmless

/-- After a success an error cannot leave a circuit open whose threshold is above one. -/
private theorem Touches.zero_of_open {guard next : SafetyGuard} {action : CallAction}
    (touches : Touches guard action next) (zero : guard.consecutiveErrors = 0)
    (threshold : 1 < guard.circuitThreshold) (opened : next.state = .bypassed) :
    next.consecutiveErrors = 0 := by
  cases touches with
  | enter => exact zero
  | returns => exact zero
  | raises => exact zero
  | success => rfl
  | error call raised now =>
      have reaches := ((guard.recordError_bypassed_iff raised now).mp opened).2
      rw [zero] at reaches
      exact absurd reaches (not_le.mpr threshold)
  | bypass =>
      rw [SafetyGuard.bypassResult_guard]
      exact zero
  | reset => rfl
  | setFailMode => exact zero

/-- In a latched run the error count stays at zero after a success of an open circuit. -/
private theorem Latched.zero {calls : GuardedCalls} {actions : List CallAction}
    (latched : Latched calls actions) {before since rest : List CallAction}
    (split : actions = before ++ (since ++ rest)) (unreset : CallAction.reset ∉ since)
    {opened reached : GuardedCalls} (opens : replay perform calls before = some opened)
    (isOpen : opened.guard.state = .bypassed) (zero : opened.guard.consecutiveErrors = 0)
    (threshold : 1 < calls.guard.circuitThreshold)
    (arrives : replay perform opened since = some reached) :
    reached.guard.consecutiveErrors = 0 := by
  induction since generalizing before opened with
  | nil =>
      cases arrives
      exact zero
  | cons action since ih =>
      rw [List.mem_cons, not_or] at unreset
      obtain ⟨next, performs, arrives⟩ := replay.cons_eq_some.mp arrives
      have stays : next.guard.state = .bypassed := by
        refine latched before [action] (since ++ rest) split ?_ opened next opens isOpen
          (replay.singleton_eq_some.mpr performs)
        simpa using unreset.1
      have extended : actions = (before ++ [action]) ++ (since ++ rest) := by simpa using split
      refine ih extended unreset.2
        (replay.append_eq_some.mpr ⟨opened, opens, replay.singleton_eq_some.mpr performs⟩)
        stays ?_ arrives
      rw [← replay_circuitThreshold opens] at threshold
      exact (perform_touches performs).zero_of_open zero threshold stays

private theorem harmless_of_latched {guard : SafetyGuard} (positive : 0 < guard.circuitThreshold)
    {actions : List CallAction} {final : GuardedCalls}
    (replays : replay perform (start guard) actions = some final)
    (latched : Latched (start guard) actions) :
    guard.circuitThreshold = 1 ∨ ¬ ErrorAfterSuccess (start guard) actions := by
  rw [or_iff_not_imp_left]
  rintro several ⟨past, late, now, rest, splitError, before, call, since, rfl, unreset, opened,
    opens, isOpen⟩
  have threshold : 1 < guard.circuitThreshold := lt_of_le_of_ne positive (Ne.symm several)
  rw [splitError, List.append_assoc, List.cons_append, replay.append_eq_some] at replays
  obtain ⟨opened', opens', replays⟩ := replays
  obtain rfl : opened = opened' := Option.some.inj (opens.symm.trans opens')
  obtain ⟨succeeded, succeeds, replays⟩ := replay.cons_eq_some.mp replays
  obtain ⟨reached, arrives, replays⟩ := replay.append_eq_some.mp replays
  obtain ⟨failed, fails, _⟩ := replay.cons_eq_some.mp replays
  have opensSuccess : replay perform (start guard) (before ++ [.recordSuccess call]) =
      some succeeded :=
    replay.append_eq_some.mpr ⟨opened, opens, replay.singleton_eq_some.mpr succeeds⟩
  have touchesSuccess := perform_touches succeeds
  have zero : succeeded.guard.consecutiveErrors = 0 := by
    generalize succeeded.guard = succeededGuard at touchesSuccess ⊢
    cases touchesSuccess
    rfl
  have splitSuccess : actions =
      (before ++ [.recordSuccess call]) ++ (since ++ .recordError late now :: rest) := by
    simpa using splitError
  have stillZero := latched.zero splitSuccess unreset opensSuccess
    (touchesSuccess.open_of_open isOpen (by simp) (by simp)) zero threshold arrives
  have stillOpen : failed.guard.state = .bypassed := by
    refine latched before (.recordSuccess call :: (since ++ [.recordError late now])) rest
      (by simpa using splitError) (by simpa using unreset) opened failed opens isOpen ?_
    exact replay.cons_eq_some.mpr ⟨succeeded, succeeds, replay.append_eq_some.mpr
      ⟨reached, arrives, replay.singleton_eq_some.mpr fails⟩⟩
  have touchesError := perform_touches fails
  have threshold' : reached.guard.circuitThreshold = guard.circuitThreshold :=
    (replay_circuitThreshold arrives).trans (replay_circuitThreshold opensSuccess)
  generalize failed.guard = failedGuard at touchesError stillOpen
  cases touchesError with
  | error _ raised _ =>
      have reaches := ((reached.guard.recordError_bypassed_iff raised now).mp stillOpen).2
      rw [stillZero, threshold'] at reaches
      exact absurd reaches (not_le.mpr threshold)

/-- The circuit latches in a run exactly when its threshold is one, or no error is recorded
after a success that was recorded while the circuit was open, unless a reset lies between:
an error that finds the count below the threshold closes the circuit. -/
theorem latched_iff (failMode : FailMode) (startTime : ℚ) {circuitThreshold : Int}
    (positive : 0 < circuitThreshold) {actions : List CallAction} {final : GuardedCalls}
    (replays : replay perform (start (.init startTime failMode circuitThreshold)) actions =
      some final) :
    Latched (start (.init startTime failMode circuitThreshold)) actions ↔
      circuitThreshold = 1 ∨
        ¬ ErrorAfterSuccess (start (.init startTime failMode circuitThreshold)) actions := by
  have closed : (SafetyGuard.init startTime failMode circuitThreshold).state ≠ .bypassed := by
    simp [SafetyGuard.init]
  constructor
  · exact harmless_of_latched positive replays
  · exact latched_of_noErrorAfterSuccess closed positive

/-- Four calls on a guard of threshold two: two fail and open the circuit, then one that had
entered before succeeds, and the last one fails. -/
def lateFailure : List CallAction :=
  [.enter 0 0, .enter 1 1, .enter 2 2, .enter 3 3,
    .optimizerRaises 0 ⟨"error", "bad"⟩, .recordError 0 0,
    .optimizerRaises 1 ⟨"error", "bad"⟩, .recordError 1 0,
    .optimizerReturns 2 { packet := 2, dropped := false }, .recordSuccess 2,
    .optimizerRaises 3 ⟨"error", "bad"⟩, .recordError 3 0]

/-- The circuit is open after the first eight steps and degraded after the last. -/
theorem lateFailure_closes :
    (replay perform (start (.init 0 .failOpen 2)) (lateFailure.take 8)).map
        (fun calls => calls.guard.state) = some .bypassed ∧
      (replay perform (start (.init 0 .failOpen 2)) lateFailure).map
        (fun calls => calls.guard.state) = some .degraded := by
  constructor <;> rfl

theorem lateFailure_not_latched :
    ¬ Latched (start (.init 0 .failOpen 2)) lateFailure := by
  intro latched
  obtain ⟨opened, opens, isOpen⟩ := Option.map_eq_some_iff.mp lateFailure_closes.1
  obtain ⟨closed, closes, isClosed⟩ := Option.map_eq_some_iff.mp lateFailure_closes.2
  have stays := latched (lateFailure.take 8) (lateFailure.drop 8) [] (by simp)
    (by simp [lateFailure]) opened closed opens isOpen ?_
  · rw [isClosed] at stays
    cases stays
  · rw [← List.take_append_drop 8 lateFailure, replay.append_eq_some] at closes
    obtain ⟨opened', opens', closes⟩ := closes
    rw [opens] at opens'
    cases opens'
    exact closes

/-- Two of the calls fail, and none succeeds after them. -/
theorem twoFailures_latched :
    Latched (start (.init 0 .failOpen 2)) (lateFailure.take 8) := by
  apply (latched_iff .failOpen 0 (by decide) (Option.some_get (by decide : (replay perform
    (start (.init 0 .failOpen 2)) (lateFailure.take 8)).isSome = true)).symm).mpr
  right
  rintro ⟨before, call, now, rest, errorSplit, early, succeeded, since, successSplit, _⟩
  have member : CallAction.recordSuccess succeeded ∈ lateFailure.take 8 := by
    rw [errorSplit, successSplit]
    simp
  simp [lateFailure] at member

end GuardedCalls

end SmartBandwidth

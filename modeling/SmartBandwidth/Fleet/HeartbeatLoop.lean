import SmartBandwidth.Lib.Replay
import Mathlib.Data.Rat.Defs

/-!
# The heartbeat loop

A node agent sends its heartbeats from a thread that looks at a shared flag before and
after each sleep.  `stop` clears the flag and does not wait for the thread, and a later
`start` sets the flag again and creates another thread.
-/

namespace SmartBandwidth

/-! ## The agent and its threads -/

/-- The lifecycle flag and the heartbeat counters of a node agent. -/
structure NodeAgent where
  coordinatorUrl : String
  running : Bool := false
  heartbeatCount : Nat := 0
  heartbeatErrors : Nat := 0
  lastHeartbeatTime : Option ℚ := none
  deriving DecidableEq, Repr

/-- How far a heartbeat thread has come in its loop.  A thread that has seen the flag
cleared, or has died of an exception, is over. -/
inductive LoopPhase where
  | checking
  | sleeping
  | rechecking
  | sending
  | exited
  deriving DecidableEq, Repr

/-- An agent, the number of `start` calls that are about to create their thread, and the
heartbeat threads in the order of their creation. -/
structure AgentThreads where
  agent : NodeAgent
  starting : Nat
  threads : List LoopPhase
  deriving DecidableEq, Repr

/-- The atomic steps: the locked section of `start` and the creation of its thread, the
locked section of `stop`, and the steps of the threads.  A send succeeds, fails in a way
that is counted, or raises any other exception. -/
inductive AgentAction where
  | start
  | spawn
  | stop
  | check (thread : Nat)
  | sleep (thread : Nat)
  | recheck (thread : Nat)
  | sent (thread : Nat) (now : ℚ)
  | sendFailed (thread : Nat)
  | sendRaised (thread : Nat)
  deriving DecidableEq, Repr

namespace AgentThreads

/-- An agent that was never started. -/
def init (coordinatorUrl : String) : AgentThreads where
  agent := { coordinatorUrl := coordinatorUrl }
  starting := 0
  threads := []

/-- The locked section of `start`: nothing if already running; otherwise the call goes on
to create a thread if there is a coordinator. -/
def start (state : AgentThreads) : AgentThreads :=
  if state.agent.running then
    state
  else
    { state with
      agent := { state.agent with running := true }
      starting := if state.agent.coordinatorUrl ≠ "" then state.starting + 1 else state.starting }

/-- The rest of `start`: a new thread at the top of its loop. -/
def spawn (state : AgentThreads) : AgentThreads :=
  { state with
    starting := state.starting - 1
    threads := state.threads ++ [.checking] }

/-- `stop`. -/
def stop (state : AgentThreads) : AgentThreads :=
  { state with agent := { state.agent with running := false } }

/-- A thread moves on from one phase of its loop to another. -/
def move (state : AgentThreads) (thread : Nat) (source target : LoopPhase) :
    Option AgentThreads :=
  if state.threads[thread]? = some source then
    some { state with threads := state.threads.set thread target }
  else
    none

/-- The phase after a locked look at the flag. -/
def looked (state : AgentThreads) (goesOn : LoopPhase) : LoopPhase :=
  if state.agent.running then goesOn else .exited

/-- A step, if the call or the thread it belongs to has come to it. -/
def perform (state : AgentThreads) : AgentAction → Option AgentThreads
  | .start => some state.start
  | .spawn => if 0 < state.starting then some state.spawn else none
  | .stop => some state.stop
  | .check thread => state.move thread .checking (state.looked .sleeping)
  | .sleep thread => state.move thread .sleeping .rechecking
  | .recheck thread => state.move thread .rechecking (state.looked .sending)
  | .sent thread now =>
      (state.move thread .sending .checking).map fun next =>
        { next with
          agent := { next.agent with
            heartbeatCount := next.agent.heartbeatCount + 1
            lastHeartbeatTime := some now } }
  | .sendFailed thread =>
      (state.move thread .sending .checking).map fun next =>
        { next with
          agent := { next.agent with heartbeatErrors := next.agent.heartbeatErrors + 1 } }
  | .sendRaised thread => state.move thread .sending .exited

/-- The number of heartbeat threads that have not committed to exit. -/
def live (state : AgentThreads) : Nat := state.threads.countP fun phase => phase ≠ .exited

/-- While the agent is running, at most one heartbeat thread has not committed to exit. -/
def AtMostOneLoop (state : AgentThreads) : Prop := state.agent.running = true → state.live ≤ 1

/-- A `start` that takes effect finds no earlier heartbeat thread: all have committed to
exit, and none is about to be created. -/
def QuietStart (state : AgentThreads) : AgentAction → Prop
  | .start => state.agent.running = false → state.agent.coordinatorUrl ≠ "" →
      state.live = 0 ∧ state.starting = 0
  | _ => True

instance (state : AgentThreads) : ∀ action, Decidable (state.QuietStart action)
  | .start => inferInstanceAs (Decidable (_ → _ → _))
  | .spawn | .stop | .check _ | .sleep _ | .recheck _ | .sent _ _ | .sendFailed _
  | .sendRaised _ => inferInstanceAs (Decidable True)

/-! ## What a step does to the threads -/

section Steps

variable {state next : AgentThreads}

/-- A thread that moves on from a phase before its exit adds no loop. -/
theorem live_move {thread : Nat} {source target : LoopPhase} (inLoop : source ≠ .exited)
    (moves : state.move thread source target = some next) :
    next.live ≤ state.live ∧ next.starting = state.starting := by
  rw [move] at moves
  split at moves
  next there =>
    cases moves
    refine ⟨?_, rfl⟩
    obtain ⟨bound, found⟩ := List.getElem?_eq_some_iff.mp there
    have counted : 0 < state.live :=
      List.countP_pos_iff.mpr ⟨source, List.mem_of_getElem? there, decide_eq_true inLoop⟩
    rw [live] at counted
    rw [live, live, List.countP_set bound, found, if_pos (decide_eq_true inLoop)]
    split
    · rw [Nat.sub_add_cancel counted]
    · exact Nat.sub_le _ _
  next => cases moves

theorem live_spawn (state : AgentThreads) : state.spawn.live = state.live + 1 := by
  simp [live, spawn]

/-- A step other than an effective `start` adds no loop, counting those to be created. -/
theorem loops_perform {action : AgentAction} (performs : perform state action = some next)
    (quiet : state.QuietStart action) (single : state.live + state.starting ≤ 1) :
    next.live + next.starting ≤ 1 := by
  have counts {thread : Nat} {source target : LoopPhase} (inLoop : source ≠ .exited)
      {moved : AgentThreads} (moves : state.move thread source target = some moved) :
      moved.live + moved.starting ≤ 1 := by
    obtain ⟨fewer, same⟩ := live_move inLoop moves
    rw [same]
    exact (Nat.add_le_add_right fewer _).trans single
  cases action with
  | start =>
      cases performs
      rw [start]
      split
      next => exact single
      next stopped =>
        split
        next url =>
          obtain ⟨noLoop, noStart⟩ := quiet (Bool.not_eq_true _ ▸ stopped) url
          rw [live] at noLoop
          simp only [live, noLoop, noStart, Nat.zero_add, Nat.le_refl]
        next => exact single
  | spawn =>
      simp only [perform] at performs
      split at performs
      next pending =>
        cases performs
        rw [live_spawn]
        have moved : state.live + 1 + (state.starting - 1) = state.live + state.starting := by
          omega
        exact moved ▸ single
      next => cases performs
  | stop =>
      cases performs
      exact single
  | check thread => exact counts (by decide) performs
  | sleep thread => exact counts (by decide) performs
  | recheck thread => exact counts (by decide) performs
  | sent thread now =>
      obtain ⟨moved, moves, rfl⟩ := Option.map_eq_some_iff.mp performs
      have kept : moved.live + moved.starting ≤ 1 := counts (by decide) moves
      exact kept
  | sendFailed thread =>
      obtain ⟨moved, moves, rfl⟩ := Option.map_eq_some_iff.mp performs
      have kept : moved.live + moved.starting ≤ 1 := counts (by decide) moves
      exact kept
  | sendRaised thread => exact counts (by decide) performs

/-- The condition cannot be relaxed: a `start` that takes effect next to an earlier thread
has an ordinary continuation with two loops. -/
theorem two_loops_of_not_quiet (loud : ¬ state.QuietStart .start) :
    ∃ actions final, replay perform state (.start :: actions) = some final ∧
      ¬ final.AtMostOneLoop := by
  simp only [QuietStart, not_forall] at loud
  obtain ⟨stopped, url, earlier⟩ := loud
  have effect : state.start.starting = state.starting + 1 := by
    simp [start, stopped, url]
  have runs : state.start.agent.running = true := by
    simp [start, stopped]
  have lives : state.start.live = state.live := by
    simp [start, stopped, live]
  have begins : perform state .start = some state.start := rfl
  have created (before : AgentThreads) (pending : 0 < before.starting) :
      perform before .spawn = some before.spawn := by
    simp only [perform, pending, ↓reduceIte]
  by_cases noLoop : state.live = 0
  · -- two calls of `start` are between their two sections
    have pending : 0 < state.starting :=
      Nat.pos_of_ne_zero fun none => earlier ⟨noLoop, none⟩
    have second : 0 < state.start.spawn.starting := by
      rw [spawn, effect, Nat.add_sub_cancel]
      exact pending
    refine ⟨[.spawn, .spawn], state.start.spawn.spawn, ?_, fun single => ?_⟩
    · rw [replay, begins, Option.bind_some, replay, created _ (effect ▸ Nat.succ_pos _),
        Option.bind_some, replay, created _ second, Option.bind_some, replay]
    · have counted := single runs
      rw [live_spawn, live_spawn] at counted
      omega
  · refine ⟨[.spawn], state.start.spawn, ?_, fun single => ?_⟩
    · rw [replay, begins, Option.bind_some, replay, created _ (effect ▸ Nat.succ_pos _),
        Option.bind_some, replay]
    · have counted := single runs
      rw [live_spawn, lives] at counted
      omega

end Steps

/-- Over any interleaving in which every `start` that takes effect finds no earlier thread,
an agent never runs more than one heartbeat loop. -/
theorem atMostOneLoop_of_quietStarts (coordinatorUrl : String) (actions : List AgentAction)
    (state : AgentThreads)
    (replays : replay perform (init coordinatorUrl) actions = some state)
    (quiet : replay.Meets perform QuietStart (init coordinatorUrl) actions) :
    state.AtMostOneLoop := by
  have kept : ∀ (before : AgentThreads) (action : AgentAction) (next : AgentThreads),
      before.live + before.starting ≤ 1 → before.QuietStart action →
      perform before action = some next → next.live + next.starting ≤ 1 :=
    fun _ _ _ single quiet performs => loops_perform performs quiet single
  have starts : (init coordinatorUrl).live + (init coordinatorUrl).starting ≤ 1 := Nat.zero_le 1
  have single := replay.preserves_meeting kept starts quiet replays
  intro _
  exact (Nat.le_add_right _ _).trans single

/-- An agent that is started, stopped while its thread is between loops and started again. -/
def stopThenStart : List AgentAction :=
  [.start, .spawn, .check 0, .sleep 0, .stop, .recheck 0, .start, .spawn, .check 1, .sleep 1]

/-- The second `start` of this run finds that the first thread has exited. -/
theorem atMostOneLoop_of_quietStarts_restart :
    ∃ state, replay perform (init "http://10.0.0.1:8000") stopThenStart = some state ∧
      state.AtMostOneLoop := by
  obtain ⟨state, replays⟩ : ∃ state,
      replay perform (init "http://10.0.0.1:8000") stopThenStart = some state :=
    Option.isSome_iff_exists.mp (by decide)
  exact ⟨state, replays, atMostOneLoop_of_quietStarts _ stopThenStart state replays
    (by decide)⟩

/-- A restart during the sleep of the first thread leaves two threads that both send. -/
theorem restart_duplicates :
    ∃ state, replay perform (init "http://10.0.0.1:8000")
        [.start, .spawn, .check 0, .stop, .start, .spawn, .sleep 0, .recheck 0, .check 1,
          .sleep 1, .recheck 1] = some state ∧
      state.threads = [.sending, .sending] ∧ ¬ state.AtMostOneLoop := by
  have reached : (replay perform (init "http://10.0.0.1:8000")
      [.start, .spawn, .check 0, .stop, .start, .spawn, .sleep 0, .recheck 0, .check 1,
        .sleep 1, .recheck 1]).map (fun state => (state.agent.running, state.threads)) =
      some (true, [.sending, .sending]) := by decide
  obtain ⟨state, replays, facts⟩ := Option.map_eq_some_iff.mp reached
  rw [Prod.mk.injEq] at facts
  refine ⟨state, replays, facts.2, fun single => ?_⟩
  have counted := single facts.1
  rw [live, facts.2] at counted
  exact absurd counted (by decide)

end AgentThreads

end SmartBandwidth

import SmartBandwidth.Lib.Replay
import Mathlib.Data.List.Nodup
import Mathlib.Logic.Function.Basic

/-!
# The connections of the telemetry server

Every client has a task of the event loop that registers it, streams to it and unregisters it, and a
broadcast holds the lock while it sends.  Tasks give way to each other only where they await, so
that the steps here are what runs between two awaits.  A step that needs the lock is taken only
while no broadcast holds it.
-/

namespace SmartBandwidth

/-- Identity of a WebSocket, which is that of its task. -/
abbrev ClientRef := Nat

/-- Where the task of a client stands: not begun, at `ws.accept()`, before the lock of `connect`, in
the loop, before the lock of `disconnect`, over, or over without having got that lock. -/
inductive EndpointPhase where
  | absent
  | accepting
  | entering
  | streaming
  | leaving
  | ended
  | abandoned
  deriving DecidableEq, Repr

/-- A broadcast that holds the lock: the clients it found registered, those it has tried to send
to, with the outcome, and those it has not reached. -/
structure Broadcast where
  message : String
  registered : List ClientRef
  attempted : List (ClientRef × Bool)
  pending : List ClientRef
  deriving DecidableEq, Repr

/-- `dead`. -/
def Broadcast.dead (broadcast : Broadcast) : List ClientRef :=
  (broadcast.attempted.filter fun attempt => !attempt.2).map Prod.fst

/-- The connection manager, the broadcast that holds its lock, the tasks, and the broadcasts that
have run to their end. -/
structure ConnectionManager where
  connections : List ClientRef := []
  holder : Option Broadcast := none
  phase : ClientRef → EndpointPhase := fun _ => .absent
  rounds : List Broadcast := []

/-- Steps of the tasks.  An `interrupt` is an exception or a cancellation where a task awaits. -/
inductive ConnectionAction where
  | open (client : ClientRef)
  | accepted (client : ClientRef)
  | connect (client : ClientRef)
  | interrupt (client : ClientRef)
  | disconnect (client : ClientRef)
  | beginBroadcast (message : String)
  | send (delivered : Bool)
  | endBroadcast
  | cancelBroadcast
  deriving DecidableEq, Repr

/-- Where a task goes from a place where it awaits and an exception is raised there. -/
def EndpointPhase.interrupted : EndpointPhase → Option EndpointPhase
  | .accepting | .entering => some .ended
  | .streaming => some .leaving
  | .leaving => some .abandoned
  | .absent | .ended | .abandoned => none

namespace ConnectionManager

/-- `connection_count`. -/
def connectionCount (manager : ConnectionManager) : Nat := manager.connections.length

/-- A task moves. -/
def move (manager : ConnectionManager) (client : ClientRef) (phase : EndpointPhase) :
    ConnectionManager :=
  { manager with phase := Function.update manager.phase client phase }

/-- One step, where its task stands before it. -/
def perform (manager : ConnectionManager) : ConnectionAction → Option ConnectionManager
  | .open client =>
      if manager.phase client = .absent then some (manager.move client .accepting) else none
  | .accepted client =>
      if manager.phase client = .accepting then some (manager.move client .entering) else none
  | .connect client =>
      if manager.phase client = .entering ∧ manager.holder = none then
        some { manager.move client .streaming with
          connections := manager.connections ++ [client] }
      else
        none
  | .interrupt client => (manager.phase client).interrupted.map (manager.move client)
  | .disconnect client =>
      if manager.phase client = .leaving ∧ manager.holder = none then
        some { manager.move client .ended with
          connections := manager.connections.filter fun other => other ≠ client }
      else
        none
  | .beginBroadcast message =>
      if manager.holder = none then
        some { manager with holder := some {
          message := message
          registered := manager.connections
          attempted := []
          pending := manager.connections } }
      else
        none
  | .send delivered => do
      let broadcast ← manager.holder
      let client ← broadcast.pending.head?
      some { manager with holder := some { broadcast with
        attempted := broadcast.attempted ++ [(client, delivered)]
        pending := broadcast.pending.tail } }
  | .endBroadcast => do
      let broadcast ← manager.holder
      if broadcast.pending = [] then
        some { manager with
          connections := manager.connections.filter fun other => other ∉ broadcast.dead
          holder := none
          rounds := manager.rounds ++ [broadcast] }
      else
        none
  | .cancelBroadcast =>
      if manager.holder.isSome then some { manager with holder := none } else none

end ConnectionManager

/-! ## The registry -/

/-- The task has registered its client and has not unregistered it. -/
def EndpointPhase.attached : EndpointPhase → Bool
  | .streaming | .leaving | .abandoned => true
  | .absent | .accepting | .entering | .ended => false

/-- The task cannot register its client any more. -/
def EndpointPhase.past : EndpointPhase → Bool
  | .streaming | .leaving | .abandoned | .ended => true
  | .absent | .accepting | .entering => false

/-- The task does not run, or not any more. -/
def EndpointPhase.isOver : EndpointPhase → Bool
  | .absent | .ended | .abandoned => true
  | .accepting | .entering | .streaming | .leaving => false

/-- Of the tasks that are over only the abandoned ones leave their client registered. -/
theorem EndpointPhase.attached_iff_of_isOver {phase : EndpointPhase} (isOver : phase.isOver = true) :
    phase.attached = true ↔ phase = .abandoned := by
  cases phase with
  | absent | ended | abandoned => decide
  | accepting | entering | streaming | leaving => cases isOver

theorem EndpointPhase.past_of_attached {phase : EndpointPhase} (attached : phase.attached = true) :
    phase.past = true := by
  cases phase with
  | absent | accepting | entering | ended => cases attached
  | streaming | leaving | abandoned => rfl

namespace Broadcast

/-- Every client that was registered has been tried once, in order, or is still to be reached. -/
structure Reaches (broadcast : Broadcast) : Prop where
  reached : broadcast.attempted.map Prod.fst ++ broadcast.pending = broadcast.registered
  distinct : broadcast.registered.Nodup

theorem Reaches.send {broadcast : Broadcast} (reaches : broadcast.Reaches) {client : ClientRef}
    (first : broadcast.pending.head? = some client) (delivered : Bool) :
    Reaches { broadcast with
      attempted := broadcast.attempted ++ [(client, delivered)]
      pending := broadcast.pending.tail } where
  reached := by
    rw [← reaches.reached, ← List.cons_head?_tail first]
    simp
  distinct := reaches.distinct

theorem Reaches.of_mem_dead {broadcast : Broadcast} (reaches : broadcast.Reaches)
    {client : ClientRef} (dead : client ∈ broadcast.dead) : client ∈ broadcast.registered := by
  obtain ⟨attempt, failed, rfl⟩ := List.mem_map.mp dead
  rw [← reaches.reached]
  exact List.mem_append_left _ (List.mem_map_of_mem (List.mem_of_mem_filter failed))

end Broadcast

namespace ConnectionManager

/-- What holds between any two steps. -/
structure Registry (manager : ConnectionManager) : Prop where
  distinct : manager.connections.Nodup
  registered : ∀ client, client ∈ manager.connections ↔
    (manager.phase client).attached = true ∧ ∀ round ∈ manager.rounds, client ∉ round.dead
  holds : ∀ broadcast, manager.holder = some broadcast →
    broadcast.Reaches ∧ broadcast.registered = manager.connections
  ended : ∀ round ∈ manager.rounds, round.Reaches ∧ round.pending = []
  past : ∀ round ∈ manager.rounds, ∀ client ∈ round.registered,
    (manager.phase client).past = true

namespace Registry

theorem fresh : Registry {} where
  distinct := .nil
  registered := by simp [EndpointPhase.attached]
  holds := by simp
  ended := by simp
  past := by simp

variable {manager next : ConnectionManager} {client : ClientRef}

/-- A task that moves without registering or unregistering its client. -/
theorem move (registry : manager.Registry) {phase : EndpointPhase}
    (same : phase.attached = (manager.phase client).attached)
    (later : (manager.phase client).past = true → phase.past = true) :
    (manager.move client phase).Registry where
  distinct := registry.distinct
  registered := by
    intro other
    simp only [ConnectionManager.move]
    by_cases moved : other = client
    · subst moved
      rw [Function.update_self, same]
      exact registry.registered other
    · rw [Function.update_of_ne moved]
      exact registry.registered other
  holds := registry.holds
  ended := registry.ended
  past := by
    intro round member other before
    have stood := registry.past round member other before
    simp only [ConnectionManager.move]
    by_cases moved : other = client
    · subst moved
      rw [Function.update_self]
      exact later stood
    · rwa [Function.update_of_ne moved]

theorem connect (registry : manager.Registry) (entering : manager.phase client = .entering)
    (free : manager.holder = none) :
    Registry { manager.move client .streaming with
      connections := manager.connections ++ [client] } := by
  have outside : client ∉ manager.connections := by
    intro member
    have attached := ((registry.registered client).mp member).1
    rw [entering] at attached
    cases attached
  have unseen : ∀ round ∈ manager.rounds, client ∉ round.dead := by
    intro round member dead
    have past := registry.past round member client
      ((registry.ended round member).1.of_mem_dead dead)
    rw [entering] at past
    cases past
  exact
    { distinct := List.nodup_append_comm.mp (List.nodup_cons.mpr ⟨outside, registry.distinct⟩)
      registered := by
        intro other
        simp only [ConnectionManager.move, List.mem_append, List.mem_singleton]
        by_cases moved : other = client
        · subst moved
          rw [Function.update_self]
          exact ⟨fun _ => ⟨rfl, unseen⟩, fun _ => .inr rfl⟩
        · rw [Function.update_of_ne moved, ← registry.registered other]
          exact or_iff_left moved
      holds := fun broadcast held => absurd (free.symm.trans held) (Option.some_ne_none _).symm
      ended := registry.ended
      past := by
        intro round member other before
        simp only [ConnectionManager.move]
        by_cases moved : other = client
        · subst moved
          rw [Function.update_self]
          rfl
        · rw [Function.update_of_ne moved]
          exact registry.past round member other before }

theorem disconnect (registry : manager.Registry) (free : manager.holder = none) :
    Registry { manager.move client .ended with
      connections := manager.connections.filter fun other => other ≠ client } where
  distinct := registry.distinct.filter _
  registered := by
    intro other
    simp only [ConnectionManager.move, List.mem_filter, decide_eq_true_iff]
    by_cases moved : other = client
    · subst moved
      rw [Function.update_self]
      exact ⟨fun both => absurd rfl both.2, fun both => nomatch both.1⟩
    · rw [Function.update_of_ne moved, ← registry.registered other]
      exact and_iff_left moved
  holds := fun broadcast held => absurd (free.symm.trans held) (Option.some_ne_none _).symm
  ended := registry.ended
  past := by
    intro round member other before
    simp only [ConnectionManager.move]
    by_cases moved : other = client
    · subst moved
      rw [Function.update_self]
      rfl
    · rw [Function.update_of_ne moved]
      exact registry.past round member other before

theorem endBroadcast (registry : manager.Registry) {broadcast : Broadcast}
    (held : manager.holder = some broadcast) (reached : broadcast.pending = []) :
    Registry { manager with
      connections := manager.connections.filter fun other => other ∉ broadcast.dead
      holder := none
      rounds := manager.rounds ++ [broadcast] } := by
  obtain ⟨reaches, same⟩ := registry.holds broadcast held
  exact
    { distinct := registry.distinct.filter _
      registered := by
        intro other
        rw [List.mem_filter, decide_eq_true_iff, registry.registered other, and_assoc]
        simp only [List.forall_mem_append, List.forall_mem_singleton]
      holds := by simp
      ended := by
        rw [List.forall_mem_append, List.forall_mem_singleton]
        exact ⟨registry.ended, reaches, reached⟩
      past := by
        rw [List.forall_mem_append, List.forall_mem_singleton]
        refine ⟨registry.past, ?_⟩
        intro client member
        rw [same, registry.registered client] at member
        exact EndpointPhase.past_of_attached member.1 }

theorem perform (registry : manager.Registry) {action : ConnectionAction}
    (performs : manager.perform action = some next) : next.Registry := by
  cases action with
  | «open» client | accepted client =>
      obtain ⟨stands, moves⟩ := Option.ite_none_right_eq_some.mp performs
      cases moves
      exact registry.move (by rw [stands]; rfl) (by rw [stands]; exact nofun)
  | connect client =>
      obtain ⟨⟨stands, free⟩, moves⟩ := Option.ite_none_right_eq_some.mp performs
      cases moves
      exact registry.connect stands free
  | interrupt client =>
      obtain ⟨phase, interrupted, rfl⟩ := Option.map_eq_some_iff.mp performs
      cases stands : manager.phase client with
      | absent | ended | abandoned =>
          rw [stands] at interrupted
          cases interrupted
      | accepting | entering | streaming | leaving =>
          rw [stands] at interrupted
          cases interrupted
          exact registry.move (by rw [stands]; rfl) (fun _ => rfl)
  | disconnect client =>
      obtain ⟨⟨stands, free⟩, moves⟩ := Option.ite_none_right_eq_some.mp performs
      cases moves
      exact registry.disconnect free
  | beginBroadcast message =>
      obtain ⟨free, moves⟩ := Option.ite_none_right_eq_some.mp performs
      cases moves
      refine { registry with holds := ?_ }
      intro broadcast held
      cases held
      exact ⟨⟨rfl, registry.distinct⟩, rfl⟩
  | send delivered =>
      obtain ⟨broadcast, held, sends⟩ := Option.bind_eq_some_iff.mp performs
      obtain ⟨client, first, moves⟩ := Option.bind_eq_some_iff.mp sends
      cases moves
      obtain ⟨reaches, same⟩ := registry.holds broadcast held
      refine { registry with holds := ?_ }
      intro later held
      cases held
      exact ⟨reaches.send first delivered, same⟩
  | endBroadcast =>
      obtain ⟨broadcast, held, ends⟩ := Option.bind_eq_some_iff.mp performs
      obtain ⟨reached, moves⟩ := Option.ite_none_right_eq_some.mp ends
      cases moves
      exact registry.endBroadcast held reached
  | cancelBroadcast =>
      obtain ⟨_, moves⟩ := Option.ite_none_right_eq_some.mp performs
      cases moves
      exact { registry with holds := by simp }

end Registry

/-- What clients and operators see of a manager: no client is registered twice; the registered
clients are those whose tasks are between `connect` and `disconnect`, less those a broadcast has
failed to reach; a broadcast that has run to its end has tried every client once that was registered
when it took the lock; and when all tasks are over, the registered clients are those whose tasks
were cancelled while they waited for the lock of `disconnect` and that no broadcast has failed to
reach. -/
structure ServesClients (manager : ConnectionManager) : Prop where
  distinct : manager.connections.Nodup
  registered : ∀ client, client ∈ manager.connections ↔
    (manager.phase client).attached = true ∧ ∀ round ∈ manager.rounds, client ∉ round.dead
  rounds : ∀ round ∈ manager.rounds,
    round.attempted.map Prod.fst = round.registered ∧ round.registered.Nodup
  idle : (∀ client, (manager.phase client).isOver = true) →
    (∀ client, client ∈ manager.connections ↔
      manager.phase client = .abandoned ∧ ∀ round ∈ manager.rounds, client ∉ round.dead) ∧
    (manager.connectionCount = 0 ↔
      ∀ client, manager.phase client = .abandoned → ∃ round ∈ manager.rounds, client ∈ round.dead)

/-- However the tasks of the clients and the broadcasts interleave, and wherever exceptions and
cancellations strike, no registration is lost, and only a task that was cancelled at the lock of
`disconnect` leaves one behind. -/
theorem replay_servesClients (actions : List ConnectionAction) (manager : ConnectionManager)
    (replays : replay perform {} actions = some manager) : manager.ServesClients := by
  have registry : manager.Registry :=
    replay.preserves (fun _ _ _ kept performs => kept.perform performs) .fresh replays
  refine ⟨registry.distinct, registry.registered, ?_, ?_⟩
  · intro round member
    obtain ⟨reaches, reached⟩ := registry.ended round member
    have tried := reaches.reached
    rw [reached, List.append_nil] at tried
    exact ⟨tried, reaches.distinct⟩
  · intro finished
    have left : ∀ client, client ∈ manager.connections ↔
        manager.phase client = .abandoned ∧ ∀ round ∈ manager.rounds, client ∉ round.dead := by
      intro client
      rw [registry.registered, EndpointPhase.attached_iff_of_isOver (finished client)]
    refine ⟨left, ?_⟩
    rw [connectionCount, List.length_eq_zero_iff, List.eq_nil_iff_forall_not_mem]
    apply forall_congr'
    intro client
    rw [left client]
    push Not
    rfl

/-- One of two tasks is cancelled while it waits for the lock of `disconnect`, behind a broadcast
that still reaches its client: the client stays registered, and the other one leaves. -/
theorem replay_servesClients_two :
    ∃ manager, replay perform {} [.open 0, .open 1, .accepted 0, .accepted 1, .connect 1,
        .connect 0, .interrupt 0, .beginBroadcast "stats", .interrupt 0, .interrupt 1, .send false,
        .send true, .endBroadcast, .disconnect 1] = some manager ∧
      manager.ServesClients ∧ manager.connections = [0] := by
  have reaches : (replay perform {} [.open 0, .open 1, .accepted 0, .accepted 1, .connect 1,
      .connect 0, .interrupt 0, .beginBroadcast "stats", .interrupt 0, .interrupt 1, .send false,
      .send true, .endBroadcast, .disconnect 1]).map connections = some [0] := by
    decide +kernel
  obtain ⟨manager, replays, left⟩ := Option.map_eq_some_iff.mp reaches
  exact ⟨manager, replays, replay_servesClients _ manager replays, left⟩

end ConnectionManager

end SmartBandwidth

import SmartBandwidth.Capture.NFQueue
import SmartBandwidth.Capture.Session

/-!
# Capturing from the kernel

The kernel hands its packets to a callback inside `run_socket`; the generator yields what the
callback has queued before it looks at the socket again.  `stop` runs in another thread and
takes the socket away.  Every call of the library may raise.
-/

namespace SmartBandwidth

namespace NFQueue

/-- A packet of the kernel's queue, the time its callback reads, and whether `get_payload` or
`accept` raises on it. -/
structure KernelPacket where
  handle : Nat
  raw : List UInt8
  timestamp : ℚ := 0
  unreadable : Bool := false
  unacceptable : Bool := false

/-- What the callback raises: an exception of the parser, or one of the library. -/
inductive CallbackError where
  | parse (raised : ParseError)
  | library
  deriving DecidableEq, Repr

/-- What the callback gets for a packet: what the parser makes of it, unless the library
raises before or, where the packet is to be accepted, after it. -/
def KernelPacket.outcome (packet : KernelPacket) : Except CallbackError (Option Packet) :=
  if packet.unreadable then
    .error .library
  else
    match parseIpPacket packet.raw with
    | .error raised => .error (.parse raised)
    | .ok none => if packet.unacceptable then .error .library else .ok none
    | .ok (some parsed) => .ok (some parsed)

/-- Where `packets()` stands: before its first turn, at the outer loop, inside `select`, inside
`run_socket`, inside the loop over `_pending`, at its `yield`, past its end, or left by an
exception. -/
inductive Phase where
  | unstarted
  | outer
  | selecting
  | inSocket
  | draining
  | suspended
  | closed
  | raised
  deriving DecidableEq, Repr

/-- An `NFQueueCapture` with its generator, the packets delivered to the callback so far, the
handles it accepted itself, those on which it raised, and what was yielded. -/
structure Session where
  capture : BaseCapture
  bound : Bool
  pending : List CapturedPacket
  phase : Phase
  delivered : List KernelPacket
  accepted : List Nat
  failed : List Nat
  yielded : List CapturedPacket

/-- The actions of a session.  `start` is given whether the library is installed, `selected`
whether the socket is ready, and `deliver` whether an exception of the callback ends
`run_socket`.  A `fault` is an exception of `get_fd`, `select`, `get_socket` or `run_socket`
itself. -/
inductive Action where
  | start (installed : Bool)
  | stop
  | resume
  | turn
  | selected (ready : Bool)
  | deliver (packet : KernelPacket) (propagates : Bool)
  | served
  | fault

namespace Session

/-- `__init__`, before the first `next`. -/
def fresh (interface : String := "nfqueue") : Session where
  capture := { interface := interface }
  bound := false
  pending := []
  phase := .unstarted
  delivered := []
  accepted := []
  failed := []
  yielded := []

/-- What the callback makes of a packet it can parse. -/
def captured (interface : String) (packet : KernelPacket) (parsed : Packet) : CapturedPacket where
  packet := parsed
  timestamp := packet.timestamp
  interface := interface
  rawFrame := some packet.raw
  nfqueueHandle := some packet.handle

/-- `_callback`; the parser and the library may raise. -/
def callback (session : Session) (packet : KernelPacket) : Except CallbackError Unit × Session :=
  let session := { session with delivered := session.delivered ++ [packet] }
  match packet.outcome with
  | .error raised => (.error raised, { session with failed := session.failed ++ [packet.handle] })
  | .ok none =>
      (.ok (), { session with
        accepted := session.accepted ++ [packet.handle]
        capture := session.capture.recordDropped })
  | .ok (some parsed) =>
      (.ok (), { session with
        capture := session.capture.recordCaptured parsed
        pending := session.pending ++ [captured session.capture.interface packet parsed] })

/-- One action, where the session is in its place. -/
def perform (session : Session) : Action → Option Session
  | .start installed =>
      if installed then
        some { session with capture := session.capture.start, bound := true }
      else
        some session
  | .stop => some { session with capture := session.capture.stop, bound := false }
  | .resume =>
      match session.phase with
      | .unstarted => some { session with phase := if session.bound then .outer else .raised }
      | .suspended => some { session with phase := .draining }
      | _ => none
  | .turn =>
      match session.phase with
      | .outer => some { session with
          phase := if session.capture.running then .selecting else .closed }
      | .draining =>
          match session.pending with
          | [] => some { session with phase := .outer }
          | first :: rest => some { session with
              pending := rest
              phase := .suspended
              yielded := session.yielded ++ [first] }
      | _ => none
  | .selected ready =>
      if session.phase = .selecting then
        some { session with
          phase :=
            if ready then
              if session.bound then .inSocket else .raised
            else
              .draining }
      else
        none
  | .deliver packet propagates =>
      if session.phase = .inSocket then
        match session.callback packet with
        | (.ok _, session) => some session
        | (.error _, session) =>
            some { session with phase := if propagates then .raised else .inSocket }
      else
        none
  | .served =>
      if session.phase = .inSocket then
        some { session with phase := .draining }
      else
        none
  | .fault =>
      match session.phase with
      | .unstarted | .selecting | .inSocket => some { session with phase := .raised }
      | _ => none

/-- What an action does, and where it can be done. -/
inductive Performs (session : Session) : Action → Session → Prop where
  | started : session.Performs (.start true)
      { session with capture := session.capture.start, bound := true }
  | missing : session.Performs (.start false) session
  | stopped : session.Performs .stop
      { session with capture := session.capture.stop, bound := false }
  | begun (unstarted : session.phase = .unstarted) : session.Performs .resume
      { session with phase := if session.bound then .outer else .raised }
  | resumed (suspended : session.phase = .suspended) : session.Performs .resume
      { session with phase := .draining }
  | checked (outer : session.phase = .outer) : session.Performs .turn
      { session with phase := if session.capture.running then .selecting else .closed }
  | drained (draining : session.phase = .draining) (empty : session.pending = []) :
      session.Performs .turn { session with phase := .outer }
  | yielded {first : CapturedPacket} {rest : List CapturedPacket}
      (draining : session.phase = .draining) (pending : session.pending = first :: rest) :
      session.Performs .turn
        { session with
          pending := rest
          phase := .suspended
          yielded := session.yielded ++ [first] }
  | selected (selecting : session.phase = .selecting) (ready : Bool) :
      session.Performs (.selected ready)
        { session with
          phase :=
            if ready then
              if session.bound then .inSocket else .raised
            else
              .draining }
  | handled {packet : KernelPacket} {propagates : Bool} (inSocket : session.phase = .inSocket)
      (returns : (session.callback packet).1 = .ok ()) :
      session.Performs (.deliver packet propagates) (session.callback packet).2
  | failed {packet : KernelPacket} {propagates : Bool} {raised : CallbackError}
      (inSocket : session.phase = .inSocket)
      (raises : (session.callback packet).1 = .error raised) :
      session.Performs (.deliver packet propagates)
        { (session.callback packet).2 with phase := if propagates then .raised else .inSocket }
  | served (inSocket : session.phase = .inSocket) :
      session.Performs .served { session with phase := .draining }
  | faulted (inLibrary : session.phase = .unstarted ∨ session.phase = .selecting ∨
      session.phase = .inSocket) : session.Performs .fault { session with phase := .raised }

theorem performs_of_perform {session next : Session} {action : Action}
    (performs : session.perform action = some next) : session.Performs action next := by
  cases action with
  | start installed =>
      cases installed with
      | true =>
          cases performs
          exact .started
      | false =>
          cases performs
          exact .missing
  | stop =>
      cases performs
      exact .stopped
  | resume =>
      cases phase : session.phase with
      | unstarted =>
          simp only [perform, phase] at performs
          cases performs
          exact .begun phase
      | suspended =>
          simp only [perform, phase] at performs
          cases performs
          exact .resumed phase
      | outer | selecting | inSocket | draining | closed | raised =>
          simp only [perform, phase] at performs
          cases performs
  | turn =>
      cases phase : session.phase with
      | outer =>
          simp only [perform, phase] at performs
          cases performs
          exact .checked phase
      | draining =>
          cases pending : session.pending with
          | nil =>
              simp only [perform, phase, pending] at performs
              cases performs
              exact pending ▸ .drained phase pending
          | cons first rest =>
              simp only [perform, phase, pending] at performs
              cases performs
              exact .yielded phase pending
      | unstarted | selecting | inSocket | suspended | closed | raised =>
          simp only [perform, phase] at performs
          cases performs
  | selected ready =>
      obtain ⟨selecting, performs⟩ := Option.ite_none_right_eq_some.mp performs
      cases performs
      exact .selected selecting ready
  | deliver packet propagates =>
      obtain ⟨inSocket, performs⟩ := Option.ite_none_right_eq_some.mp performs
      cases answer : session.callback packet with
      | mk outcome after =>
          rw [answer] at performs
          have called : after = (session.callback packet).2 := by rw [answer]
          cases outcome with
          | ok =>
              cases performs
              rw [called]
              exact .handled inSocket (by rw [answer])
          | error raised =>
              cases performs
              rw [called]
              exact .failed inSocket (by rw [answer])
  | served =>
      obtain ⟨inSocket, performs⟩ := Option.ite_none_right_eq_some.mp performs
      cases performs
      exact .served inSocket
  | fault =>
      cases phase : session.phase with
      | unstarted | selecting | inSocket =>
          simp only [perform, phase] at performs
          cases performs
          exact .faulted (by simp [phase])
      | outer | draining | suspended | closed | raised =>
          simp only [perform, phase] at performs
          cases performs

end Session

/-! ## Where a delivered packet is -/

/-- Every packet the kernel delivered is accepted by the callback, failed in it, yielded, or still
pending, and is so once; the captured ones are in the order of delivery. -/
structure Placed (session : Session) : Prop where
  captured : session.yielded ++ session.pending =
    session.delivered.filterMap fun packet =>
      (packet.outcome.toOption.join).map
        (Session.captured session.capture.interface packet)
  accepted : session.accepted =
    (session.delivered.filter fun packet => packet.outcome = .ok none).map
      KernelPacket.handle
  once : ((session.accepted ++ session.failed).map some ++
      (session.yielded ++ session.pending).map CapturedPacket.nfqueueHandle).Perm
    (session.delivered.map fun packet => some packet.handle)
  counts : session.capture.Counts
    ((session.yielded ++ session.pending).map CapturedPacket.packet) session.accepted.length
  drained : session.phase = .outer ∨ session.phase = .selecting ∨ session.phase = .closed ∨
    session.phase = .unstarted → session.pending = []

namespace Placed

variable {session : Session}

theorem fresh (interface : String) : Placed (.fresh interface) where
  captured := rfl
  accepted := rfl
  once := .nil
  counts := .fresh interface
  drained := fun _ => rfl

/-- Actions that leave the packets where they are. -/
theorem moved (placed : Placed session) (capture : BaseCapture) (bound : Bool) (phase : Phase)
    (stats : capture.stats = session.capture.stats)
    (interface : capture.interface = session.capture.interface)
    (drained : phase = .outer ∨ phase = .selecting ∨ phase = .closed ∨ phase = .unstarted →
      session.pending = []) :
    Placed { session with capture := capture, bound := bound, phase := phase } where
  captured := interface.symm ▸ placed.captured
  accepted := placed.accepted
  once := placed.once
  counts := ⟨stats ▸ placed.counts.captured, stats ▸ placed.counts.dropped,
    stats ▸ placed.counts.bytes⟩
  drained := drained

/-- One more packet, wherever it is put. -/
private theorem onceMore {before after all : List (Option Nat)} (once : (before ++ after).Perm all)
    (handle : Option Nat) : (before ++ handle :: after).Perm (all ++ [handle]) :=
  List.perm_middle.trans ((once.cons handle).trans (List.perm_append_singleton handle all).symm)

/-- The callback puts its packet into one of the three places. -/
theorem callback (placed : Placed session) (inSocket : session.phase = .inSocket)
    (packet : KernelPacket) : Placed (session.callback packet).2 := by
  have once := placed.once
  simp only [List.map_append, List.append_assoc] at once
  rw [Session.callback]
  cases parses : packet.outcome with
  | error raised =>
      refine
        { captured := by simp [placed.captured, parses, Except.toOption]
          accepted := by simp [placed.accepted, parses]
          once := ?_
          counts := placed.counts
          drained := by simp [inSocket] }
      simp only [List.map_append, List.map_cons, List.map_nil, List.append_assoc,
        List.cons_append, List.nil_append]
      rw [← List.append_assoc] at once ⊢
      exact onceMore once _
  | ok answer =>
      cases answer with
      | none =>
          refine
            { captured := by simp [placed.captured, parses, Except.toOption]; rfl
              accepted := by simp [placed.accepted, parses]
              once := ?_
              counts := ?_
              drained := by simp [inSocket] }
          · simp only [List.map_append, List.map_cons, List.map_nil, List.append_assoc,
              List.cons_append, List.nil_append]
            exact onceMore once _
          · rw [List.length_append]
            exact placed.counts.recordDropped
      | some parsed =>
          refine
            { captured := by
                simp only
                rw [← List.append_assoc, placed.captured, List.filterMap_append]
                simp [parses, Except.toOption, BaseCapture.recordCaptured]
              accepted := by simp [placed.accepted, parses]
              once := ?_
              counts := ?_
              drained := by simp [inSocket] }
          · have ended := once.append_right [some packet.handle]
            simpa [Session.captured] using ended
          · rw [← List.append_assoc, List.map_append]
            exact placed.counts.recordCaptured parsed

/-- Every action leaves the delivered packets in their places, or moves one on. -/
theorem perform (placed : Placed session) {action : Action} {next : Session}
    (performs : session.perform action = some next) : Placed next := by
  cases Session.performs_of_perform performs with
  | started => exact placed.moved session.capture.start true session.phase rfl rfl placed.drained
  | missing => exact placed
  | stopped => exact placed.moved session.capture.stop false session.phase rfl rfl placed.drained
  | begun unstarted =>
      have empty := placed.drained (by simp [unstarted])
      exact placed.moved session.capture session.bound _ rfl rfl fun _ => empty
  | resumed => exact placed.moved session.capture session.bound .draining rfl rfl (by simp)
  | checked outer =>
      have empty := placed.drained (by simp [outer])
      exact placed.moved session.capture session.bound _ rfl rfl fun _ => empty
  | drained draining empty =>
      exact placed.moved session.capture session.bound .outer rfl rfl fun _ => empty
  | @yielded first rest draining pending =>
      have same : session.yielded ++ [first] ++ rest = session.yielded ++ session.pending := by
        rw [pending, List.append_assoc, List.singleton_append]
      exact
        { captured := same ▸ placed.captured
          accepted := placed.accepted
          once := same ▸ placed.once
          counts := same ▸ placed.counts
          drained := by simp }
  | selected selecting ready =>
      have empty := placed.drained (by simp [selecting])
      exact placed.moved session.capture session.bound _ rfl rfl fun _ => empty
  | handled inSocket => exact placed.callback inSocket _
  | @failed packet propagates _ inSocket =>
      apply (placed.callback inSocket packet).moved _ _ _ rfl rfl
      cases propagates <;> simp
  | served => exact placed.moved session.capture session.bound .draining rfl rfl (by simp)
  | faulted => exact placed.moved session.capture session.bound .raised rfl rfl (by simp)

end Placed

/-- In every interleaving of the generator, the callbacks and `stop`, every packet the kernel
delivered is in one place: accepted as malformed, failed in the callback, yielded, or pending; and
none is pending when the generator ends. -/
theorem replay_placed (interface : String) (actions : List Action) (session : Session)
    (replays : replay Session.perform (.fresh interface) actions = some session) :
    Placed session :=
  replay.preserves (fun _ _ _ placed performs => Placed.perform placed performs)
    (Placed.fresh interface) replays

/-- The places after a datagram that is accepted, one that fails in the parser, one on which
`accept` raises, and one that is captured. -/
theorem replay_placed_three :
    ∃ session, replay Session.perform (.fresh "nfqueue")
        [.start true, .resume, .turn, .selected true, .deliver { handle := 0, raw := [] } false,
          .deliver { handle := 1, raw := truncatedTcp } false,
          .deliver { handle := 2, raw := [], unacceptable := true } false,
          .deliver { handle := 3, raw := headerless } false, .served, .turn] = some session ∧
      session.accepted = [0] ∧ session.failed = [1, 2] ∧
      session.yielded.map CapturedPacket.nfqueueHandle = [some 3] ∧ Placed session := by
  have replays : ∃ session, replay Session.perform (.fresh "nfqueue")
      [.start true, .resume, .turn, .selected true, .deliver { handle := 0, raw := [] } false,
        .deliver { handle := 1, raw := truncatedTcp } false,
        .deliver { handle := 2, raw := [], unacceptable := true } false,
        .deliver { handle := 3, raw := headerless } false, .served, .turn] = some session ∧
      session.accepted = [0] ∧ session.failed = [1, 2] ∧
      session.yielded.map CapturedPacket.nfqueueHandle = [some 3] :=
    ⟨_, rfl, rfl, rfl, rfl⟩
  obtain ⟨session, replays, accepted, failed, yielded⟩ := replays
  exact ⟨session, replays, accepted, failed, yielded, replay_placed "nfqueue" _ session replays⟩

/-! ## What ends the generator -/

/-- The action is no stop, and no call of the library raises in it. -/
def Action.Returns : Action → Prop
  | .stop | .fault => False
  | .deliver packet _ => packet.unreadable = false ∧ packet.unacceptable = false
  | .start _ | .resume | .turn | .selected _ | .served => True

/-- Where the library returns, what the callback raises comes from the parser. -/
theorem KernelPacket.parse_of_outcome {packet : KernelPacket} {raised : CallbackError}
    (readable : packet.unreadable = false) (acceptable : packet.unacceptable = false)
    (raises : packet.outcome = .error raised) :
    ∃ error, parseIpPacket packet.raw = .error error := by
  simp only [outcome, readable, acceptable, Bool.false_eq_true, if_false] at raises
  cases parses : parseIpPacket packet.raw with
  | error error => exact ⟨error, rfl⟩
  | ok answer =>
      rw [parses] at raises
      cases answer <;> cases raises

/-- The parser has raised on a delivered packet. -/
def Session.ParserRaised (session : Session) : Prop :=
  ∃ packet ∈ session.delivered, ∃ error, parseIpPacket packet.raw = .error error

/-- The socket is there, and only the parser has raised. -/
structure Sound (session : Session) : Prop where
  bound : session.bound = true
  parser : session.phase = .raised → session.ParserRaised

theorem Session.callback_delivered (session : Session) (packet : KernelPacket) :
    (session.callback packet).2.delivered = session.delivered ++ [packet] := by
  rw [callback]
  split <;> rfl

theorem Session.callback_bound (session : Session) (packet : KernelPacket) :
    (session.callback packet).2.bound = session.bound := by
  rw [callback]
  split <;> rfl

theorem Session.callback_phase (session : Session) (packet : KernelPacket) :
    (session.callback packet).2.phase = session.phase := by
  rw [callback]
  split <;> rfl

/-- The callback raises what the packet's outcome raises. -/
theorem Session.outcome_of_callback {session : Session} {packet : KernelPacket}
    {raised : CallbackError} (raises : (session.callback packet).1 = .error raised) :
    packet.outcome = .error raised := by
  rw [callback] at raises
  split at raises
  next error fails =>
    cases raises
    exact fails
  next => cases raises
  next => cases raises

/-- Without a stop the socket stays. -/
theorem Sound.perform {session : Session} (sound : Sound session) {action : Action}
    {next : Session} (going : action.Returns) (performs : session.perform action = some next) :
    Sound next := by
  cases Session.performs_of_perform performs with
  | started => exact ⟨rfl, sound.parser⟩
  | missing => exact sound
  | stopped | faulted => exact going.elim
  | begun => exact ⟨sound.bound, by simp [sound.bound]⟩
  | resumed | drained | yielded | served => exact ⟨sound.bound, by simp⟩
  | checked =>
      refine ⟨sound.bound, ?_⟩
      cases session.capture.running <;> simp
  | selected selecting ready =>
      refine ⟨sound.bound, ?_⟩
      cases ready <;> simp [sound.bound]
  | @handled packet _ inSocket =>
      refine ⟨(session.callback_bound packet).trans sound.bound, ?_⟩
      rw [session.callback_phase, inSocket]
      exact nofun
  | @failed packet _ _ _ raises =>
      refine ⟨(session.callback_bound packet).trans sound.bound, fun _ => ?_⟩
      refine ⟨packet, ?_, packet.parse_of_outcome going.1 going.2 (session.outcome_of_callback raises)⟩
      rw [session.callback_delivered]
      exact List.mem_append_right _ (List.mem_singleton.mpr rfl)

/-- A session that is started first and never stopped, and in which no call of the library
raises, is left by an exception only after the parser has raised on a delivered packet. -/
theorem unstopped_raises_in_parsing (interface : String) (actions : List Action)
    (session : Session) (returns : ∀ action ∈ actions, action.Returns)
    (replays : replay Session.perform (.fresh interface) (.start true :: actions) = some session)
    (left : session.phase = .raised) :
    ∃ packet ∈ session.delivered, ∃ error, parseIpPacket packet.raw = .error error := by
  obtain ⟨next, performs, finishes⟩ := replay.cons_eq_some.mp replays
  cases performs
  have started : Sound { Session.fresh interface with
      capture := (Session.fresh interface).capture.start, bound := true } :=
    ⟨rfl, by simp [Session.fresh]⟩
  have sound := replay.preserves_meeting (fun _ _ _ sound => Sound.perform sound) started
    (.of_forall returns _) finishes
  exact sound.parser left

/-- A datagram whose data offset is missing ends the generator. -/
theorem unstopped_raises_in_parsing_truncated :
    ∃ session, replay Session.perform (.fresh "nfqueue")
        (.start true :: [.resume, .turn, .selected true,
          .deliver { handle := 0, raw := truncatedTcp } true]) = some session ∧
      ∃ packet ∈ session.delivered, ∃ error, parseIpPacket packet.raw = .error error := by
  have replays : ∃ session, replay Session.perform (.fresh "nfqueue")
      (.start true :: [.resume, .turn, .selected true,
        .deliver { handle := 0, raw := truncatedTcp } true]) = some session ∧
        session.phase = .raised :=
    ⟨_, rfl, rfl⟩
  obtain ⟨session, replays, left⟩ := replays
  exact ⟨session, replays, unstopped_raises_in_parsing "nfqueue" _ session
    (by simp [Action.Returns]) replays left⟩

/-- A stop while the generator waits for the socket leaves it nothing to read from. -/
example : (replay Session.perform (.fresh "nfqueue")
    [.start true, .resume, .turn, .stop, .selected true]).map Session.phase = some .raised := rfl

end NFQueue

end SmartBandwidth

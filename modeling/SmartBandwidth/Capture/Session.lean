import SmartBandwidth.Core.Packet
import SmartBandwidth.Lib.Replay

/-!
# Capture sessions

A backend yields packets to the loop that pulls them, while another thread may stop it.  A
generator is modelled by its position, so that a stop falls between any two of its turns.
-/

namespace SmartBandwidth

/-- `CaptureStats`. -/
structure CaptureStats where
  packetsCaptured : Nat := 0
  packetsDropped : Nat := 0
  bytesCaptured : Int := 0
  deriving DecidableEq, Repr

/-- `drop_rate`. -/
def CaptureStats.dropRate (stats : CaptureStats) : ℚ :=
  let total := stats.packetsCaptured + stats.packetsDropped
  if total = 0 then 0 else stats.packetsDropped / total

/-- `CapturedPacket`; a handle names a packet of the kernel's queue. -/
structure CapturedPacket where
  packet : Packet
  timestamp : ℚ
  interface : String := "unknown"
  rawFrame : Option (List UInt8) := none
  nfqueueHandle : Option Nat := none
  deriving DecidableEq, Repr

/-- The fields of `BaseCapture`. -/
structure BaseCapture where
  interface : String := "any"
  stats : CaptureStats := {}
  running : Bool := false
  deriving DecidableEq, Repr

namespace BaseCapture

/-- `start`. -/
def start (capture : BaseCapture) : BaseCapture := { capture with running := true }

/-- `stop`. -/
def stop (capture : BaseCapture) : BaseCapture := { capture with running := false }

/-- `_record_captured`. -/
def recordCaptured (capture : BaseCapture) (packet : Packet) : BaseCapture :=
  { capture with stats := { capture.stats with
      packetsCaptured := capture.stats.packetsCaptured + 1
      bytesCaptured := capture.stats.bytesCaptured + packet.sizeBytes } }

/-- `_record_dropped`. -/
def recordDropped (capture : BaseCapture) : BaseCapture :=
  { capture with stats := { capture.stats with
      packetsDropped := capture.stats.packetsDropped + 1 } }

end BaseCapture

/-! ## The books of a session -/

/-- The counters count the packets of a list, and as many drops. -/
structure BaseCapture.Counts (capture : BaseCapture) (packets : List Packet) (dropped : Nat) :
    Prop where
  captured : capture.stats.packetsCaptured = packets.length
  dropped : capture.stats.packetsDropped = dropped
  bytes : capture.stats.bytesCaptured = (packets.map Packet.sizeBytes).sum

namespace BaseCapture.Counts

variable {capture : BaseCapture} {packets : List Packet} {dropped : Nat}

theorem fresh (interface : String) : Counts { interface := interface } [] 0 := ⟨rfl, rfl, rfl⟩

theorem recordCaptured (counts : capture.Counts packets dropped) (packet : Packet) :
    (capture.recordCaptured packet).Counts (packets ++ [packet]) dropped where
  captured := by
    rw [List.length_append]
    exact congrArg (· + 1) counts.captured
  dropped := counts.dropped
  bytes := by
    rw [List.map_append, List.sum_append]
    simp [BaseCapture.recordCaptured, counts.bytes]

theorem recordDropped (counts : capture.Counts packets dropped) :
    capture.recordDropped.Counts packets (dropped + 1) :=
  ⟨counts.captured, congrArg (· + 1) counts.dropped, counts.bytes⟩

end BaseCapture.Counts

/-! ## Generators -/

/-- What tells the generators apart: how an item is read as a packet, the frame it is kept with,
whether the loop looks at `_running` before it reads an item or after, and whether it goes back
for more items when it has none left. -/
structure CaptureSource (α : Type) where
  parse : α → Option Packet
  rawFrame : α → Option (List UInt8) := fun _ => none
  checksFirst : Bool := false
  live : Bool := false

/-- Where a generator stands: at a `yield` or its beginning, inside the loop over its items, at
the outer loop of a live capture, inside `sniff`, or past its end. -/
inductive GeneratorPhase where
  | suspended
  | looping
  | outer
  | sniffing
  | closed
  deriving DecidableEq, Repr

/-- A capture with its generator, the items that are left to it, what it has been given so far,
and what it has yielded. -/
structure CaptureSession (α : Type) where
  capture : BaseCapture
  phase : GeneratorPhase
  remaining : List α
  given : List α
  yielded : List CapturedPacket

/-- The turns of a session. -/
inductive CaptureAction (α : Type) where
  | start
  | stop
  | resume
  | turn (timestamp : ℚ)
  | sniffed (items : List α)

namespace CaptureSession

variable {α : Type}

/-- The session before the first `next`; a live capture starts as if a batch had just ended. -/
def fresh (source : CaptureSource α) (interface : String) (items : List α) :
    CaptureSession α where
  capture := { interface := interface }
  phase := .suspended
  remaining := if source.live then [] else items
  given := if source.live then [] else items
  yielded := []

/-- One turn of the loop over the items. -/
def turnLoop (source : CaptureSource α) (session : CaptureSession α) (timestamp : ℚ) :
    CaptureSession α :=
  if source.checksFirst && !session.capture.running then
    { session with phase := .closed }
  else
    match session.remaining with
    | [] => { session with phase := if source.live then .outer else .closed }
    | item :: rest =>
        let session := { session with remaining := rest }
        if !session.capture.running then
          { session with phase := .closed }
        else
          match source.parse item with
          | none => { session with capture := session.capture.recordDropped }
          | some packet => { session with
              capture := session.capture.recordCaptured packet
              phase := .suspended
              yielded := session.yielded ++ [{
                packet := packet
                timestamp := timestamp
                interface := session.capture.interface
                rawFrame := source.rawFrame item }] }

/-- One action, where the session is in its place. -/
def perform (source : CaptureSource α) (session : CaptureSession α) :
    CaptureAction α → Option (CaptureSession α)
  | .start => some { session with capture := session.capture.start }
  | .stop => some { session with capture := session.capture.stop }
  | .resume =>
      if session.phase = .suspended then
        some { session with phase := .looping }
      else
        none
  | .turn timestamp =>
      match session.phase with
      | .looping => some (turnLoop source session timestamp)
      | .outer => some { session with
          phase := if session.capture.running then .sniffing else .closed }
      | .suspended | .sniffing | .closed => none
  | .sniffed items =>
      if session.phase = .sniffing then
        some { session with
          phase := .looping
          remaining := items
          given := session.given ++ items }
      else
        none

end CaptureSession

/-! ## The backends -/

namespace SimulatedCapture

/-- `_from_iterable`. -/
def fromIterable : CaptureSource Packet where
  parse := some

/-- `_from_callable`, whose source is the list of its answers before `None`. -/
def fromCallable : CaptureSource Packet where
  parse := some
  checksFirst := true

end SimulatedCapture

/-- What `_scapy_pkt_to_packet` reads of a frame: the addresses of its IP layers, the ports and
the payload of its transport layers, its length and its bytes. -/
structure ScapyFrame where
  ip : Option (String × String) := none
  ipv6 : Option (String × String) := none
  tcp : Option (Int × Int × List UInt8) := none
  udp : Option (Int × Int × List UInt8) := none
  icmp : Option (List UInt8) := none
  length : Nat
  bytes : List UInt8

namespace LibpcapCapture

/-- The ports, the protocol and the payload, by the first transport layer that is there. -/
def transport (frame : ScapyFrame) : Int × Int × String × List UInt8 :=
  match frame.tcp, frame.udp, frame.icmp with
  | some (srcPort, dstPort, payload), _, _ => (srcPort, dstPort, "tcp", payload)
  | none, some (srcPort, dstPort, payload), _ => (srcPort, dstPort, "udp", payload)
  | none, none, some payload => (0, 0, "icmp", payload)
  | none, none, none => (0, 0, "unknown", [])

/-- `_scapy_pkt_to_packet`, with scapy's layers installed. -/
def scapyPktToPacket (frame : ScapyFrame) : Option Packet :=
  (frame.ip.or frame.ipv6).map fun (srcIp, dstIp) =>
    let (srcPort, dstPort, protocol, payload) := transport frame
    Packet.postInit {
      srcIp := srcIp
      dstIp := dstIp
      srcPort := srcPort
      dstPort := dstPort
      protocol := protocol
      payload := payload
      sizeBytes := frame.length }

/-- `_replay_pcap`. -/
def replayPcap : CaptureSource ScapyFrame where
  parse := scapyPktToPacket
  rawFrame := fun frame => some frame.bytes

/-- `_live_sniff`. -/
def liveSniff : CaptureSource ScapyFrame where
  parse := scapyPktToPacket
  rawFrame := fun frame => some frame.bytes
  live := true

end LibpcapCapture

/-! ## What becomes of the items -/

/-- What is yielded for an item. -/
def CaptureSource.yields {α : Type} (source : CaptureSource α) (item : α) :
    Option (Packet × Option (List UInt8)) :=
  (source.parse item).map (·, source.rawFrame item)

namespace CaptureSession

variable {α : Type} {source : CaptureSource α}

/-- Of the items a generator was given it has passed some, lost at most one to a stop, and has the
others left.  What it has passed it has yielded or counted as dropped. -/
structure Accounted (source : CaptureSource α) (session : CaptureSession α)
    (passed lost : List α) : Prop where
  split : session.given = passed ++ lost ++ session.remaining
  yields : (session.yielded.map fun captured => (captured.packet, captured.rawFrame)) =
    passed.filterMap source.yields
  counts : session.capture.Counts (passed.filterMap source.parse)
    (passed.countP fun item => (source.parse item).isNone)
  lostOne : lost.length ≤ 1
  lostClosed : lost ≠ [] → session.phase = .closed ∧ source.checksFirst = false
  betweenBatches : session.phase = .outer ∨ session.phase = .sniffing → session.remaining = []

/-- The capture runs, nothing is lost, and nothing is left when the generator is closed. -/
structure Whole (session : CaptureSession α) (lost : List α) : Prop where
  running : session.capture.running = true
  unlost : lost = []
  exhausted : session.phase = .closed → session.remaining = []

namespace Accounted

variable {session : CaptureSession α} {passed lost : List α}

theorem fresh (source : CaptureSource α) (interface : String) (items : List α) :
    Accounted source (.fresh source interface items) [] [] where
  split := rfl
  yields := rfl
  counts := .fresh interface
  lostOne := Nat.zero_le 1
  lostClosed := fun lost => absurd rfl lost
  betweenBatches := by
    intro between
    rcases between with impossible | impossible <;> cases impossible

/-- A session that is not closed has lost nothing. -/
theorem lost_eq_nil (accounted : Accounted source session passed lost)
    (going : session.phase ≠ .closed) : lost = [] :=
  Classical.byContradiction fun losing => going (accounted.lostClosed losing).1

/-- Moving on, or starting and stopping, where no item is read. -/
theorem moved (accounted : Accounted source session passed lost) (capture : BaseCapture)
    (same : capture.stats = session.capture.stats) {phase : GeneratorPhase}
    (kept : lost ≠ [] → phase = .closed)
    (between : phase = .outer ∨ phase = .sniffing → session.remaining = []) :
    Accounted source { session with capture := capture, phase := phase } passed lost where
  split := accounted.split
  yields := accounted.yields
  counts := ⟨same ▸ accounted.counts.captured, same ▸ accounted.counts.dropped,
    same ▸ accounted.counts.bytes⟩
  lostOne := accounted.lostOne
  lostClosed := fun losing => ⟨kept losing, (accounted.lostClosed losing).2⟩
  betweenBatches := between

/-- A turn reads at most one item, which is passed unless the capture has been stopped. -/
theorem turnLoop (accounted : Accounted source session passed [])
    (looping : session.phase = .looping) (timestamp : ℚ) :
    ∃ passed lost, Accounted source (CaptureSession.turnLoop source session timestamp)
        passed lost ∧
      (session.capture.running = true →
        Whole (CaptureSession.turnLoop source session timestamp) lost) := by
  obtain ⟨capture, phase, remaining, given, yielded⟩ := session
  have split : given = passed ++ remaining := by simpa using accounted.split
  replace looping : phase = .looping := looping
  rw [CaptureSession.turnLoop]
  split
  next halted =>
    rw [Bool.and_eq_true, Bool.not_eq_true'] at halted
    refine ⟨passed, [], accounted.moved _ rfl (absurd rfl) (by simp), ?_⟩
    intro running
    rw [halted.2] at running
    cases running
  next going =>
    cases remaining with
    | nil => exact ⟨passed, [], accounted.moved _ rfl (absurd rfl) (fun _ => rfl),
        fun running => ⟨running, rfl, fun _ => rfl⟩⟩
    | cons item rest =>
        simp only
        split
        next stopped =>
          rw [Bool.not_eq_true'] at stopped
          refine ⟨passed, [item], ?_, by simp [stopped]⟩
          exact
            { split := by simp [split]
              yields := accounted.yields
              counts := accounted.counts
              lostOne := le_rfl
              lostClosed := fun _ => ⟨rfl, by simpa [stopped] using going⟩
              betweenBatches := by simp }
        next =>
          cases reads : source.parse item with
          | none =>
              have unyielded : source.yields item = none := by
                rw [CaptureSource.yields, reads, Option.map_none]
              refine ⟨passed ++ [item], [], ?_, fun running => ⟨running, rfl, by simp [looping]⟩⟩
              exact
                { split := by simp [split]
                  yields := by simp [accounted.yields, unyielded]
                  counts := by
                    rw [List.countP_append, List.filterMap_append]
                    simpa [reads] using accounted.counts.recordDropped
                  lostOne := Nat.zero_le 1
                  lostClosed := absurd rfl
                  betweenBatches := by simp [looping] }
          | some packet =>
              have reading : source.yields item =
                  some (packet, source.rawFrame item) := by
                rw [CaptureSource.yields, reads, Option.map_some]
              refine ⟨passed ++ [item], [], ?_, fun running => ⟨running, rfl, by simp⟩⟩
              exact
                { split := by simp [split]
                  yields := by simp [accounted.yields, reading]
                  counts := by
                    rw [List.countP_append, List.filterMap_append]
                    simpa [reads] using accounted.counts.recordCaptured packet
                  lostOne := Nat.zero_le 1
                  lostClosed := absurd rfl
                  betweenBatches := by simp }

/-- Every action keeps the account; none but a stop makes a capture lose an item. -/
theorem perform (accounted : Accounted source session passed lost) {action : CaptureAction α}
    {next : CaptureSession α}
    (performs : CaptureSession.perform source session action = some next) :
    ∃ passed lost', Accounted source next passed lost' ∧
      (action ≠ .stop → Whole session lost → Whole next lost') := by
  cases action with
  | start =>
      cases performs
      exact ⟨passed, lost, accounted.moved session.capture.start rfl
        (fun losing => (accounted.lostClosed losing).1) accounted.betweenBatches,
        fun _ whole => ⟨rfl, whole.unlost, whole.exhausted⟩⟩
  | stop =>
      cases performs
      exact ⟨passed, lost, accounted.moved session.capture.stop rfl
        (fun losing => (accounted.lostClosed losing).1) accounted.betweenBatches,
        fun unstopped => absurd rfl unstopped⟩
  | resume =>
      simp only [CaptureSession.perform, Option.ite_none_right_eq_some] at performs
      obtain ⟨suspended, performs⟩ := performs
      cases performs
      cases accounted.lost_eq_nil (by simp [suspended])
      exact ⟨passed, [], accounted.moved _ rfl (absurd rfl) (by simp),
        fun _ whole => ⟨whole.running, rfl, by simp⟩⟩
  | turn timestamp =>
      cases phase : session.phase with
      | looping =>
          simp only [CaptureSession.perform, phase] at performs
          cases performs
          cases accounted.lost_eq_nil (by simp [phase])
          obtain ⟨passed, lost, kept, whole⟩ := accounted.turnLoop phase timestamp
          exact ⟨passed, lost, kept, fun _ before => whole before.running⟩
      | outer =>
          simp only [CaptureSession.perform, phase] at performs
          cases performs
          cases accounted.lost_eq_nil (by simp [phase])
          have left := accounted.betweenBatches (.inl phase)
          exact ⟨passed, [], accounted.moved _ rfl (absurd rfl) (fun _ => left),
            fun _ whole => ⟨whole.running, rfl, fun _ => left⟩⟩
      | suspended | sniffing | closed =>
          simp only [CaptureSession.perform, phase] at performs
          cases performs
  | sniffed items =>
      simp only [CaptureSession.perform, Option.ite_none_right_eq_some] at performs
      obtain ⟨sniffing, performs⟩ := performs
      cases performs
      cases accounted.lost_eq_nil (by simp [sniffing])
      refine ⟨passed, [], ?_, fun _ whole => ⟨whole.running, rfl, by simp⟩⟩
      exact
        { split := by
            rw [accounted.split, accounted.betweenBatches (.inr sniffing)]
            simp
          yields := accounted.yields
          counts := accounted.counts
          lostOne := accounted.lostOne
          lostClosed := absurd rfl
          betweenBatches := by simp }

end Accounted

/-- However the turns of a generator, starts and stops follow each other, the packets yielded are
what the items before the first lost one read as, in order; at most one item is lost, and only by
a loop that reads an item before it sees that it was stopped. -/
theorem replay_accounted (source : CaptureSource α) (interface : String) (items : List α)
    (actions : List (CaptureAction α)) (session : CaptureSession α)
    (replays : replay (perform source) (fresh source interface items) actions = some session) :
    ∃ passed lost, Accounted source session passed lost := by
  have kept (state : CaptureSession α) (action : CaptureAction α) (next : CaptureSession α)
      (accounted : ∃ passed lost, Accounted source state passed lost)
      (performs : perform source state action = some next) :
      ∃ passed lost, Accounted source next passed lost := by
    obtain ⟨passed, lost, accounted⟩ := accounted
    obtain ⟨passed, lost, accounted, _⟩ := accounted.perform performs
    exact ⟨passed, lost, accounted⟩
  exact replay.preserves kept ⟨[], [], Accounted.fresh source interface items⟩ replays

/-- A capture that is started and never stopped has yielded all it was given when its generator
ends. -/
theorem unstopped_yields_all (source : CaptureSource α) (interface : String) (items : List α)
    (actions : List (CaptureAction α)) (session : CaptureSession α)
    (unstopped : CaptureAction.stop ∉ actions)
    (replays : replay (perform source) (fresh source interface items) (.start :: actions) =
      some session)
    (closed : session.phase = .closed) :
    (session.yielded.map fun captured => (captured.packet, captured.rawFrame)) =
        session.given.filterMap source.yields ∧
      session.capture.Counts (session.given.filterMap source.parse)
        (session.given.countP fun item => (source.parse item).isNone) := by
  have started : ∃ passed, Accounted source
      { fresh source interface items with
        capture := (fresh source interface items).capture.start } passed [] ∧
      Whole { fresh source interface items with
        capture := (fresh source interface items).capture.start } ([] : List α) := by
    have begun := Accounted.fresh source interface items
    exact ⟨[], begun.moved (BaseCapture.start _) rfl (absurd rfl) begun.betweenBatches, rfl, rfl,
      by simp [fresh]⟩
  have kept (state : CaptureSession α) (action : CaptureAction α) (next : CaptureSession α)
      (whole : ∃ passed, Accounted source state passed [] ∧ Whole state ([] : List α))
      (going : action ≠ .stop) (performs : perform source state action = some next) :
      ∃ passed, Accounted source next passed [] ∧ Whole next ([] : List α) := by
    obtain ⟨passed, accounted, whole⟩ := whole
    obtain ⟨passed, lost, accounted, remains⟩ := accounted.perform performs
    have whole := remains going whole
    cases whole.unlost
    exact ⟨passed, accounted, whole⟩
  have going : ∀ action ∈ actions, action ≠ .stop := by
    intro action member same
    exact unstopped (same ▸ member)
  obtain ⟨next, performs, finishes⟩ := replay.cons_eq_some.mp replays
  cases performs
  obtain ⟨passed, accounted, whole⟩ := replay.preserves_meeting kept started
    (.of_forall going _) finishes
  have given : session.given = passed := by
    rw [accounted.split, whole.exhausted closed]
    simp
  rw [given]
  exact ⟨accounted.yields, accounted.counts⟩

/-- Three packets, a stop after the first, and a second packet read and lost. -/
def stoppedIterable : List (CaptureAction Packet) :=
  [.start, .resume, .turn 0, .stop, .resume, .turn 0]

/-- The account of the stopped session: one packet is yielded, one lost and one left. -/
theorem replay_accounted_stopped :
    ∃ session, replay (perform SimulatedCapture.fromIterable)
        (fresh SimulatedCapture.fromIterable "sim0" [{}, {}, {}]) stoppedIterable = some session ∧
      session.phase = .closed ∧ session.yielded.length = 1 ∧ session.remaining.length = 1 ∧
      ∃ passed lost, Accounted SimulatedCapture.fromIterable session passed lost := by
  have replays : ∃ session, replay (perform SimulatedCapture.fromIterable)
      (fresh SimulatedCapture.fromIterable "sim0" [{}, {}, {}]) stoppedIterable = some session ∧
      session.phase = .closed ∧ session.yielded.length = 1 ∧ session.remaining.length = 1 :=
    ⟨_, rfl, rfl, rfl, rfl⟩
  obtain ⟨session, replays, closed, yielded, left⟩ := replays
  exact ⟨session, replays, closed, yielded, left, replay_accounted _ "sim0" _ _ session replays⟩

/-- Frames with an IP layer before and after one without. -/
def mixedFrames : List ScapyFrame :=
  [{ ip := some ("10.0.0.1", "10.0.0.2"), udp := some (53, 5353, [1, 2]), length := 30, bytes := [] },
    { length := 40, bytes := [] },
    { ipv6 := some ("::1", "::2"), icmp := some [3], length := 50, bytes := [] }]

/-- A capture file of these frames, replayed to its end: two packets are yielded. -/
theorem unstopped_yields_all_pcap :
    ∃ session, replay (perform LibpcapCapture.replayPcap)
        (fresh LibpcapCapture.replayPcap "eth0" mixedFrames)
        (.start :: [.resume, .turn 0, .resume, .turn 0, .turn 0, .resume, .turn 0]) =
          some session ∧
      session.yielded.length = 2 ∧ session.capture.stats.packetsDropped = 1 ∧
      (session.yielded.map fun captured => (captured.packet, captured.rawFrame)) =
          session.given.filterMap LibpcapCapture.replayPcap.yields ∧
        session.capture.Counts (session.given.filterMap LibpcapCapture.replayPcap.parse)
          (session.given.countP fun item => (LibpcapCapture.replayPcap.parse item).isNone) := by
  have replays : ∃ session, replay (perform LibpcapCapture.replayPcap)
      (fresh LibpcapCapture.replayPcap "eth0" mixedFrames)
      (.start :: [.resume, .turn 0, .resume, .turn 0, .turn 0, .resume, .turn 0]) =
        some session ∧ session.phase = .closed ∧ session.yielded.length = 2 ∧
          session.capture.stats.packetsDropped = 1 :=
    ⟨_, rfl, rfl, rfl, rfl⟩
  obtain ⟨session, replays, closed, yielded, dropped⟩ := replays
  exact ⟨session, replays, yielded, dropped,
    unstopped_yields_all _ "eth0" _ _ session (by simp) replays closed⟩

end CaptureSession

end SmartBandwidth

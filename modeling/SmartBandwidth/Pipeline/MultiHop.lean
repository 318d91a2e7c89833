import SmartBandwidth.Pipeline.Processing
import SmartBandwidth.Pipeline.RoundTrip

/-!
# Packets on several hops

A packet passes through one optimizer after the other, each with its own configuration and in a
state of its own.  A hop that lets the packet through tries to compress it; the marker tells the
hops after the one that did to leave the payload alone.
-/

namespace SmartBandwidth

open PayloadCompressor

/-- One hop: an optimizer, and the readings of its `process` call. -/
structure Hop where
  optimizer : BandwidthOptimizer
  readings : ProcessReadings

/-- What a hop reports: the result of its call, and what the call adds to
`bytes_saved_compression`. -/
structure HopReport where
  result : Except PyError ProcessResult
  saved : Nat

/-- The hop has compressed the packet. -/
def HopReport.compressed (report : HopReport) : Bool :=
  report.result.toOption.any ProcessResult.compressed

/-- The packet passes one hop. -/
def Hop.pass (rt : Runtime) (ref : PacketRef) (store : Store) (hop : Hop) : HopReport × Store :=
  let (result, optimizer, store) := hop.optimizer.process rt store hop.readings ref
  ({ result := result
     saved := optimizer.totalBytesSaved - hop.optimizer.totalBytesSaved }, store)

/-! ## One hop -/

/-- Only a payload without the magic bytes is compressed. -/
theorem PayloadCompressor.unmarked_of_wasCompressed {rt : Runtime} {config : OptimizerConfig}
    {data : List UInt8} {result : CompressionResult}
    (answered : compress rt config data = .ok result) (packed : result.wasCompressed = true) :
    isCompressed data = false := by
  cases marked : isCompressed data with
  | false => rfl
  | true =>
      rw [compress_marked marked] at answered
      cases answered
      cases packed

/-- What one hop can do to the payload and the size of its packet. -/
inductive Hop.Passes (rt : Runtime) (packet : Packet) : HopReport → Packet → Prop where
  | kept {report : HopReport} {later : Packet} :
      report.compressed = false → report.saved = 0 →
      later.payload = packet.payload → later.sizeBytes = packet.sizeBytes →
      Passes rt packet report later
  | packed {report : HopReport} {later : Packet} {level : Int} {body : List UInt8} :
      isCompressed packet.payload = false →
      rt.zlibCompress packet.payload level = .ok body →
      (magic ++ body).length < packet.payload.length →
      report.compressed = true →
      report.saved = packet.payload.length - (magic ++ body).length →
      later.payload = magic ++ body →
      later.sizeBytes = packet.sizeBytes - packet.payload.length + (magic ++ body).length →
      Passes rt packet report later

theorem Hop.pass_passes (rt : Runtime) (ref : PacketRef) (store : Store) (hop : Hop) :
    Passes rt (store ref) (hop.pass rt ref store).1 ((hop.pass rt ref store).2 ref) := by
  have processes := hop.optimizer.process_processes rt store hop.readings ref
  rw [pass]
  generalize hop.optimizer.process rt store hop.readings ref = outcome at processes ⊢
  cases processes with
  | classifyRaised => exact .kept rfl (Nat.sub_self _) rfl rfl
  | filtered prepares =>
      have payload := (BandwidthOptimizer.preparation_prepares prepares).payload
      have size := BandwidthOptimizer.preparation_sizeBytes prepares
      exact .kept rfl (Nat.sub_self _)
        ((congrArg Packet.payload (Store.set_self store ref _)).trans payload)
        ((congrArg Packet.sizeBytes (Store.set_self store ref _)).trans size)
  | compressRaised prepares =>
      have payload := (BandwidthOptimizer.preparation_prepares prepares).payload
      have size := BandwidthOptimizer.preparation_sizeBytes prepares
      exact .kept rfl (Nat.sub_self _)
        ((congrArg Packet.payload (Store.set_self store ref _)).trans payload)
        ((congrArg Packet.sizeBytes (Store.set_self store ref _)).trans size)
  | @admitted prepared result prepares _ compresses =>
      have payload := (BandwidthOptimizer.preparation_prepares prepares).payload
      have size := BandwidthOptimizer.preparation_sizeBytes prepares
      have queued := congrFun
        (hop.optimizer.scheduling_store store hop.readings ref prepared result) ref
      rw [Store.set_self] at queued
      rcases compress_cases compresses with rfl | ⟨body, deflated, shorter, rfl⟩
      · exact .kept rfl (Nat.sub_self _) ((congrArg Packet.payload queued).trans payload)
          ((congrArg Packet.sizeBytes queued).trans size)
      · have unmarked := unmarked_of_wasCompressed compresses rfl
        have saved := Nat.add_sub_cancel_left hop.optimizer.totalBytesSaved
          (prepared.packet.payload.length - (magic ++ body).length)
        have resized := congrArg Packet.sizeBytes queued
        simp only [BandwidthOptimizer.queuedPacket, BandwidthOptimizer.compressedPacket,
          ↓reduceIte, Packet.stamped, payload, size] at resized
        have original := congrArg (fun bytes => bytes.length - (magic ++ body).length) payload
        rw [payload] at unmarked deflated shorter
        exact .packed unmarked deflated shorter rfl (saved.trans original)
          (congrArg Packet.payload queued) resized

namespace Hop

variable {rt : Runtime} {packet later original : Packet} {report : HopReport}

/-- No hop makes the payload longer. -/
theorem Passes.length_le (passes : Passes rt packet report later) :
    later.payload.length ≤ packet.payload.length := by
  cases passes with
  | kept _ _ payload => rw [payload]
  | packed _ _ shorter _ _ payload =>
      rw [payload]
      exact shorter.le

/-! ## All hops -/

/-- What some hops have made of a packet: it is as it was, or one of them has compressed it. -/
inductive Carries (inflate : List UInt8 → Except String (List UInt8)) (original : Packet) :
    Nat → Nat → Packet → Prop where
  | plain {packet : Packet} : packet.payload = original.payload →
      packet.sizeBytes = original.sizeBytes → Carries inflate original 0 0 packet
  | packed {packet : Packet} {body : List UInt8} {saved : Nat} :
      inflate body = .ok original.payload → packet.payload = magic ++ body →
      saved + packet.payload.length = original.payload.length →
      packet.sizeBytes + original.payload.length =
        original.sizeBytes + packet.payload.length →
      Carries inflate original 1 saved packet

variable {inflate : List UInt8 → Except String (List UInt8)} {packings saved : Nat}

theorem Carries.step (carries : Carries inflate original packings saved packet)
    (undoes : ∀ data level body, rt.zlibCompress data level = .ok body → inflate body = .ok data)
    (passes : Passes rt packet report later) :
    Carries inflate original (packings + if report.compressed then 1 else 0)
      (saved + report.saved) later := by
  cases passes with
  | kept unpacked nothing payload size =>
      rw [unpacked, nothing]
      cases carries with
      | plain samePayload sameSize =>
          exact .plain (payload.trans samePayload) (size.trans sameSize)
      | packed inflates marked difference sizes =>
          rw [← payload] at marked difference sizes
          rw [← size] at sizes
          exact .packed inflates marked difference sizes
  | packed unmarked deflated shorter flagged gained payload size =>
      rw [flagged, gained]
      cases carries with
      | plain samePayload sameSize =>
          rw [samePayload] at deflated shorter size gained ⊢
          refine .packed (undoes _ _ _ deflated) payload ?_ ?_
          · rw [payload]
            omega
          · rw [payload, size, sameSize]
            omega
      | packed _ marked =>
          rw [marked, isCompressed_append] at unmarked
          cases unmarked

/-- A packet without the magic bytes is read as it was sent. -/
theorem Carries.restored (carries : Carries inflate original packings saved packet)
    (unmarked : isCompressed original.payload = false) :
    decompress inflate packet.payload = .ok original.payload := by
  cases carries with
  | plain payload =>
      rw [payload]
      exact decompress_plain unmarked
  | packed inflates marked =>
      rw [marked]
      exact decompress_append inflates

theorem Carries.packings_le_one (carries : Carries inflate original packings saved packet) :
    packings ≤ 1 := by
  cases carries with
  | plain => exact Nat.zero_le 1
  | packed => exact le_rfl

/-- The saved bytes are those the payload has lost. -/
theorem Carries.saved_add (carries : Carries inflate original packings saved packet) :
    saved + packet.payload.length = original.payload.length := by
  cases carries with
  | plain payload => rw [payload, Nat.zero_add]
  | packed _ _ difference => exact difference

/-- The size beside the payload has not changed. -/
theorem Carries.overhead (carries : Carries inflate original packings saved packet) :
    packet.sizeBytes - packet.payload.length = original.sizeBytes - original.payload.length := by
  cases carries with
  | plain payload size => rw [payload, size]
  | packed _ _ _ sizes => omega

section Run

variable {ref : PacketRef} {store : Store}

theorem run_carries
    (undoes : ∀ data level body, rt.zlibCompress data level = .ok body → inflate body = .ok data)
    (hops : List Hop) :
    Carries inflate (store ref)
      ((Machine.run (pass rt ref) store hops).1.countP HopReport.compressed)
      ((Machine.run (pass rt ref) store hops).1.map HopReport.saved).sum
      ((Machine.run (pass rt ref) store hops).2 ref) := by
  induction hops using List.reverseRecOn with
  | nil => exact .plain rfl rfl
  | append_singleton hops hop ih =>
      have next := ih.step undoes (pass_passes rt ref _ hop)
      rw [Machine.run_append, List.countP_append, List.map_append, List.sum_append]
      simpa only [Machine.run_cons, Machine.run_nil, List.countP_singleton, List.map_singleton,
        List.sum_singleton] using next

theorem run_length_le (hops : List Hop) :
    ((Machine.run (pass rt ref) store hops).2 ref).payload.length ≤
      (store ref).payload.length := by
  have kept (current : Store) (hop : Hop)
      (bounded : (current ref).payload.length ≤ (store ref).payload.length) :
      ((pass rt ref current hop).2 ref).payload.length ≤ (store ref).payload.length :=
    (pass_passes rt ref current hop).length_le.trans bounded
  exact Machine.run_invariant kept le_rfl hops

end Run

end Hop

/-- Through any chain of optimizers, if `zlib.decompress` undoes `zlib.compress`: a payload without
the magic bytes is restored by one `decompress`, at most one hop has compressed it, no hop makes
it longer or changes the size beside it, and the saved bytes of all hops are those it has lost. -/
theorem restored_after_hops (rt : Runtime) (inflate : List UInt8 → Except String (List UInt8))
    (undoes : ∀ data level body, rt.zlibCompress data level = .ok body → inflate body = .ok data)
    (store : Store) (ref : PacketRef) (unmarked : (store ref).payload.take magic.length ≠ magic)
    (hops : List Hop) :
    let reports := (Machine.run (Hop.pass rt ref) store hops).1
    let sent := store ref
    let received := (Machine.run (Hop.pass rt ref) store hops).2 ref
    decompress inflate received.payload = .ok sent.payload ∧
      reports.countP HopReport.compressed ≤ 1 ∧
      (∀ before after, before ++ after = hops → received.payload.length ≤
        ((Machine.run (Hop.pass rt ref) store before).2 ref).payload.length) ∧
      received.sizeBytes - received.payload.length = sent.sizeBytes - sent.payload.length ∧
      (reports.map HopReport.saved).sum + received.payload.length = sent.payload.length := by
  intro reports sent received
  have carries : Hop.Carries inflate sent (reports.countP HopReport.compressed)
      (reports.map HopReport.saved).sum received := Hop.run_carries undoes hops
  refine ⟨carries.restored (isCompressed_eq_false_iff.mpr unmarked), carries.packings_le_one, ?_,
    carries.overhead, carries.saved_add⟩
  intro before after split
  simp only [received, ← split, Machine.run_append]
  exact Hop.run_length_le after

/-- A configuration that compresses payloads from ten bytes on. -/
def eagerConfig : OptimizerConfig where
  compressionThresholdBytes := 10

/-- Forty letters go through two hops, the first of which compresses them. -/
theorem restored_after_two_hops :
    ∃ optimizer, BandwidthOptimizer.init eagerConfig none (fun _ => 0) = .ok optimizer ∧
      let store : Store := fun _ => { payload := fortyLetters, priority := some .critical }
      let hops : List Hop := [⟨optimizer, .frozen 0 0⟩, ⟨optimizer, .frozen 1 0⟩]
      let arrived := Machine.run (Hop.pass tableRuntime 0) store hops
      arrived.1.map HopReport.compressed = [true, false] ∧
        decompress tableInflate (arrived.2 0).payload = .ok fortyLetters := by
  let store : Store := fun _ => { payload := fortyLetters, priority := some .critical }
  have evaluated : (BandwidthOptimizer.init eagerConfig none fun _ => 0).toOption.map
      (fun optimizer => (Machine.run (Hop.pass tableRuntime 0) store
        [⟨optimizer, .frozen 0 0⟩, ⟨optimizer, .frozen 1 0⟩]).1.map HopReport.compressed) =
        some [true, false] := by decide +kernel
  obtain ⟨optimizer, constructed⟩ : ∃ optimizer,
      BandwidthOptimizer.init eagerConfig none (fun _ => 0) = .ok optimizer :=
    BandwidthOptimizer.init_constructs none (by decide) _
  rw [constructed] at evaluated
  have restored := (restored_after_hops tableRuntime tableInflate table_contract.undoes store 0
    (by decide) [⟨optimizer, .frozen 0 0⟩, ⟨optimizer, .frozen 1 0⟩]).1
  exact ⟨optimizer, constructed, Option.some.inj evaluated, restored⟩

end SmartBandwidth

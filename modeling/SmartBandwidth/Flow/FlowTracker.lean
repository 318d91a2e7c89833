import SmartBandwidth.Core.Packet
import SmartBandwidth.Lib.Dict

/-!
# Flow tracking

Packets of one conversation share a flow record, which derives behavioural scores; the
scores move a packet's class up or down by one level.  Every clock reading an update
takes is an input.
-/

namespace SmartBandwidth

/-! ## Flow keys -/

/-- A direction-independent 5-tuple. -/
structure FlowKey where
  srcIp : String
  dstIp : String
  srcPort : Int
  dstPort : Int
  protocol : String
  deriving DecidableEq, Repr

/-- The comparison of two `(ip, port)` tuples. -/
def endpointLe (left right : String × Int) : Bool :=
  decide (left.1 < right.1) || (left.1 == right.1 && decide (left.2 ≤ right.2))

/-- `FlowKey.from_packet`: the smaller endpoint comes first. -/
def FlowKey.fromPacket (rt : Runtime) (packet : Packet) : FlowKey :=
  if endpointLe (packet.srcIp, packet.srcPort) (packet.dstIp, packet.dstPort) then
    { srcIp := packet.srcIp
      dstIp := packet.dstIp
      srcPort := packet.srcPort
      dstPort := packet.dstPort
      protocol := rt.lower packet.protocol }
  else
    { srcIp := packet.dstIp
      dstIp := packet.srcIp
      srcPort := packet.dstPort
      dstPort := packet.srcPort
      protocol := rt.lower packet.protocol }

/-! ## Flow records -/

/-- Per-flow statistics and scores. -/
structure FlowRecord where
  key : FlowKey
  firstSeen : ℚ
  lastSeen : ℚ
  packetCount : Nat := 0
  byteCount : Int := 0
  emaIpt : ℚ := 0
  lastPktTime : ℚ := 0
  iptAlpha : ℚ := 1 / 5
  emaPktSize : ℚ := 0
  sizeAlpha : ℚ := 1 / 5
  burstWindowStart : ℚ := 0
  burstWindowPkts : Nat := 0
  burstWindowDuration : ℚ := 1 / 10
  maxBurstRate : ℚ := 0
  latencyScore : ℚ := 0
  bandwidthScore : ℚ := 0
  burstScore : ℚ := 0
  valueCoefficient : ℚ := 1
  deriving DecidableEq, Repr

namespace FlowRecord

/-- The inter-packet time average. -/
def updateIpt (record : FlowRecord) (now : ℚ) : FlowRecord :=
  let emaIpt :=
    if 0 < record.lastPktTime then
      let ipt := now - record.lastPktTime
      if record.emaIpt = 0 then ipt
      else record.iptAlpha * ipt + (1 - record.iptAlpha) * record.emaIpt
    else
      record.emaIpt
  { record with emaIpt := emaIpt, lastPktTime := now }

/-- The packet size average. -/
def updateSize (record : FlowRecord) (sizeBytes : Int) : FlowRecord :=
  let emaPktSize :=
    if record.emaPktSize = 0 then (sizeBytes : ℚ)
    else record.sizeAlpha * sizeBytes + (1 - record.sizeAlpha) * record.emaPktSize
  { record with emaPktSize := emaPktSize }

/-- The burst window: a window that has passed is rated and restarted. -/
def updateBurst (record : FlowRecord) (now : ℚ) : FlowRecord :=
  let record :=
    if record.burstWindowDuration < now - record.burstWindowStart then
      let maxBurstRate :=
        if 0 < record.burstWindowDuration then
          max record.maxBurstRate (record.burstWindowPkts / record.burstWindowDuration)
        else
          record.maxBurstRate
      { record with
        maxBurstRate := maxBurstRate
        burstWindowStart := now
        burstWindowPkts := 0 }
    else
      record
  { record with burstWindowPkts := record.burstWindowPkts + 1 }

/-- `_refresh_scores`. -/
def refreshScores (record : FlowRecord) : FlowRecord :=
  let sizeFactor := max 0 (1 - record.emaPktSize / 1500)
  let iptFactor :=
    if 0 < record.emaIpt then
      min 1 (max 0 (1 - (record.emaIpt - 1 / 100) / (49 / 100)))
    else
      0
  let duration := max (1 / 1000) (record.lastSeen - record.firstSeen)
  let byteRate := record.byteCount / duration
  { record with
    latencyScore := min 1 (6 / 10 * sizeFactor + 4 / 10 * iptFactor)
    bandwidthScore := min 1 (byteRate / (10 * 1024 * 1024))
    burstScore := min 1 (record.maxBurstRate / 1000) }

/-- `FlowRecord.update`. -/
def update (record : FlowRecord) (packet : Packet) (now : ℚ) : FlowRecord :=
  let counted := { record with
    lastSeen := now
    packetCount := record.packetCount + 1
    byteCount := record.byteCount + packet.sizeBytes }
  (((counted.updateIpt now).updateSize packet.sizeBytes).updateBurst now).refreshScores

end FlowRecord

/-! ## The flow table -/

/-- The clock readings of one `FlowTracker.update`: the expiry scan, the idle time of
each entry if one has to be evicted, the two time stamps of a new record, and the
update of the record. -/
structure FlowReadings where
  expire : ℚ
  idle : Nat → ℚ
  firstSeen : ℚ
  lastSeen : ℚ
  update : ℚ

/-- A call during which the clock shows one time. -/
def FlowReadings.at (now : ℚ) : FlowReadings where
  expire := now
  idle := fun _ => now
  firstSeen := now
  lastSeen := now
  update := now

/-- The flow table and its parameters. -/
structure FlowTracker where
  flowTtl : ℚ := 120
  maxFlows : Int := 65536
  boostThreshold : ℚ := 7 / 10
  demoteThreshold : ℚ := 8 / 10
  table : Dict FlowKey FlowRecord := .empty

namespace FlowTracker

/-- `_evict_expired`. -/
def evictExpired (tracker : FlowTracker) (now : ℚ) : FlowTracker :=
  { tracker with
    table := tracker.table.filter fun _ record =>
      decide (¬ tracker.flowTtl < now - record.lastSeen) }

/-- The scan of `max(..., key=idle_seconds)`: the first entry of greatest idle time. -/
def longestIdle (clock : Nat → ℚ) (slot : Nat) (oldest : FlowKey) (idle : ℚ) :
    List (FlowKey × FlowRecord) → FlowKey
  | [] => oldest
  | (key, record) :: rest =>
      let idleSeconds := clock slot - record.lastSeen
      if idle < idleSeconds then
        longestIdle clock (slot + 1) key idleSeconds rest
      else
        longestIdle clock (slot + 1) oldest idle rest

/-- `_evict_oldest`. -/
def evictOldest (tracker : FlowTracker) (clock : Nat → ℚ) : FlowTracker :=
  match tracker.table.entries with
  | [] => tracker
  | (key, record) :: rest =>
      let oldestKey := longestIdle clock 1 key (clock 0 - record.lastSeen) rest
      { tracker with table := tracker.table.erase oldestKey }

/-- The locked part of `update`: expire, make room, and find or create the record. -/
def lookup (tracker : FlowTracker) (key : FlowKey) (readings : FlowReadings) :
    FlowRecord × FlowTracker :=
  let tracker := tracker.evictExpired readings.expire
  match tracker.table.get? key with
  | some record => (record, tracker)
  | none =>
      let tracker :=
        if tracker.maxFlows ≤ tracker.table.size then
          tracker.evictOldest readings.idle
        else
          tracker
      let record : FlowRecord :=
        { key := key, firstSeen := readings.firstSeen, lastSeen := readings.lastSeen }
      (record, { tracker with table := tracker.table.set key record })

/-- Write a record back; the table holds the record object itself. -/
def writeBack (tracker : FlowTracker) (record : FlowRecord) (key : FlowKey) : FlowTracker :=
  { tracker with table := tracker.table.set key record }

/-- `update`. -/
def update (rt : Runtime) (tracker : FlowTracker) (packet : Packet)
    (readings : FlowReadings) : FlowRecord × FlowTracker :=
  let key := FlowKey.fromPacket rt packet
  let (record, tracker) := tracker.lookup key readings
  let record := record.update packet readings.update
  (record, tracker.writeBack record key)

/-- `get`. -/
def get (rt : Runtime) (tracker : FlowTracker) (packet : Packet) : Option FlowRecord :=
  tracker.table.get? (FlowKey.fromPacket rt packet)

/-- The public `evict_expired`: the pass and the number of flows it evicted. -/
def evictExpiredFlows (tracker : FlowTracker) (now : ℚ) : Int × FlowTracker :=
  let before := tracker.table.size
  let tracker := tracker.evictExpired now
  ((before : Int) - tracker.table.size, tracker)

/-- `priority_hint`. -/
def priorityHint (tracker : FlowTracker) (basePriority : TrafficPriority)
    (record : FlowRecord) : TrafficPriority :=
  let priorities := TrafficPriority.all
  let idx := priorities.idxOf basePriority
  if tracker.boostThreshold ≤ record.latencyScore ∧ 0 < idx then
    priorities.getD (idx - 1) basePriority
  else if tracker.demoteThreshold ≤ record.bandwidthScore ∧ idx < priorities.length - 1 then
    priorities.getD (idx + 1) basePriority
  else
    basePriority

/-- `flow_count`. -/
def flowCount (tracker : FlowTracker) : Nat := tracker.table.size

end FlowTracker

end SmartBandwidth

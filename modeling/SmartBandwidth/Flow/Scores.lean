import SmartBandwidth.Flow.Invariants
import SmartBandwidth.Lib.MovingAverage
import SmartBandwidth.Lib.TumblingWindow
import Mathlib.Algebra.Order.BigOperators.Group.List

/-!
# Flow scores

A flow record keeps two moving averages, a peak burst rate and two totals of the packets it has
seen.  Each of them is a function of the whole history of the flow; the scores clamp linear maps
of them.
-/

namespace SmartBandwidth

open MovingAverage

/-! ## The history of a flow -/

/-- The sizes of the packets of a history. -/
def packetSizes (arrivals : List (Packet × ℚ)) : List ℚ :=
  arrivals.map fun arrival => (arrival.1.sizeBytes : ℚ)

/-- The times of the packets of a history. -/
def arrivalTimes (arrivals : List (Packet × ℚ)) : List ℚ :=
  arrivals.map Prod.snd

/-- The gaps between successive times. -/
def gaps (times : List ℚ) : List ℚ :=
  List.zipWith (fun earlier later => later - earlier) times times.tail

theorem gaps_cons_cons (first second : ℚ) (rest : List ℚ) :
    gaps (first :: second :: rest) = (second - first) :: gaps (second :: rest) := rfl

theorem gaps_snoc (times : List ℚ) (now : ℚ) :
    gaps (times ++ [now]) = gaps times ++ (times.getLast?.map (now - ·)).toList := by
  induction times with
  | nil => rfl
  | cons first rest ih =>
      cases rest with
      | nil => rfl
      | cons second rest =>
          rw [List.cons_append, List.cons_append, gaps_cons_cons, gaps_cons_cons,
            List.getLast?_cons_cons, List.cons_append, ← ih, List.cons_append]

namespace FlowRecord

/-- A record with no packets. -/
def fresh (key : FlowKey) (firstSeen lastSeen : ℚ) : FlowRecord where
  key := key
  firstSeen := firstSeen
  lastSeen := lastSeen

/-- The record after the packets of a history. -/
def updates (record : FlowRecord) (arrivals : List (Packet × ℚ)) : FlowRecord :=
  arrivals.foldl (fun record arrival => record.update arrival.1 arrival.2) record

theorem updates_append (record : FlowRecord) (before after : List (Packet × ℚ)) :
    record.updates (before ++ after) = (record.updates before).updates after :=
  List.foldl_append

/-! ## The range of the scores -/

/-- The scores are between 0 and 1. -/
structure ScoresInRange (record : FlowRecord) : Prop where
  latency_nonneg : 0 ≤ record.latencyScore
  latency_le_one : record.latencyScore ≤ 1
  bandwidth_nonneg : 0 ≤ record.bandwidthScore
  bandwidth_le_one : record.bandwidthScore ≤ 1
  burst_nonneg : 0 ≤ record.burstScore
  burst_le_one : record.burstScore ≤ 1

theorem fresh_scoresInRange (key : FlowKey) (firstSeen lastSeen : ℚ) :
    (fresh key firstSeen lastSeen).ScoresInRange :=
  ⟨le_rfl, zero_le_one, le_rfl, zero_le_one, le_rfl, zero_le_one⟩

/-- Statistics that are not negative give scores in range. -/
theorem refreshScores_scoresInRange {record : FlowRecord}
    (bytes : 0 ≤ record.byteCount) (peak : 0 ≤ record.maxBurstRate) :
    record.refreshScores.ScoresInRange := by
  have sizeFactor : 0 ≤ max 0 (1 - record.emaPktSize / 1500) := le_max_left _ _
  have iptFactor : 0 ≤ if 0 < record.emaIpt then
      min 1 (max 0 (1 - (record.emaIpt - 1 / 100) / (49 / 100))) else 0 := by
    split
    next => exact le_min zero_le_one (le_max_left _ _)
    next => exact le_rfl
  have duration : 0 ≤ max (1 / 1000) (record.lastSeen - record.firstSeen) :=
    (by norm_num : (0 : ℚ) ≤ 1 / 1000).trans (le_max_left _ _)
  have byteCount : (0 : ℚ) ≤ record.byteCount := by exact_mod_cast bytes
  constructor
  · exact le_min zero_le_one (by positivity)
  · exact min_le_left _ _
  · exact le_min zero_le_one (div_nonneg (div_nonneg byteCount duration) (by norm_num))
  · exact min_le_left _ _
  · exact le_min zero_le_one (div_nonneg peak (by norm_num))
  · exact min_le_left _ _

/-! ## The burst windows -/

/-- The burst fields of a record count the events of some windows. -/
structure Bursts (record : FlowRecord) (windows : TumblingWindows ℚ) : Prop where
  start : record.burstWindowStart = windows.start
  count : record.burstWindowPkts = windows.current.length
  peak : record.maxBurstRate = windows.peak / record.burstWindowDuration

theorem Bursts.peak_nonneg {record : FlowRecord} {windows : TumblingWindows ℚ}
    (bursts : record.Bursts windows) (positive : 0 < record.burstWindowDuration) :
    0 ≤ record.maxBurstRate := by
  rw [bursts.peak]
  exact div_nonneg (Nat.cast_nonneg _) positive.le

theorem updateBurst_bursts {record : FlowRecord} {windows : TumblingWindows ℚ}
    (bursts : record.Bursts windows) (positive : 0 < record.burstWindowDuration) (now : ℚ) :
    (record.updateBurst now).Bursts (windows.step record.burstWindowDuration now) := by
  rw [updateBurst, TumblingWindows.step, bursts.start]
  split
  next =>
    refine ⟨rfl, rfl, ?_⟩
    rw [TumblingWindows.peak_close, Nat.cast_max, ← max_div_div_right positive.le, ← bursts.peak,
      ← bursts.count]
  next =>
    refine ⟨bursts.start, ?_, bursts.peak⟩
    rw [List.length_append, bursts.count]
    rfl

/-! ## The history in the record -/

/-- The fields that the burst window leaves as they are. -/
theorem updateBurst_averages (record : FlowRecord) (now : ℚ) :
    (record.updateBurst now).emaPktSize = record.emaPktSize ∧
      (record.updateBurst now).sizeAlpha = record.sizeAlpha ∧
      (record.updateBurst now).emaIpt = record.emaIpt ∧
      (record.updateBurst now).iptAlpha = record.iptAlpha ∧
      (record.updateBurst now).lastPktTime = record.lastPktTime ∧
      (record.updateBurst now).burstWindowDuration = record.burstWindowDuration := by
  simp only [updateBurst]
  split <;> exact ⟨rfl, rfl, rfl, rfl, rfl, rfl⟩

/-- The windows of a history. -/
def burstWindows (record : FlowRecord) (arrivals : List (Packet × ℚ)) : TumblingWindows ℚ :=
  .ofTimes record.burstWindowDuration 0 (arrivalTimes arrivals)

/-- A record holds the averages, the windows and the totals of a history. -/
structure Summarizes (record : FlowRecord) (arrivals : List (Packet × ℚ)) : Prop where
  packetCount : record.packetCount = arrivals.length
  byteCount : (record.byteCount : ℚ) = (packetSizes arrivals).sum
  sizeAlpha : record.sizeAlpha = 1 / 5
  size : record.emaPktSize = average (1 / 5) (packetSizes arrivals)
  iptAlpha : record.iptAlpha = 1 / 5
  ipt : record.emaIpt = average (1 / 5) (gaps (arrivalTimes arrivals))
  lastPktTime : record.lastPktTime = (arrivalTimes arrivals).getLast?.getD 0
  duration : record.burstWindowDuration = 1 / 10
  bursts : record.Bursts (record.burstWindows arrivals)
  burstScore : record.burstScore = min 1 (record.maxBurstRate / 1000)

theorem fresh_summarizes (key : FlowKey) (firstSeen lastSeen : ℚ) :
    (fresh key firstSeen lastSeen).Summarizes [] where
  packetCount := rfl
  byteCount := rfl
  sizeAlpha := rfl
  size := rfl
  iptAlpha := rfl
  ipt := rfl
  lastPktTime := rfl
  duration := rfl
  bursts := ⟨rfl, rfl, (zero_div _).symm⟩
  burstScore := by norm_num [fresh]

section Step

variable {record : FlowRecord} {past : List (Packet × ℚ)}

theorem Summarizes.duration_pos (summarizes : record.Summarizes past) :
    0 < record.burstWindowDuration := by
  rw [summarizes.duration]
  norm_num

/-- The gap to the last packet is a sample of the average if there is a last packet. -/
theorem Summarizes.updateIpt (summarizes : record.Summarizes past)
    (positive : ∀ arrival ∈ past, 0 < arrival.2) (now : ℚ) :
    (record.updateIpt now).emaIpt =
      average (1 / 5) (gaps (arrivalTimes past ++ [now])) := by
  rw [gaps_snoc, FlowRecord.updateIpt, summarizes.lastPktTime, summarizes.ipt,
    summarizes.iptAlpha]
  cases last : (arrivalTimes past).getLast? with
  | none => simp
  | some time =>
      obtain ⟨arrival, member, rfl⟩ := List.mem_map.mp (List.mem_of_getLast? last)
      simp only [Option.getD_some, positive arrival member, ↓reduceIte, Option.map_some,
        Option.toList_some, average_snoc]
      rfl

theorem Summarizes.update (summarizes : record.Summarizes past)
    (positive : ∀ arrival ∈ past, 0 < arrival.2) (packet : Packet) (now : ℚ) :
    (record.update packet now).Summarizes (past ++ [(packet, now)]) := by
  have sizes : packetSizes (past ++ [(packet, now)]) =
      packetSizes past ++ [(packet.sizeBytes : ℚ)] := List.map_append
  have times : arrivalTimes (past ++ [(packet, now)]) = arrivalTimes past ++ [now] :=
    List.map_append
  let counted : FlowRecord :=
    { record with
      lastSeen := now
      packetCount := record.packetCount + 1
      byteCount := record.byteCount + packet.sizeBytes }
  let averaged := (counted.updateIpt now).updateSize packet.sizeBytes
  obtain ⟨size, sizeAlpha, ipt, iptAlpha, last, duration⟩ := averaged.updateBurst_averages now
  constructor
  · rw [update_packetCount, summarizes.packetCount, List.length_append]
    rfl
  · rw [update_byteCount, sizes, List.sum_append, List.sum_singleton, ← summarizes.byteCount]
    exact Int.cast_add _ _
  · exact sizeAlpha.trans summarizes.sizeAlpha
  · rw [sizes, average_snoc, ← summarizes.size, ← summarizes.sizeAlpha]
    exact size
  · exact iptAlpha.trans summarizes.iptAlpha
  · rw [times, ← summarizes.updateIpt positive]
    exact ipt
  · rw [times, List.getLast?_concat]
    exact last
  · exact duration.trans summarizes.duration
  · have current : averaged.Bursts (record.burstWindows past) :=
      ⟨summarizes.bursts.start, summarizes.bursts.count, summarizes.bursts.peak⟩
    have next := updateBurst_bursts current summarizes.duration_pos now
    have windows : (record.update packet now).burstWindows (past ++ [(packet, now)]) =
        (record.burstWindows past).step averaged.burstWindowDuration now := by
      rw [burstWindows, times, TumblingWindows.ofTimes_snoc]
      exact congrArg (fun length => (TumblingWindows.ofTimes length 0
        (arrivalTimes past)).step length now) duration
    rw [windows]
    exact ⟨next.start, next.count, next.peak⟩
  · rfl

/-- The peak burst rate never falls. -/
theorem maxBurstRate_le_update (record : FlowRecord) (packet : Packet) (now : ℚ) :
    record.maxBurstRate ≤ (record.update packet now).maxBurstRate := by
  change record.maxBurstRate ≤ (FlowRecord.updateBurst _ now).maxBurstRate
  rw [updateBurst]
  split
  next =>
    split
    next => exact le_max_left _ _
    next => exact le_rfl
  next => exact le_rfl

end Step

theorem maxBurstRate_le_updates (record : FlowRecord) (arrivals : List (Packet × ℚ)) :
    record.maxBurstRate ≤ (record.updates arrivals).maxBurstRate := by
  induction arrivals generalizing record with
  | nil => exact le_rfl
  | cons arrival rest ih =>
      exact (record.maxBurstRate_le_update arrival.1 arrival.2).trans (ih _)

/-- A record that began without packets holds its whole history. -/
theorem updates_summarizes (key : FlowKey) (firstSeen lastSeen : ℚ)
    {arrivals : List (Packet × ℚ)} (positive : ∀ arrival ∈ arrivals, 0 < arrival.2) :
    ((fresh key firstSeen lastSeen).updates arrivals).Summarizes arrivals := by
  induction arrivals using List.reverseRecOn with
  | nil => exact fresh_summarizes key firstSeen lastSeen
  | append_singleton past arrival ih =>
      rw [List.forall_mem_append] at positive
      rw [updates_append]
      exact (ih positive.1).update positive.1 arrival.1 arrival.2

theorem updates_scoresInRange (key : FlowKey) (firstSeen lastSeen : ℚ)
    {arrivals : List (Packet × ℚ)} (sizes : ∀ arrival ∈ arrivals, 0 ≤ arrival.1.sizeBytes)
    (positive : ∀ arrival ∈ arrivals, 0 < arrival.2) :
    ((fresh key firstSeen lastSeen).updates arrivals).ScoresInRange := by
  have summarizes := updates_summarizes key firstSeen lastSeen positive
  rcases List.eq_nil_or_concat' arrivals with rfl | ⟨past, arrival, rfl⟩
  · exact fresh_scoresInRange key firstSeen lastSeen
  · have bytes : 0 ≤ ((fresh key firstSeen lastSeen).updates (past ++ [arrival])).byteCount := by
      have total : (0 : ℚ) ≤ (packetSizes (past ++ [arrival])).sum := by
        apply List.sum_nonneg
        intro size member
        obtain ⟨other, otherMember, rfl⟩ := List.mem_map.mp member
        exact_mod_cast sizes other otherMember
      rw [← summarizes.byteCount] at total
      exact_mod_cast total
    have peak := summarizes.bursts.peak_nonneg summarizes.duration_pos
    rw [updates_append] at bytes peak ⊢
    exact refreshScores_scoresInRange bytes peak

/-- After every history of packets with sizes that are not negative at positive times, the scores
are in range, each average lies between its smallest and its largest sample, the burst score has
never fallen, and the peak burst rate is that of the fullest closed window, where the windows
hold all packets. -/
theorem scores_of_history (key : FlowKey) (firstSeen lastSeen : ℚ)
    (arrivals : List (Packet × ℚ)) (sizes : ∀ arrival ∈ arrivals, 0 ≤ arrival.1.sizeBytes)
    (positive : ∀ arrival ∈ arrivals, 0 < arrival.2) :
    let record := (fresh key firstSeen lastSeen).updates arrivals
    let windows := record.burstWindows arrivals
    record.ScoresInRange ∧
      Between (packetSizes arrivals) record.emaPktSize ∧
      Between (gaps (arrivalTimes arrivals)) record.emaIpt ∧
      (∀ before after, before ++ after = arrivals →
        ((fresh key firstSeen lastSeen).updates before).burstScore ≤ record.burstScore) ∧
      record.maxBurstRate = windows.peak / record.burstWindowDuration ∧
      windows.closedCounts.sum + record.burstWindowPkts = record.packetCount := by
  intro record windows
  have summarizes : record.Summarizes arrivals :=
    updates_summarizes key firstSeen lastSeen positive
  refine ⟨updates_scoresInRange key firstSeen lastSeen sizes positive, ?_, ?_, ?_,
    summarizes.bursts.peak, ?_⟩
  · rw [summarizes.size]
    exact average_between (by norm_num) (by norm_num) _
  · rw [summarizes.ipt]
    exact average_between (by norm_num) (by norm_num) _
  · intro before after split
    have earlier : ((fresh key firstSeen lastSeen).updates before).Summarizes before := by
      apply updates_summarizes
      intro arrival member
      exact positive arrival (split ▸ List.mem_append_left after member)
    have grown : ((fresh key firstSeen lastSeen).updates before).maxBurstRate ≤
        record.maxBurstRate := by
      have later := ((fresh key firstSeen lastSeen).updates before).maxBurstRate_le_updates after
      rwa [← updates_append, split] at later
    rw [earlier.burstScore, summarizes.burstScore]
    exact min_le_min_left 1 (div_le_div_of_nonneg_right grown (by norm_num))
  · rw [summarizes.bursts.count, summarizes.packetCount]
    exact (TumblingWindows.counts_ofTimes _ _ _).trans (List.length_map _)

/-- A packet of 100 bytes and one of 300 a second later. -/
theorem scores_of_history_two :
    let key := FlowKey.fromPacket .plain {}
    let arrivals : List (Packet × ℚ) := [({ sizeBytes := 100 }, 1), ({ sizeBytes := 300 }, 2)]
    ((fresh key 0 0).updates arrivals).ScoresInRange ∧
      Between [100, 300] ((fresh key 0 0).updates arrivals).emaPktSize := by
  intro key arrivals
  have scores := scores_of_history key 0 0 arrivals (by decide) (by decide)
  exact ⟨scores.1, scores.2.1⟩

end FlowRecord

end SmartBandwidth

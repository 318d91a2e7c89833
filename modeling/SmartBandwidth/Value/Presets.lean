import SmartBandwidth.Value.FlowValuePolicy

/-!
# Calibration presets

The built-in table of value coefficients by traffic type, and the value policy built
from it.
-/

namespace SmartBandwidth

/-- One calibration entry. -/
structure TrafficPreset where
  name : String
  description : String
  ports : List Int
  protocols : List String
  priority : TrafficPriority
  valueCoefficient : ℚ
  deriving DecidableEq, Repr

/-- `TRAFFIC_PRESETS`. -/
def trafficPresets : List TrafficPreset :=
  [ { name := "voip"
      description := "VoIP / real-time audio (SIP + RTP)"
      ports := [5060, 5061, 5004, 5005]
      protocols := ["udp", "tcp"]
      priority := .critical
      valueCoefficient := 100 },
    { name := "interactive_api"
      description := "Interactive / revenue-generating API calls (HTTPS)"
      ports := [443, 8443]
      protocols := ["tcp"]
      priority := .high
      valueCoefficient := 50 },
    { name := "video_conference"
      description := "Video conferencing and live streaming"
      ports := [8801, 8802, 3478, 3479]
      protocols := ["udp", "tcp"]
      priority := .high
      valueCoefficient := 40 },
    { name := "interactive_web"
      description := "Interactive web browsing, DNS, SSH"
      ports := [80, 8080, 53, 22]
      protocols := ["tcp", "udp"]
      priority := .high
      valueCoefficient := 20 },
    { name := "email"
      description := "Email and asynchronous messaging (SMTP / IMAP / POP3)"
      ports := [25, 465, 587, 993, 995, 110, 143]
      protocols := ["tcp"]
      priority := .medium
      valueCoefficient := 5 },
    { name := "bulk_transfer"
      description := "Bulk transfers, backups, software updates, P2P"
      ports := [6881, 6882, 6883, 21, 20]
      protocols := ["tcp", "udp"]
      priority := .background
      valueCoefficient := 1 / 2 } ]

/-- `ValueCoefficientsGuide`: a scale that is not negative. -/
structure ValueCoefficientsGuide where
  scale : ℚ
  scale_nonneg : 0 ≤ scale

namespace ValueCoefficientsGuide

/-- `__init__`. -/
def init (revenueScale : ℚ := 1) : ValueCoefficientsGuide where
  scale := max 0 revenueScale
  scale_nonneg := le_max_left 0 revenueScale

/-- `presets`. -/
def presets (guide : ValueCoefficientsGuide) : List TrafficPreset :=
  if guide.scale = 1 then
    trafficPresets
  else
    trafficPresets.map fun preset =>
      { preset with valueCoefficient := preset.valueCoefficient * guide.scale }

end ValueCoefficientsGuide

/-- The rule `from_presets` makes of a preset. -/
def TrafficPreset.toRule (overrides : Dict String ℚ) (preset : TrafficPreset) : PolicyRule where
  name := preset.name
  priority := preset.priority
  ports := preset.ports
  protocols := preset.protocols
  valueCoefficient := (overrides.get? preset.name).getD preset.valueCoefficient
  description := preset.description

/-- `from_presets`; `overrides` are coefficients by preset name, applied after scaling. -/
def FlowValuePolicy.fromPresets (revenueScale : ℚ := 1) (overrides : Dict String ℚ := .empty) :
    FlowValuePolicy :=
  init ((ValueCoefficientsGuide.init revenueScale).presets.map (TrafficPreset.toRule overrides)) 1

end SmartBandwidth

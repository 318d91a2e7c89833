import SmartBandwidth.Core.Packet

/-!
# Payload compression

A payload is replaced by a marked zlib stream when it is long enough, not yet marked,
and the marked stream is shorter.
-/

namespace SmartBandwidth

/-- The magic bytes `SBOC`. -/
def magic : List UInt8 := [0x53, 0x42, 0x4F, 0x43]

/-- Outcome of one `compress` call. -/
structure CompressionResult where
  originalSize : Nat
  compressedSize : Nat
  data : List UInt8
  wasCompressed : Bool
  deriving DecidableEq, Repr

/-- `space_saved_bytes`. -/
def CompressionResult.spaceSavedBytes (result : CompressionResult) : Nat :=
  result.originalSize - result.compressedSize

namespace PayloadCompressor

/-- The payload left as it is. -/
def unchanged (data : List UInt8) : CompressionResult where
  originalSize := data.length
  compressedSize := data.length
  data := data
  wasCompressed := false

/-- `compress`; a bad level makes zlib raise. -/
def compress (rt : Runtime) (config : OptimizerConfig) (data : List UInt8)
    (level : Option Int := none) (threshold : Option Int := none) :
    Except PyError CompressionResult :=
  let level := level.getD config.compressionLevel
  let threshold := threshold.getD config.compressionThresholdBytes
  if (data.length : Int) < threshold ∨ data.take magic.length = magic then
    .ok (unchanged data)
  else
    match rt.zlibCompress data level with
    | .error raised => .error raised
    | .ok compressedBody =>
        let candidate := magic ++ compressedBody
        if data.length ≤ candidate.length then
          .ok (unchanged data)
        else
          .ok {
            originalSize := data.length
            compressedSize := candidate.length
            data := candidate
            wasCompressed := true }

/-- `is_compressed`. -/
def isCompressed (data : List UInt8) : Bool := data.take magic.length == magic

end PayloadCompressor

end SmartBandwidth

import SmartBandwidth.Pipeline.Compressor

/-!
# Reading a payload back

`decompress` tells a compressed payload from a plain one by the magic bytes alone, and
`compress` returns a payload that begins with them as it is. Everything else comes back as
it went in.
-/

namespace SmartBandwidth

/-- What the compressor relies on of zlib: the levels `zlib.compress` takes, and that
`inflate`, standing for `zlib.decompress`, undoes it. A failure of `inflate` carries the text
of its `zlib.error`. -/
structure ZlibContract (rt : Runtime) (inflate : List UInt8 → Except String (List UInt8)) :
    Prop where
  accepts : ∀ data level, -1 ≤ level → level ≤ 9 → ∃ body, rt.zlibCompress data level = .ok body
  rejects : ∀ data level, ¬(-1 ≤ level ∧ level ≤ 9) →
    ∃ raised, rt.zlibCompress data level = .error raised
  undoes : ∀ data level body, rt.zlibCompress data level = .ok body → inflate body = .ok data

namespace PayloadCompressor

/-- `decompress`: the body behind the magic bytes is inflated, anything else is returned. -/
def decompress (inflate : List UInt8 → Except String (List UInt8)) (data : List UInt8) :
    Except PyError (List UInt8) :=
  if data.take magic.length ≠ magic then
    .ok data
  else
    match inflate (data.drop magic.length) with
    | .ok body => .ok body
    | .error text => .error (.valueError ("Failed to decompress payload: " ++ text))

/-- A compression result from which the receiver recovers the payload. -/
structure Restores (inflate : List UInt8 → Except String (List UInt8)) (data : List UInt8)
    (result : CompressionResult) : Prop where
  restored : decompress inflate result.data = .ok data
  flagged : isCompressed result.data = result.wasCompressed
  sized : result.compressedSize = result.data.length
  bounded : result.compressedSize ≤ data.length

/-- The call of `compress` answers, and its answer restores the payload. -/
def RoundTrips (rt : Runtime) (inflate : List UInt8 → Except String (List UInt8))
    (config : OptimizerConfig) (data : List UInt8) (level threshold : Option Int) : Prop :=
  ∃ result, compress rt config data level threshold = .ok result ∧ Restores inflate data result

variable {rt : Runtime} {inflate : List UInt8 → Except String (List UInt8)}
variable {config : OptimizerConfig} {data body : List UInt8} {level threshold : Option Int}

/-! ## The two sides of the marker -/

theorem isCompressed_iff : isCompressed data = true ↔ data.take magic.length = magic := by
  simp only [isCompressed, beq_iff_eq]

theorem isCompressed_eq_false_iff :
    isCompressed data = false ↔ data.take magic.length ≠ magic := by
  simp only [isCompressed, beq_eq_false_iff_ne]

/-- What `compress` builds carries the magic bytes. -/
theorem isCompressed_append : isCompressed (magic ++ body) = true := by
  rw [isCompressed_iff, List.take_left]

/-- Without the magic bytes a payload is read as it is. -/
theorem decompress_plain (plain : isCompressed data = false) :
    decompress inflate data = .ok data := by
  rw [decompress, if_pos (isCompressed_eq_false_iff.mp plain)]

/-- Behind the magic bytes the inflated body is read. -/
theorem decompress_append (inflated : inflate body = .ok data) :
    decompress inflate (magic ++ body) = .ok data := by
  rw [decompress, if_neg (not_not.mpr (List.take_left ..)), List.drop_left, inflated]

/-- A body that does not inflate raises `ValueError` with the text of the zlib error. -/
theorem decompress_append_error {text : String} (corrupt : inflate body = .error text) :
    decompress inflate (magic ++ body) =
      .error (.valueError ("Failed to decompress payload: " ++ text)) := by
  rw [decompress, if_neg (not_not.mpr (List.take_left ..)), List.drop_left, corrupt]

/-! ## One call of `compress` -/

/-- A marked payload is returned unchanged. -/
theorem compress_marked (marked : isCompressed data = true) :
    compress rt config data level threshold = .ok (unchanged data) := by
  rw [compress, if_pos (.inr (isCompressed_iff.mp marked))]

/-- The answers of `compress`: the payload itself, or a shorter marked zlib stream of it. -/
theorem compress_cases {result : CompressionResult}
    (answered : compress rt config data level threshold = .ok result) :
    result = unchanged data ∨
      ∃ body, rt.zlibCompress data (level.getD config.compressionLevel) = .ok body ∧
        (magic ++ body).length < data.length ∧
        result = ⟨data.length, (magic ++ body).length, magic ++ body, true⟩ := by
  simp only [compress] at answered
  split at answered
  next => exact .inl (Except.ok.inj answered).symm
  next =>
    split at answered
    next => cases answered
    next body deflated =>
      split at answered
      next => exact .inl (Except.ok.inj answered).symm
      next shorter =>
        exact .inr ⟨body, deflated, not_le.mp shorter, (Except.ok.inj answered).symm⟩

/-- `compress` answers unless it hands zlib a level that zlib does not know. -/
theorem compress_answers_iff (contract : ZlibContract rt inflate)
    (plain : isCompressed data = false) :
    (∃ result, compress rt config data level threshold = .ok result) ↔
      (data.length : Int) < threshold.getD config.compressionThresholdBytes ∨
        (-1 ≤ level.getD config.compressionLevel ∧ level.getD config.compressionLevel ≤ 9) := by
  have unmarked := isCompressed_eq_false_iff.mp plain
  by_cases short : (data.length : Int) < threshold.getD config.compressionThresholdBytes
  · simp only [compress, short, true_or, if_true, iff_true]
    exact ⟨unchanged data, rfl⟩
  · simp only [compress, short, unmarked, or_self, if_false, false_or]
    constructor
    · rintro ⟨result, answered⟩
      by_contra unknown
      obtain ⟨raised, refused⟩ := contract.rejects data _ unknown
      rw [refused] at answered
      cases answered
    · rintro ⟨least, greatest⟩
      obtain ⟨body, deflated⟩ := contract.accepts data _ least greatest
      simp only [deflated]
      split
      next => exact ⟨_, rfl⟩
      next => exact ⟨_, rfl⟩

/-- A payload left as it is restores itself when it does not look compressed. -/
theorem unchanged_restores (plain : isCompressed data = false) :
    Restores inflate data (unchanged data) where
  restored := decompress_plain plain
  flagged := plain
  sized := rfl
  bounded := le_refl _

/-- Whatever `compress` answers for an unmarked payload restores it. -/
theorem compress_restores (contract : ZlibContract rt inflate)
    (plain : isCompressed data = false) {result : CompressionResult}
    (answered : compress rt config data level threshold = .ok result) :
    Restores inflate data result := by
  obtain rfl | ⟨body, deflated, shorter, rfl⟩ := compress_cases answered
  · exact unchanged_restores plain
  · exact
      { restored := decompress_append (contract.undoes _ _ _ deflated)
        flagged := isCompressed_append
        sized := rfl
        bounded := shorter.le }

/-- A payload that begins with the magic bytes does not round-trip: it is returned, flagged as
not compressed, and its bytes say otherwise. -/
theorem not_roundTrips_of_marked (marked : isCompressed data = true) :
    ¬RoundTrips rt inflate config data level threshold := by
  rintro ⟨result, answered, restores⟩
  rw [compress_marked marked] at answered
  cases answered
  have contradiction : isCompressed data = false := restores.flagged
  rw [marked] at contradiction
  cases contradiction

/-- A payload round-trips exactly when it does not begin with the magic bytes and, where it is
long enough to be compressed, the level is one of zlib's. -/
theorem roundTrips_iff (contract : ZlibContract rt inflate) :
    RoundTrips rt inflate config data level threshold ↔
      data.take magic.length ≠ magic ∧
        ((data.length : Int) < threshold.getD config.compressionThresholdBytes ∨
          (-1 ≤ level.getD config.compressionLevel ∧ level.getD config.compressionLevel ≤ 9)) := by
  cases compressed : isCompressed data with
  | true =>
      have marked := isCompressed_iff.mp compressed
      exact iff_of_false (not_roundTrips_of_marked compressed) fun holds => holds.1 marked
  | false =>
      rw [← compress_answers_iff contract compressed]
      constructor
      · rintro ⟨result, answered, _⟩
        exact ⟨isCompressed_eq_false_iff.mp compressed, result, answered⟩
      · rintro ⟨_, result, answered⟩
        exact ⟨result, answered, compress_restores contract compressed answered⟩

/-! ## A payload that begins with the magic bytes -/

/-- Forty letters `a`. -/
def fortyLetters : List UInt8 := List.replicate 40 0x61

/-- What `zlib.compress` makes of them at level 6. -/
def fortyLettersStream : List UInt8 := [120, 156, 75, 76, 36, 14, 0, 0, 54, 235, 15, 41]

/-- A stand-in for `zlib.compress` that agrees with it on the forty letters at level 6. -/
def tableRuntime : Runtime :=
  { Runtime.ofSearch id fun _ _ => false with
    zlibCompress := fun data level =>
      if -1 ≤ level ∧ level ≤ 9 then
        .ok (if data = fortyLetters then fortyLettersStream else 0 :: data)
      else
        .error .zlibError }

/-- The stand-in for `zlib.decompress`; bytes it does not know have no zlib header. -/
def tableInflate : List UInt8 → Except String (List UInt8)
  | [] => .error "Error -5 while decompressing data: incomplete or truncated stream"
  | first :: rest =>
      if first = 0 then
        .ok rest
      else if first :: rest = fortyLettersStream then
        .ok fortyLetters
      else
        .error "Error -3 while decompressing data: incorrect header check"

theorem table_contract : ZlibContract tableRuntime tableInflate where
  accepts data level least greatest := ⟨_, if_pos ⟨least, greatest⟩⟩
  rejects data level unknown := ⟨.zlibError, if_neg unknown⟩
  undoes data level body deflated := by
    simp only [tableRuntime] at deflated
    split at deflated
    next =>
      cases Except.ok.inj deflated
      split
      next letters => rw [letters]; rfl
      next => rfl
    next => cases deflated

/-- The forty letters come back. -/
theorem fortyLetters_roundTrips :
    RoundTrips tableRuntime tableInflate {} fortyLetters none (some 10) :=
  (roundTrips_iff table_contract).mpr ⟨by decide, .inr (by decide)⟩

/-- The bytes `SBOChello`. -/
def markedGreeting : List UInt8 := magic ++ [0x68, 0x65, 0x6C, 0x6C, 0x6F]

/-- The nine bytes are returned as not compressed, are taken for compressed, and reading them
back raises. -/
theorem markedGreeting_not_roundTrips :
    ZlibContract tableRuntime tableInflate ∧
      ¬RoundTrips tableRuntime tableInflate {} markedGreeting none none ∧
      ∃ result, compress tableRuntime {} markedGreeting = .ok result ∧
        result.wasCompressed = false ∧ isCompressed result.data = true ∧
        decompress tableInflate result.data = .error (.valueError
          "Failed to decompress payload: Error -3 while decompressing data: incorrect header check")
      := by
  have marked : isCompressed markedGreeting = true := isCompressed_append
  have corrupt : tableInflate [0x68, 0x65, 0x6C, 0x6C, 0x6F] =
      .error "Error -3 while decompressing data: incorrect header check" := rfl
  exact ⟨table_contract, not_roundTrips_of_marked marked, unchanged markedGreeting,
    compress_marked marked, rfl, marked, decompress_append_error corrupt⟩

end PayloadCompressor

end SmartBandwidth

import SmartBandwidth.License.RoundTrip

/-!
# What leaves the parser of licence keys

The parser documents `LicenseError`.  The signing, the comparison of the signatures and the
reading of the decoded payload stand outside its `try` block, and the expiry date is stored
as it is found, whatever its kind.
-/

namespace SmartBandwidth.LicenseKey

open PyValue Raising

variable {rt : LicenseRuntime}

/-- A decoded payload fits: it is a map, the fields that are read as texts have one, and
under `expires` stands a date text unless the value is falsy.  A payload whose features are
no list is refused before the other fields are read. -/
def PayloadFits (payload : PyValue) : Prop :=
  ∃ fields, payload = .dict fields ∧ (get fields "tier" (.str "community")).Printable ∧
    ∀ features, get fields "features" (.list []) = .list features →
      (∀ feature ∈ features, feature.Printable) ∧
        (get fields "customer" (.str "")).Printable ∧ (get fields "issued" (.str "")).Printable ∧
          ((get fields "expires").truthy = true → (get fields "expires").IsStr)

/-- The two parts of a key fit: the payload part and the secret can be encoded, the
signature is ASCII once it is lowered and, where it verifies and the payload decodes, the
decoded payload fits. -/
structure PartsFit (rt : LicenseRuntime) (secret b64Payload sig : PyString.Text) : Prop where
  secretEncodable : PyString.Encodable secret
  payloadEncodable : PyString.Encodable b64Payload
  ascii : PyString.isAscii (rt.lower sig) = true
  fits : ∀ expected, sign rt b64Payload secret = .ok expected →
    rt.lower sig = PyString.ofString expected →
      ∀ bytes value, decodeBase64 b64Payload = .ok bytes → rt.loads bytes = .ok value →
        PayloadFits value

/-- A key text fits: one without a dot is refused at once. -/
def KeyFits (rt : LicenseRuntime) (secret keyString : PyString.Text) : Prop :=
  ∀ b64Payload sig, PyString.rsplit (.char '.') (PyString.strip keyString) =
    some (b64Payload, sig) → PartsFit rt secret b64Payload sig

/-- A key can be asked for its validity: neither `is_expired` nor `require_valid` raises
anything but `LicenseError`, on any day. -/
def Askable (rt : LicenseRuntime) (key : LicenseKey) : Prop :=
  ∀ today, (∃ expired, key.isExpired rt today = .ok expired) ∧
    Documented (key.requireValid rt today)

/-! ## The expiry date -/

theorem exists_map_expiryDate {α : Type} {expires : PyValue} {image : Option Int → α} :
    (∃ answer, (expiryDate rt expires).map image = .ok answer) ↔ expires.IsStr := by
  cases expires <;> simp [expiryDate, IsStr, Except.map]

theorem exists_isExpired {key : LicenseKey} {today : Int} :
    (∃ expired, key.isExpired rt today = .ok expired) ↔
      ∀ expires, key.expires = some expires → expires.truthy = true → expires.IsStr := by
  rw [isExpired]
  cases key.expires with
  | none => simp
  | some expires =>
      by_cases truthy : expires.truthy = true
      · simp only [truthy, if_true, exists_map_expiryDate, Option.some.injEq, forall_eq',
          true_implies]
      · simp [truthy]

/-- An expired key names its date. -/
theorem isExpired_eq_true {key : LicenseKey} {today : Int}
    (expired : key.isExpired rt today = .ok true) : ∃ text, key.expires = some (.str text) := by
  have readable := exists_isExpired.mp ⟨true, expired⟩
  rw [isExpired] at expired
  cases found : key.expires with
  | none => simp [found] at expired
  | some expires =>
      by_cases truthy : expires.truthy = true
      · obtain ⟨text, isDate⟩ := readable expires found truthy
        exact ⟨text, congrArg some isDate⟩
      · simp [found, truthy] at expired

theorem askable_iff {key : LicenseKey} :
    Askable rt key ↔
      ∀ expires, key.expires = some expires → expires.truthy = true → expires.IsStr := by
  constructor
  · intro askable
    exact exists_isExpired.mp (askable 0).1
  · intro fits today
    obtain ⟨expired, answers⟩ := exists_isExpired.mpr fits
    apply And.intro ⟨expired, answers⟩
    rw [requireValid, documented_lift_bind_iff]
    apply Exists.intro expired
    apply And.intro answers
    rw [documented_require_iff]
    intro isExpired
    cases expired with
    | false => cases isExpired
    | true =>
        obtain ⟨text, isDate⟩ := isExpired_eq_true answers
        rw [isDate]
        exact ⟨_, rfl⟩

/-! ## The payload -/

theorem documented_featureList (features : PyValue) : Documented (featureList features) := by
  cases features with
  | list items => exact documented_pure items
  | _ => exact documented_fail _

theorem featureList_eq_ok {features : PyValue} {items : List PyValue} :
    featureList features = .ok items ↔ features = .list items := by
  cases features <;> simp [featureList, pure, Except.pure]

theorem orNone_fits {value : PyValue} :
    (∀ expires, orNone value = some expires → expires.truthy = true → expires.IsStr) ↔
      (value.truthy = true → value.IsStr) := by
  by_cases truthy : value.truthy = true <;> simp [orNone, truthy]

theorem ensures_readPayload_iff {b64Payload : PyString.Text} {payload : PyValue} :
    Ensures (Askable rt) (readPayload rt b64Payload payload) ↔ PayloadFits payload := by
  rw [readPayload, ensures_lift_bind_iff]
  simp only [asDict_eq_ok, PayloadFits]
  apply exists_congr
  intro fields
  apply and_congr_right
  intro _
  apply ensures_lift_bind exists_toStr
  intro tier _
  rw [ensures_bind_iff, and_iff_right (documented_featureList _)]
  simp only [featureList_eq_ok]
  apply forall_congr'
  intro features
  apply imp_congr_right
  intro _
  apply ensures_lift_bind (mapM_ok_iff.trans (forall₂_congr fun _ _ => exists_toStr))
  intro names _
  apply ensures_lift_bind exists_toStr
  intro customer _
  apply ensures_lift_bind exists_toStr
  intro issued _
  rw [ensures_pure_iff, askable_iff]
  exact orNone_fits

/-! ## The signature -/

theorem decodePayload_documented (b64Payload : PyString.Text) :
    Documented (decodePayload rt b64Payload) := by
  rw [decodePayload]
  split
  next => exact documented_fail _
  next =>
    split
    next => exact documented_fail _
    next => exact documented_pure _

theorem decodePayload_eq_ok {b64Payload : PyString.Text} {payload : PyValue} :
    decodePayload rt b64Payload = .ok payload ↔
      ∃ bytes, decodeBase64 b64Payload = .ok bytes ∧ rt.loads bytes = .ok payload := by
  rw [decodePayload]
  cases decodeBase64 b64Payload with
  | error text => simp
  | ok bytes =>
      simp only [Except.ok.injEq, exists_eq_left']
      cases rt.loads bytes <;> simp [pure, Except.pure]

theorem compareDigest_eq_ok {left right : PyString.Text} {equal : Bool}
    (rightAscii : PyString.isAscii right = true) :
    compareDigest left right = .ok equal ↔
      PyString.isAscii left = true ∧ (left == right) = equal := by
  by_cases leftAscii : PyString.isAscii left = true
  · simp [compareDigest_of_isAscii leftAscii rightAscii, leftAscii]
  · simp [compareDigest, leftAscii]

theorem exists_encode {text : PyString.Text} :
    (∃ encoded, encode text = .ok encoded) ↔ PyString.Encodable text := by
  simp only [encode_eq_ok, PyString.exists_encode_iff]

/-- Signing needs a secret and a payload that can be encoded. -/
theorem exists_sign {b64Payload secret : PyString.Text} :
    (∃ expected, sign rt b64Payload secret = .ok expected) ↔
      PyString.Encodable secret ∧ PyString.Encodable b64Payload := by
  rw [sign, exists_bind_iff, ← exists_encode, ← exists_encode]
  simp only [exists_bind_iff, pure, Except.pure, Except.ok.injEq, exists_eq', and_true,
    exists_and_right]

/-- What is signed is the digest of the encoded texts. -/
theorem exists_digest {b64Payload secret : PyString.Text} {expected : String}
    (signed : sign rt b64Payload secret = .ok expected) :
    ∃ chars secretChars, expected = digest rt chars secretChars := by
  obtain ⟨⟨secretChars, rfl⟩, ⟨chars, rfl⟩⟩ := exists_sign.mp ⟨expected, signed⟩
  rw [sign_ofChars] at signed
  exact ⟨chars, secretChars, (Except.ok.inj signed).symm⟩

theorem ensures_verifyParts_iff (asciiLower : LowersAscii rt.lower)
    {secret b64Payload sig : PyString.Text} :
    Ensures (Askable rt) (verifyParts rt b64Payload sig secret) ↔
      PartsFit rt secret b64Payload sig := by
  have decoded : Ensures (Askable rt) (decodePayload rt b64Payload >>= readPayload rt b64Payload) ↔
      ∀ bytes value, decodeBase64 b64Payload = .ok bytes → rt.loads bytes = .ok value →
        PayloadFits value := by
    rw [ensures_bind_iff, and_iff_right (decodePayload_documented _)]
    simp only [decodePayload_eq_ok, ensures_readPayload_iff]
    constructor
    · intro fits bytes value decodes loads
      exact fits value ⟨bytes, decodes, loads⟩
    · rintro fits value ⟨bytes, decodes, loads⟩
      exact fits bytes value decodes loads
  rw [verifyParts, ensures_lift_bind_iff]
  constructor
  · rintro ⟨expected, signed, ensures⟩
    have encodable := exists_sign.mp ⟨expected, signed⟩
    obtain ⟨chars, secretChars, rfl⟩ := exists_digest signed
    rw [ensures_lift_bind_iff] at ensures
    simp only [lower_digest asciiLower, compareDigest_eq_ok digest_isAscii] at ensures
    obtain ⟨equal, ⟨ascii, same⟩, ensures⟩ := ensures
    rw [ensures_require_bind] at ensures
    apply PartsFit.mk encodable.1 encodable.2 ascii
    intro expected signed' verifies
    cases signed.symm.trans signed'
    rw [verifies, beq_self_eq_true] at same
    exact decoded.mp (ensures.2 same.symm)
  · intro fits
    obtain ⟨expected, signed⟩ := exists_sign.mpr ⟨fits.secretEncodable, fits.payloadEncodable⟩
    apply Exists.intro expected
    apply And.intro signed
    have verified := fits.fits expected signed
    obtain ⟨chars, secretChars, rfl⟩ := exists_digest signed
    rw [ensures_lift_bind_iff]
    simp only [lower_digest asciiLower, compareDigest_eq_ok digest_isAscii]
    apply Exists.intro _
    apply And.intro ⟨fits.ascii, rfl⟩
    rw [ensures_require_bind]
    apply And.intro (fun _ => ⟨_, rfl⟩)
    intro verifies
    exact decoded.mpr (verified (eq_of_beq verifies))

theorem ensures_parseLicenseKey_iff (asciiLower : LowersAscii rt.lower)
    {environment secret : Option PyString.Text} {keyString : PyString.Text} :
    Ensures (Askable rt) (parseLicenseKey rt environment keyString secret) ↔
      KeyFits rt (secret.getD (getSecret environment)) keyString := by
  rw [parseLicenseKey, ensures_require_bind, KeyFits]
  cases empty : (PyString.strip keyString).isEmpty with
  | true =>
      rw [List.isEmpty_iff.mp empty]
      simp [PyString.rsplit]
  | false =>
      cases PyString.rsplit (.char '.') (PyString.strip keyString) with
      | none => simp
      | some parts =>
          cases parts with
          | mk b64Payload sig => simp [← ensures_verifyParts_iff asciiLower]

/-- `parse_license_key` returns a key or raises `LicenseError`, and the key it returns can
be asked for its validity, exactly when the key text fits. -/
theorem parseLicenseKey_documented_iff (rt : LicenseRuntime)
    (asciiLower : LowersAscii rt.lower) (environment : Option PyString.Text)
    (keyString : PyString.Text) (secret : Option PyString.Text) :
    (((∃ key, parseLicenseKey rt environment keyString secret = .ok key) ∨
        ∃ error, parseLicenseKey rt environment keyString secret = .error (.documented error)) ∧
      ∀ key, parseLicenseKey rt environment keyString secret = .ok key → Askable rt key) ↔
      KeyFits rt (secret.getD (getSecret environment)) keyString := by
  rw [← ensures_parseLicenseKey_iff asciiLower, Ensures, documented_iff, Succeeds]

/-- A key text that is refused for its signature. -/
theorem parseLicenseKey_documented_forged :
    let rt := sampleRuntime .null "null"
    let forged := PyString.ofString "bnVsbA.00"
    ((∃ key, parseLicenseKey rt none forged none = .ok key) ∨
        ∃ error, parseLicenseKey rt none forged none = .error (.documented error)) ∧
      ∀ key, parseLicenseKey rt none forged none = .ok key → Askable rt key := by
  intro rt forged
  apply (parseLicenseKey_documented_iff rt lowerAscii_lowersAscii none forged none).mpr
  have parts : PyString.rsplit (.char '.') (PyString.strip forged) =
      some (PyString.ofString "bnVsbA", PyString.ofString "00") := by decide
  intro b64Payload sig split
  cases parts.symm.trans split
  refine ⟨PyString.encodable_ofString _, PyString.encodable_ofString _, by decide, ?_⟩
  intro expected signed verifies
  have signature : expected = digest rt "bnVsbA".toList "bandwidthos-dev-key".toList :=
    Except.ok.inj (signed.symm.trans sign_ofChars)
  have different : rt.lower (PyString.ofString "00") ≠
      PyString.ofString (digest rt "bnVsbA".toList "bandwidthos-dev-key".toList) := by
    decide +kernel
  exact absurd (signature ▸ verifies) different

/-- A signature with a letter outside ASCII makes the comparison raise `TypeError`, and a
lone surrogate in the payload part makes the signing raise `UnicodeEncodeError`. -/
theorem accented_signature_escapes :
    let rt := sampleRuntime .null "null"
    let accented := PyString.ofString "bnVsbA.é"
    let surrogate := .surrogate 0 :: PyString.ofString ".00"
    parseLicenseKey rt none accented none = .error (.fault .typeError) ∧
      parseLicenseKey rt none surrogate none = .error (.fault .unicodeEncodeError) ∧
        ¬ ((∃ key, parseLicenseKey rt none accented none = .ok key) ∨
          ∃ error, parseLicenseKey rt none accented none = .error (.documented error)) := by
  intro rt accented surrogate
  have escapes : parseLicenseKey rt none accented none = .error (.fault .typeError) := rfl
  have unsigned : parseLicenseKey rt none surrogate none =
      .error (.fault .unicodeEncodeError) := rfl
  rw [escapes, unsigned]
  simp

end SmartBandwidth.LicenseKey

import SmartBandwidth.License.LicenseKey

/-!
# Trial keys parse back

The generator and the parser choose the secret, handle the padding and normalise the
fields each by their own rules.
-/

namespace SmartBandwidth.LicenseKey

open PyValue Raising

/-- `str.lower` on ASCII text maps the letters and nothing else. -/
def LowersAscii (lower : PyString.Text → PyString.Text) : Prop :=
  ∀ chars, PyString.isAscii (PyString.ofChars chars) = true →
    lower (PyString.ofChars chars) = PyString.ofChars (chars.map Char.toLower)

/-- The digest of a payload under a secret, when neither holds a lone surrogate. -/
def digest (rt : LicenseRuntime) (b64Payload secret : List Char) : String :=
  Trust.hexdigest (rt.hmac (PyString.utf8 secret) (PyString.utf8 b64Payload))

variable {rt : LicenseRuntime} {bytes : List UInt8} {b64Payload secret : List Char}

/-! ## The text of a key -/

/-- The code points of a digest are hexadecimal digits. -/
theorem digest_visible {point : PyString.CodePoint}
    (member : point ∈ PyString.ofString (digest rt b64Payload secret)) :
    point ≠ .char '.' ∧ PyString.isSpace point = false := by
  have every : ∀ value : Fin 16, PyString.CodePoint.char (Nat.digitChar value) ≠ .char '.' ∧
      PyString.isSpace (.char (Nat.digitChar value)) = false := by decide
  obtain ⟨char, inDigest, rfl⟩ := List.mem_map.mp member
  obtain ⟨value, small, rfl⟩ := Trust.exists_of_mem_hexdigest inDigest
  exact every ⟨value, small⟩

theorem not_isSpace_of_isDigit {char : Char} (isDigit : Base64.IsDigit char) :
    PyString.isSpace (.char char) = false := by
  have ascii := isDigit.ascii
  have visible := isDigit.visible
  simp only [PyString.isSpace, Bool.or_eq_false_iff, Bool.and_eq_false_iff, decide_eq_false_iff_not]
  omega

/-- The text of a key, from its two parts. -/
theorem ofChars_key (signature : String) :
    PyString.ofChars (b64Payload ++ '.' :: signature.toList) =
      PyString.ofChars b64Payload ++ .char '.' :: PyString.ofString signature := by
  simp [PyString.ofString, PyString.ofChars]

theorem strip_key :
    PyString.strip (PyString.ofChars (Base64.digits bytes) ++
        .char '.' :: PyString.ofString (digest rt b64Payload secret)) =
      PyString.ofChars (Base64.digits bytes) ++
        .char '.' :: PyString.ofString (digest rt b64Payload secret) := by
  apply PyString.strip_eq_self
  intro point member
  cases List.mem_append.mp member with
  | inl inPayload =>
      obtain ⟨char, inDigits, rfl⟩ := List.mem_map.mp inPayload
      exact not_isSpace_of_isDigit (Base64.digits_isDigit bytes char inDigits)
  | inr rest =>
      cases List.mem_cons.mp rest with
      | inl dot =>
          rw [dot]
          rfl
      | inr inDigest => exact (digest_visible inDigest).2

theorem rsplit_key :
    PyString.rsplit (.char '.') (PyString.ofChars (Base64.digits bytes) ++
        .char '.' :: PyString.ofString (digest rt b64Payload secret)) =
      some (PyString.ofChars (Base64.digits bytes),
        PyString.ofString (digest rt b64Payload secret)) := by
  apply PyString.rsplit_append
  intro member
  exact (digest_visible member).1 rfl

/-! ## The signature and the payload -/

theorem encode_eq_ok {text : PyString.Text} {encoded : List UInt8} :
    encode text = .ok encoded ↔ PyString.encode text = some encoded := by
  rw [encode]
  cases PyString.encode text <;> simp

/-- Texts without lone surrogates are signed. -/
theorem sign_ofChars :
    sign rt (PyString.ofChars b64Payload) (PyString.ofChars secret) =
      .ok (digest rt b64Payload secret) := by
  have encodes : ∀ chars, encode (PyString.ofChars chars) = .ok (PyString.utf8 chars) :=
    fun _ => encode_eq_ok.mpr PyString.encode_ofChars
  rw [sign, encodes, encodes]
  rfl

theorem digest_isAscii : PyString.isAscii (PyString.ofString (digest rt b64Payload secret)) = true :=
  PyString.isAscii_ofChars.trans (Trust.hexdigest_isAscii _)

theorem lower_digest (asciiLower : LowersAscii rt.lower) :
    rt.lower (PyString.ofString (digest rt b64Payload secret)) =
      PyString.ofString (digest rt b64Payload secret) := by
  have lowered : (digest rt b64Payload secret).toList.map Char.toLower =
      (digest rt b64Payload secret).toList := by
    rw [← String.toList_ofList (l := (digest rt b64Payload secret).toList.map Char.toLower)]
    exact congrArg String.toList (Trust.lower_hexdigest _)
  rw [PyString.ofString, asciiLower _ digest_isAscii, lowered]

/-- `compare_digest` of two ASCII texts decides their equality. -/
theorem compareDigest_of_isAscii {left right : PyString.Text}
    (leftAscii : PyString.isAscii left = true) (rightAscii : PyString.isAscii right = true) :
    compareDigest left right = .ok (left == right) := by
  simp [compareDigest, leftAscii, rightAscii]

theorem decodeBase64_ofChars :
    decodeBase64 (PyString.ofChars b64Payload) =
      Base64.decode (b64Payload ++ List.replicate (4 - b64Payload.length % 4) '=') := by
  rw [decodeBase64, PyString.chars?_ofChars]

theorem decodePayload_digits {payload : PyValue} (json : rt.loads bytes = .ok payload) :
    decodePayload rt (PyString.ofChars (Base64.digits bytes)) = .ok payload := by
  rw [decodePayload, decodeBase64_ofChars, Base64.decode_digits]
  simp only [json]
  rfl

/-- The texts of strings are the strings. -/
theorem mapM_toStr (py : PyText) (texts : List String) :
    (texts.map PyValue.str).mapM (toStr py) = .ok texts := by
  induction texts with
  | nil => rfl
  | cons text rest ih =>
      rw [List.map_cons, List.mapM_cons, ih]
      rfl

/-- The expiry date a parser makes of the one a generator was given: an empty text becomes
the absent one. -/
def normalExpires (expires : Option String) : Option PyValue :=
  (expires.filter (· ≠ "")).map .str

/-- The expiry date that is read from a payload. -/
theorem expires_trialPayload (tier : String) (features : List String)
    (customer issued : String) (expires : Option String) {entries : Entries}
    (isDict : trialPayload tier features customer issued expires = .dict entries) :
    orNone (get entries "expires") = normalExpires expires := by
  cases isDict
  cases expires with
  | none => rfl
  | some text =>
      change orNone (.str text) = normalExpires (some text)
      by_cases empty : text = "" <;> simp [normalExpires, orNone, truthy, empty]

theorem readPayload_trialPayload {b64Payload : PyString.Text} (tier : String)
    (features : List String) (customer issued : String) (expires : Option String) :
    readPayload rt b64Payload (trialPayload tier features customer issued expires) = .ok {
      tier := tier
      features := features
      customer := customer
      issued := issued
      expires := normalExpires expires
      rawPayload := b64Payload } := by
  rw [← expires_trialPayload tier features customer issued expires rfl, readPayload]
  apply bind_eq_ok.mpr
  apply Exists.intro
  apply And.intro rfl
  apply bind_eq_ok.mpr
  apply Exists.intro tier
  apply And.intro rfl
  apply bind_eq_ok.mpr
  apply Exists.intro (features.map .str)
  apply And.intro rfl
  apply bind_eq_ok.mpr
  apply Exists.intro features
  apply And.intro (lift_eq_ok.mpr (mapM_toStr rt.text features))
  rfl

/-- The parts of a generated key verify exactly when both sides sign alike. -/
theorem verifyParts_generated (asciiLower : LowersAscii rt.lower) {tier : String}
    {features : List String} {customer issued : String} {expires : Option String}
    (json : rt.loads bytes = .ok (trialPayload tier features customer issued expires))
    (generator parser : List Char) :
    verifyParts rt (PyString.ofChars (Base64.digits bytes))
        (PyString.ofString (digest rt (Base64.digits bytes) generator))
        (PyString.ofChars parser) =
      if digest rt (Base64.digits bytes) generator = digest rt (Base64.digits bytes) parser then
        .ok {
          tier := tier
          features := features
          customer := customer
          issued := issued
          expires := normalExpires expires
          rawPayload := PyString.ofChars (Base64.digits bytes) }
      else
        fail { message := "License key signature is invalid.  " ++
          "The key may be tampered with or signed with a different secret." } := by
  rw [verifyParts, sign_ofChars]
  change lift (compareDigest _ _) >>= _ = _
  rw [lower_digest asciiLower, lower_digest asciiLower,
    compareDigest_of_isAscii digest_isAscii digest_isAscii]
  by_cases same : digest rt (Base64.digits bytes) generator = digest rt (Base64.digits bytes) parser
  · rw [if_pos same, same, beq_self_eq_true]
    apply bind_eq_ok.mpr
    apply Exists.intro true
    apply And.intro rfl
    apply bind_eq_ok.mpr
    apply Exists.intro .unit
    apply And.intro rfl
    apply bind_eq_ok.mpr
    exact ⟨_, decodePayload_digits json, readPayload_trialPayload _ _ _ _ _⟩
  · have different : PyString.ofString (digest rt (Base64.digits bytes) generator) ≠
        PyString.ofString (digest rt (Base64.digits bytes) parser) :=
      fun alike => same (PyString.ofString_injective alike)
    rw [if_neg same, beq_eq_false_iff_ne.mpr different]
    rfl

/-- The generator signs under a secret without lone surrogates. -/
theorem generateTrial_eq (features : List String) (tier customer : String)
    (expires : Option String) (today : Int) {secret : Option PyString.Text}
    {generator : List Char} (signs : generatorSecret secret = PyString.ofChars generator) :
    let b64 := Base64.digits (payloadBytes rt (trialPayload tier features customer
      (rt.isoFormat today) expires))
    generateTrial rt (some features) tier customer expires secret today =
      .ok (PyString.ofChars b64 ++ .char '.' :: PyString.ofString (digest rt b64 generator)) := by
  intro b64
  rw [generateTrial, signs, ← ofChars_key]
  simp only [Option.getD_some, Base64.rdropWhile_encode]
  rw [sign_ofChars]
  rfl

/-- A generated key parses exactly when the parser's secret signs its payload as the
generator's does. -/
theorem parse_generated (asciiLower : LowersAscii rt.lower) {tier : String}
    {features : List String} {customer issued : String} {expires : Option String}
    (json : rt.loads bytes = .ok (trialPayload tier features customer issued expires))
    {environment secret : Option PyString.Text} (generator : List Char) {parser : List Char}
    (verifies : secret.getD (getSecret environment) = PyString.ofChars parser) :
    parseLicenseKey rt environment (PyString.ofChars (Base64.digits bytes) ++
        .char '.' :: PyString.ofString (digest rt (Base64.digits bytes) generator)) secret =
      if digest rt (Base64.digits bytes) generator = digest rt (Base64.digits bytes) parser then
        .ok {
          tier := tier
          features := features
          customer := customer
          issued := issued
          expires := normalExpires expires
          rawPayload := PyString.ofChars (Base64.digits bytes) }
      else
        fail { message := "License key signature is invalid.  " ++
          "The key may be tampered with or signed with a different secret." } := by
  rw [parseLicenseKey]
  simp only [strip_key, rsplit_key]
  rw [verifies, ← verifyParts_generated asciiLower json]
  simp [require, bind, Except.bind]

/-- Without the environment variable both sides choose the same secret, but for an empty
one. -/
theorem parserSecret_eq {secret : Option PyString.Text} (nonempty : secret ≠ some []) :
    secret.getD (getSecret none) = generatorSecret secret := by
  cases secret with
  | none => rfl
  | some secret =>
      have given : secret ≠ [] := fun empty => nonempty (congrArg some empty)
      rw [generatorSecret, if_neg given, Option.getD_some]

/-- The generator's secret is encodable if the given one is. -/
theorem exists_generatorSecret {secret : Option PyString.Text}
    (encodable : ∀ text, secret = some text → PyString.Encodable text) :
    PyString.Encodable (generatorSecret secret) := by
  cases secret with
  | none => exact PyString.encodable_ofString _
  | some text =>
      rw [generatorSecret]
      split
      next => exact PyString.encodable_ofString _
      next => exact encodable text rfl

/-- The key that the generator makes for the given fields parses, with the same secret, to
a key with these fields. -/
def RoundTrips (rt : LicenseRuntime) (features : List String) (tier customer : String)
    (expires : Option String) (secret : Option PyString.Text) (today : Int) : Prop :=
  ∃ raw, generateTrial rt (some features) tier customer expires secret today = .ok raw ∧
    ∃ key, parseLicenseKey rt none raw secret = .ok key ∧
      key.tier = tier ∧ key.features = features ∧ key.customer = customer ∧
        key.expires = expires.map .str

/-- With no secret or an encodable one that is not empty, a trial key parses to its own
tier, features and customer, and to its own expiry date, of which an empty one counts as
none. -/
theorem generateTrial_round_trip (asciiLower : LowersAscii rt.lower)
    (features : List String) (tier customer : String) (expires : Option String)
    (secret : Option PyString.Text) (today : Int)
    (json : rt.loads (payloadBytes rt (trialPayload tier features customer (rt.isoFormat today)
      expires)) = .ok (trialPayload tier features customer (rt.isoFormat today) expires))
    (nonempty : secret ≠ some [])
    (encodable : ∀ text, secret = some text → PyString.Encodable text) :
    ∃ raw, generateTrial rt (some features) tier customer expires secret today = .ok raw ∧
      ∃ key, parseLicenseKey rt none raw secret = .ok key ∧
        key.tier = tier ∧ key.features = features ∧ key.customer = customer ∧
          key.expires = (expires.filter (· ≠ "")).map .str := by
  obtain ⟨generator, signs⟩ := exists_generatorSecret encodable
  have verifies := (parserSecret_eq nonempty).trans signs
  have parses := (parse_generated asciiLower json generator verifies).trans (if_pos rfl)
  exact ⟨_, generateTrial_eq features tier customer expires today signs, _, parses,
    rfl, rfl, rfl, rfl⟩

/-! ## Sample runs -/

/-- The text that `json.dumps` makes of a payload with one feature, `expires` being a JSON
text. -/
def sampleJson (expires : String) : String :=
  "\x7b\"tier\":\"pro\",\"features\":[\"pvm\"],\"customer\":\"acme\"," ++
    "\"issued\":\"2026-01-01\",\"expires\":" ++ expires ++ "\x7d"

/-- `lower` on the letters of ASCII. -/
def lowerAscii (text : PyString.Text) : PyString.Text :=
  text.map fun
    | .char char => .char char.toLower
    | .surrogate offset => .surrogate offset

theorem lowerAscii_lowersAscii : LowersAscii lowerAscii := by
  intro chars _
  simp [lowerAscii, PyString.ofChars, Function.comp_def]

/-- A runtime on the first day of 2026 that knows one payload and its JSON text. -/
def sampleRuntime (payload : PyValue) (json : String) : LicenseRuntime where
  text := .ascii
  lower := lowerAscii
  hmac := Trust.sampleHmac
  dumps := fun _ => json
  loads := fun bytes =>
    if bytes = json.toUTF8.data.toList then .ok payload else .error "Expecting value"
  isoFormat := fun _ => "2026-01-01"
  fromIsoFormat := fun text => if text = "2026-01-01" then some 739617 else none

theorem sampleRuntime_loads (payload value : PyValue) (json : String) :
    (sampleRuntime payload json).loads (payloadBytes (sampleRuntime payload json) value) =
      .ok payload :=
  if_pos rfl

/-- A perpetual key under a secret of its own. -/
theorem generateTrial_round_trip_perpetual :
    let payload := trialPayload "pro" ["pvm"] "acme" "2026-01-01" none
    let rt := sampleRuntime payload (sampleJson "null")
    let secret := some (PyString.ofString "my-secret")
    ∃ raw, generateTrial rt (some ["pvm"]) "pro" "acme" none secret 739617 = .ok raw ∧
      ∃ key, parseLicenseKey rt none raw secret = .ok key ∧
        key.tier = "pro" ∧ key.features = ["pvm"] ∧ key.customer = "acme" ∧
          key.expires = ((none : Option String).filter (· ≠ "")).map .str := by
  intro payload rt secret
  have encodable : ∀ text, secret = some text → PyString.Encodable text := by
    intro text given
    rw [← Option.some.inj given]
    exact PyString.encodable_ofString _
  exact generateTrial_round_trip lowerAscii_lowersAscii ["pvm"] "pro" "acme" none secret 739617
    (sampleRuntime_loads _ _ _) (by decide) encodable

/-- An empty expiry date comes back as none, and with an empty secret the generator signs
with the development key while the parser verifies with the empty one. -/
theorem empty_values_do_not_round_trip :
    ¬ RoundTrips (sampleRuntime (trialPayload "pro" ["pvm"] "acme" "2026-01-01" (some ""))
        (sampleJson "\"\"")) ["pvm"] "pro" "acme" (some "") none 739617 ∧
      ¬ RoundTrips (sampleRuntime (trialPayload "pro" ["pvm"] "acme" "2026-01-01" none)
        (sampleJson "null")) ["pvm"] "pro" "acme" none (some []) 739617 := by
  constructor
  · rintro ⟨raw, generated, key, parses, _, _, _, expires⟩
    have developer : generatorSecret none = PyString.ofChars "bandwidthos-dev-key".toList := rfl
    rw [generateTrial_eq _ _ _ _ _ developer] at generated
    cases generated
    have same := (parserSecret_eq (by simp)).trans developer
    rw [parse_generated lowerAscii_lowersAscii (sampleRuntime_loads _ _ _) _ same,
      if_pos rfl] at parses
    cases parses
    cases expires
  · rintro ⟨raw, generated, key, parses, _⟩
    have developer : generatorSecret (some []) =
        PyString.ofChars "bandwidthos-dev-key".toList := rfl
    rw [generateTrial_eq _ _ _ _ _ developer] at generated
    cases generated
    have empty : (some []).getD (getSecret none) = PyString.ofChars [] := rfl
    rw [parse_generated lowerAscii_lowersAscii (sampleRuntime_loads _ _ _) _ empty,
      if_neg (by decide +kernel)] at parses
    cases parses

end SmartBandwidth.LicenseKey

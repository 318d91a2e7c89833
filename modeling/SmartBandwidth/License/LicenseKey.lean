import SmartBandwidth.Fleet.Trust
import SmartBandwidth.Lib.Base64
import SmartBandwidth.Lib.PyString
import SmartBandwidth.Lib.PyValue

/-!
# Licence keys

A key is a JSON payload in URL-safe base64 without padding, a dot, and the hexadecimal
HMAC of the encoded payload.
-/

namespace SmartBandwidth

/-- What the licence code uses of the interpreter and its libraries: the texts of values,
`lower` of any text, the keyed hash, `json.dumps`, `json.loads` with the text of the
exception it raises, and `isoformat` and `fromisoformat` of a date, which is its ordinal. -/
structure LicenseRuntime where
  text : PyText
  lower : PyString.Text → PyString.Text
  hmac : Hmac
  dumps : PyValue → String
  loads : List UInt8 → Except String PyValue
  isoFormat : Int → String
  fromIsoFormat : String → Option Int

/-- Raised when a licence key is missing, invalid, expired, or insufficient. -/
structure LicenseError where
  message : String
  deriving DecidableEq, Repr

/-- A parsed and verified licence key.  The parser stores whatever it finds under
`expires`. -/
structure LicenseKey where
  tier : String := "community"
  features : List String := []
  customer : String := ""
  issued : String := ""
  expires : Option PyValue := none
  rawPayload : PyString.Text := []

namespace LicenseKey

open PyValue Raising

/-- What the licence code returns or raises. -/
abbrev Licensing := Raising LicenseError PyFault

/-- `_DEV_SECRET`. -/
def devSecret : PyString.Text := PyString.ofString "bandwidthos-dev-key"

/-- `TIER_FEATURES.get(tier, [])`. -/
def tierFeatures (tier : String) : List String :=
  if tier = "pro" ∨ tier = "enterprise" then ["pvm", "sla", "multi_node"] else []

/-- `has_feature`. -/
def hasFeature (key : LicenseKey) (feature : String) : Bool := key.features.contains feature

/-- `date.fromisoformat`; the `ValueError` for a text that is no date is caught. -/
def expiryDate (rt : LicenseRuntime) : PyValue → Except PyFault (Option Int)
  | .str text => .ok (rt.fromIsoFormat text)
  | _ => .error .typeError

/-- `is_expired`; a text that is no date does not expire. -/
def isExpired (rt : LicenseRuntime) (key : LicenseKey) (today : Int) : Except PyFault Bool :=
  match key.expires with
  | none => .ok false
  | some expires =>
      if expires.truthy then
        (expiryDate rt expires).map fun exp => exp.any fun exp => exp < today
      else
        .ok false

/-- `require_valid`. -/
def requireValid (rt : LicenseRuntime) (key : LicenseKey) (today : Int) : Licensing Unit := do
  let expired ← lift (key.isExpired rt today)
  require (!expired) do
    let shown ← (key.expires.getD .null).toStr rt.text
    return { message := "License expired on " ++ shown ++
      ".  Please renew at https://bandwidthos.io/renew" }

/-! ## Generation -/

/-- `encode` of a text. -/
def encode (text : PyString.Text) : Except PyFault (List UInt8) :=
  match PyString.encode text with
  | some bytes => .ok bytes
  | none => .error .unicodeEncodeError

/-- `_sign`. -/
def sign (rt : LicenseRuntime) (b64Payload secret : PyString.Text) : Except PyFault String := do
  let key ← encode secret
  let message ← encode b64Payload
  return Trust.hexdigest (rt.hmac key message)

/-- The payload of a trial key. -/
def trialPayload (tier : String) (features : List String) (customer issued : String)
    (expires : Option String) : PyValue :=
  .dict [
    (.str "tier", .str tier),
    (.str "features", .list (features.map .str)),
    (.str "customer", .str customer),
    (.str "issued", .str issued),
    (.str "expires", match expires with | some text => .str text | none => .null)]

/-- The bytes of the JSON text of a payload. -/
def payloadBytes (rt : LicenseRuntime) (payload : PyValue) : List UInt8 :=
  (rt.dumps payload).toUTF8.data.toList

/-- `secret or _DEV_SECRET`. -/
def generatorSecret : Option PyString.Text → PyString.Text
  | some secret => if secret = [] then devSecret else secret
  | none => devSecret

/-- `generate_trial`. -/
def generateTrial (rt : LicenseRuntime) (features : Option (List String)) (tier customer : String)
    (expires : Option String) (secret : Option PyString.Text) (today : Int) :
    Except PyFault PyString.Text := do
  let payload := trialPayload tier (features.getD (tierFeatures tier)) customer
    (rt.isoFormat today) expires
  let b64 := (Base64.encode (payloadBytes rt payload)).rdropWhile (· = '=')
  let sig ← sign rt (PyString.ofChars b64) (generatorSecret secret)
  return PyString.ofChars (b64 ++ '.' :: sig.toList)

/-! ## Parsing -/

/-- `_get_secret`, over the value of the environment variable. -/
def getSecret (environment : Option PyString.Text) : PyString.Text :=
  environment.getD devSecret

/-- `hmac.compare_digest` of two texts. -/
def compareDigest (left right : PyString.Text) : Except PyFault Bool :=
  if PyString.isAscii left && PyString.isAscii right then
    .ok (left == right)
  else
    .error .typeError

/-- `urlsafe_b64decode` of a payload with its padding. -/
def decodeBase64 (b64Payload : PyString.Text) : Except String (List UInt8) :=
  match PyString.chars? b64Payload with
  | some chars => Base64.decode (chars ++ List.replicate (4 - chars.length % 4) '=')
  | none => .error "string argument should contain only ASCII characters"

/-- The `try` block: whatever it raises becomes a licence error. -/
def decodePayload (rt : LicenseRuntime) (b64Payload : PyString.Text) : Licensing PyValue :=
  match decodeBase64 b64Payload with
  | .error text => fail { message := "License key payload is malformed: " ++ text }
  | .ok bytes =>
      match rt.loads bytes with
      | .error text => fail { message := "License key payload is malformed: " ++ text }
      | .ok payload => return payload

/-- The test that `features` is a list. -/
def featureList : PyValue → Licensing (List PyValue)
  | .list items => return items
  | _ => fail { message := "License key 'features' must be a list." }

/-- The fields of a key, read from its decoded payload. -/
def readPayload (rt : LicenseRuntime) (b64Payload : PyString.Text) (payload : PyValue) :
    Licensing LicenseKey := do
  let payload ← lift payload.asDict
  let tier ← lift ((get payload "tier" (.str "community")).toStr rt.text)
  let rawFeatures ← featureList (get payload "features" (.list []))
  let features ← lift (rawFeatures.mapM (toStr rt.text))
  let customer ← lift ((get payload "customer" (.str "")).toStr rt.text)
  let issued ← lift ((get payload "issued" (.str "")).toStr rt.text)
  return {
    tier := tier
    features := features
    customer := customer
    issued := issued
    expires := orNone (get payload "expires")
    rawPayload := b64Payload }

/-- The part of `parse_license_key` that follows the split. -/
def verifyParts (rt : LicenseRuntime) (b64Payload providedSig effectiveSecret : PyString.Text) :
    Licensing LicenseKey := do
  let expectedSig ← lift (sign rt b64Payload effectiveSecret)
  let equal ← lift (compareDigest (rt.lower providedSig)
    (rt.lower (PyString.ofString expectedSig)))
  require equal (.ok { message := "License key signature is invalid.  " ++
    "The key may be tampered with or signed with a different secret." })
  let payload ← decodePayload rt b64Payload
  readPayload rt b64Payload payload

/-- `parse_license_key`. -/
def parseLicenseKey (rt : LicenseRuntime) (environment : Option PyString.Text)
    (keyString : PyString.Text) (secret : Option PyString.Text) : Licensing LicenseKey := do
  let keyString := PyString.strip keyString
  require (!keyString.isEmpty) (.ok { message := "License key is empty." })
  match PyString.rsplit (.char '.') keyString with
  | none => fail { message :=
      "Invalid license key format.  Expected '<payload>.<signature>'." }
  | some (b64Payload, providedSig) =>
      verifyParts rt b64Payload providedSig (secret.getD (getSecret environment))

end LicenseKey

end SmartBandwidth

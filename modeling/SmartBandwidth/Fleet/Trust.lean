import Mathlib.Data.List.Basic

/-!
# Heartbeat signatures

An agent signs the raw body of a heartbeat with HMAC-SHA256 under the shared secret and
sends the hexadecimal digest.  The keyed hash itself is a parameter: any function from a
key and a message to 32 bytes.
-/

namespace SmartBandwidth

/-- A keyed hash with 32-byte digests. -/
abbrev Hmac := List UInt8 → List UInt8 → Vector UInt8 32

namespace Trust

/-- The two lowercase hexadecimal digits of a byte. -/
def hexByte (byte : UInt8) : List Char :=
  [Nat.digitChar (byte.toNat / 16), Nat.digitChar (byte.toNat % 16)]

/-- `hexdigest`. -/
def hexdigest (digest : Vector UInt8 32) : String :=
  String.ofList (digest.toList.flatMap hexByte)

/-- `sign_payload`; the secret is encoded as UTF-8. -/
def signPayload (hmac : Hmac) (secret : String) (payload : List UInt8) : String :=
  hexdigest (hmac secret.toUTF8.data.toList payload)

/-- `signature.lower()`.  Only ASCII letters are mapped: no other character lowers to a
hexadecimal digit, and `compare_digest` refuses what stays outside ASCII. -/
def lower (signature : String) : String :=
  String.ofList (signature.toList.map Char.toLower)

/-- Whether `compare_digest` accepts a string argument. -/
def isAscii (text : String) : Bool := text.toList.all fun char => char.toNat < 128

/-- `hmac.compare_digest`; `none` is the `TypeError` it raises for non-ASCII strings. -/
def compareDigest (left right : String) : Option Bool :=
  if isAscii left && isAscii right then some (left == right) else none

/-- `verify_payload`. -/
def verifyPayload (hmac : Hmac) (secret : String) (payload : List UInt8)
    (signature : String) : Bool :=
  let expected := signPayload hmac secret payload
  match compareDigest expected (lower signature) with
  | some equal => equal
  | none => false

private theorem digitChar_hex {value : Nat} (small : value < 16) :
    (Nat.digitChar value).toLower = Nat.digitChar value ∧
      (Nat.digitChar value).toNat < 128 := by
  have digits : ∀ digit : Fin 16, (Nat.digitChar digit).toLower = Nat.digitChar digit ∧
      (Nat.digitChar digit).toNat < 128 := by decide
  exact digits ⟨value, small⟩

private theorem hexByte_hex (byte : UInt8) :
    ∀ char ∈ hexByte byte, char.toLower = char ∧ char.toNat < 128 := by
  have bound : byte.toNat < 256 := byte.toNat_lt
  simp only [hexByte, List.forall_mem_cons, List.not_mem_nil, IsEmpty.forall_iff,
    implies_true, and_true]
  exact ⟨digitChar_hex (Nat.div_lt_of_lt_mul bound), digitChar_hex (Nat.mod_lt _ (by decide))⟩

/-- A digest text is made of hexadecimal digits. -/
theorem exists_of_mem_hexdigest {digest : Vector UInt8 32} {char : Char}
    (member : char ∈ (hexdigest digest).toList) : ∃ value < 16, char = Nat.digitChar value := by
  rw [hexdigest, String.toList_ofList] at member
  obtain ⟨byte, _, inByte⟩ := List.mem_flatMap.mp member
  have bound : byte.toNat < 16 * 16 := byte.toNat_lt
  simp only [hexByte, List.mem_cons, List.not_mem_nil, or_false] at inByte
  cases inByte with
  | inl high => exact ⟨_, Nat.div_lt_of_lt_mul bound, high⟩
  | inr low => exact ⟨_, Nat.mod_lt _ (by decide), low⟩

theorem hexdigest_isAscii (digest : Vector UInt8 32) : isAscii (hexdigest digest) = true := by
  simp only [isAscii, hexdigest, String.toList_ofList, List.all_eq_true, decide_eq_true_eq]
  intro char member
  obtain ⟨byte, _, inByte⟩ := List.mem_flatMap.mp member
  exact (hexByte_hex byte char inByte).2

theorem lower_hexdigest (digest : Vector UInt8 32) :
    lower (hexdigest digest) = hexdigest digest := by
  have unchanged : (digest.toList.flatMap hexByte).map Char.toLower =
      (digest.toList.flatMap hexByte).map id := by
    apply List.map_congr_left
    intro char member
    obtain ⟨byte, _, inByte⟩ := List.mem_flatMap.mp member
    exact (hexByte_hex byte char inByte).1
  rw [lower, hexdigest, String.toList_ofList, unchanged, List.map_id]

/-- A digest text is never empty. -/
theorem hexdigest_ne_empty (digest : Vector UInt8 32) : hexdigest digest ≠ "" := by
  intro empty
  have noChars : digest.toList.flatMap hexByte = [] := by
    rw [← String.toList_ofList (l := digest.toList.flatMap hexByte)]
    exact String.toList_eq_nil_iff.mpr empty
  have firstByte : digest[0] ∈ digest.toList := Vector.mem_toList_iff.mpr (Vector.getElem_mem _)
  cases List.flatMap_eq_nil_iff.mp noChars digest[0] firstByte

/-- A signature verifies exactly when it is, up to case, the payload's own. -/
theorem verifyPayload_iff {hmac : Hmac} {secret : String} {payload : List UInt8}
    {signature : String} :
    verifyPayload hmac secret payload signature = true ↔
      lower signature = signPayload hmac secret payload := by
  have ascii : isAscii (signPayload hmac secret payload) = true := hexdigest_isAscii _
  simp only [verifyPayload, compareDigest, ascii, Bool.true_and]
  constructor
  · intro verified
    split at verified
    next equal compared =>
      split at compared
      next => exact (eq_of_beq ((Option.some.inj compared).trans verified)).symm
      next => cases compared
    next => cases verified
  · intro same
    rw [same, ascii]
    simp

/-- What `sign_payload` produces, `verify_payload` accepts. -/
theorem verifyPayload_signPayload (hmac : Hmac) (secret : String) (payload : List UInt8) :
    verifyPayload hmac secret payload (signPayload hmac secret payload) = true :=
  verifyPayload_iff.mpr (lower_hexdigest _)

/-- A missing signature is an empty one, and an empty one never verifies. -/
theorem verifyPayload_empty (hmac : Hmac) (secret : String) (payload : List UInt8) :
    verifyPayload hmac secret payload "" = false := by
  apply Bool.eq_false_iff.mpr
  intro verified
  exact hexdigest_ne_empty _ (verifyPayload_iff.mp verified).symm

/-- A keyed hash to evaluate examples with: the first bytes of key and message. -/
def sampleHmac : Hmac := fun key message =>
  Vector.ofFn fun index => (key ++ message).getD index 0

end Trust

end SmartBandwidth

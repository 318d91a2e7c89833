import Mathlib.Data.List.DropRight

/-!
# Base64 with the URL-safe alphabet

Three bytes make four characters, and `=` fills the last group.  The decoder is the
lenient one: it skips characters outside the alphabet, a group that is not started needs
no padding, and padding that a group does not need is skipped too.
-/

namespace Base64

/-- The character of a six-bit number. -/
def digit (value : Nat) : Char :=
  if value < 26 then Char.ofNat (value + 65)
  else if value < 52 then Char.ofNat (value + 71)
  else if value < 62 then Char.ofNat (value - 4)
  else if value = 62 then '-'
  else '_'

/-- The six-bit number of a character of either alphabet. -/
def sextet? (char : Char) : Option Nat :=
  if 'A' ≤ char ∧ char ≤ 'Z' then some (char.toNat - 65)
  else if 'a' ≤ char ∧ char ≤ 'z' then some (char.toNat - 71)
  else if '0' ≤ char ∧ char ≤ '9' then some (char.toNat + 4)
  else if char = '-' ∨ char = '+' then some 62
  else if char = '_' ∨ char = '/' then some 63
  else none

/-- The characters of a byte string before padding. -/
def digits : List UInt8 → List Char
  | [] => []
  | [a] => [digit (a.toNat / 4), digit (a.toNat % 4 * 16)]
  | [a, b] =>
      [digit (a.toNat / 4), digit (a.toNat % 4 * 16 + b.toNat / 16), digit (b.toNat % 16 * 4)]
  | a :: b :: c :: rest =>
      digit (a.toNat / 4) :: digit (a.toNat % 4 * 16 + b.toNat / 16) ::
        digit (b.toNat % 16 * 4 + c.toNat / 64) :: digit (c.toNat % 64) :: digits rest

/-- `urlsafe_b64encode`. -/
def encode (bytes : List UInt8) : List Char :=
  digits bytes ++ List.replicate ((3 - bytes.length % 3) % 3) '='

/-- The loop of `a2b_base64`: the place in the group, the padding seen in it, the bits left
over from its last character, and the bytes written so far, last one first. -/
def decodeFrom (quadPos pads left : Nat) (written : List UInt8) :
    List Char → Except String (List UInt8)
  | [] =>
      if quadPos = 0 then
        .ok written.reverse
      else if quadPos = 1 then
        .error ("Invalid base64-encoded string: number of data characters (" ++
          toString (written.length / 3 * 4 + 1) ++ ") cannot be 1 more than a multiple of 4")
      else
        .error "Incorrect padding"
  | char :: rest =>
      if char = '=' then
        if 2 ≤ quadPos ∧ 4 ≤ quadPos + (pads + 1) then
          .ok written.reverse
        else
          decodeFrom quadPos (if 2 ≤ quadPos then pads + 1 else pads) left written rest
      else
        match sextet? char with
        | none => decodeFrom quadPos pads left written rest
        | some value =>
            match quadPos with
            | 0 => decodeFrom 1 0 value written rest
            | 1 => decodeFrom 2 0 (value % 16) (.ofNat (left * 4 + value / 16) :: written) rest
            | 2 => decodeFrom 3 0 (value % 4) (.ofNat (left * 16 + value / 4) :: written) rest
            | _ => decodeFrom 0 0 0 (.ofNat (left * 64 + value) :: written) rest

/-- `urlsafe_b64decode`. -/
def decode (chars : List Char) : Except String (List UInt8) :=
  if chars.all fun char => char.toNat < 128 then
    decodeFrom 0 0 0 [] chars
  else
    .error "string argument should contain only ASCII characters"

/-! ## Characters -/

/-- What the characters of an encoding have in common. -/
structure IsDigit (char : Char) : Prop where
  ascii : char.toNat < 128
  notPad : char ≠ '='
  notDot : char ≠ '.'
  visible : 32 < char.toNat

theorem digit_isDigit {value : Nat} (small : value < 64) : IsDigit (digit value) := by
  have every : ∀ value : Fin 64, (digit value).toNat < 128 ∧ digit value ≠ '=' ∧
      digit value ≠ '.' ∧ 32 < (digit value).toNat := by decide
  obtain ⟨ascii, notPad, notDot, visible⟩ := every ⟨value, small⟩
  exact ⟨ascii, notPad, notDot, visible⟩

theorem sextet?_digit {value : Nat} (small : value < 64) :
    sextet? (digit value) = some value := by
  have every : ∀ value : Fin 64, sextet? (digit value) = some value.val := by decide
  exact every ⟨value, small⟩

theorem digits_isDigit (bytes : List UInt8) : ∀ char ∈ digits bytes, IsDigit char := by
  fun_induction digits bytes with
  | case1 => simp
  | case2 a =>
      have := a.toNat_lt
      simp only [List.forall_mem_cons, List.not_mem_nil, false_implies, implies_true, and_true]
      exact ⟨digit_isDigit (by omega), digit_isDigit (by omega)⟩
  | case3 a b =>
      have := a.toNat_lt
      have := b.toNat_lt
      simp only [List.forall_mem_cons, List.not_mem_nil, false_implies, implies_true, and_true]
      exact ⟨digit_isDigit (by omega), digit_isDigit (by omega), digit_isDigit (by omega)⟩
  | case4 a b c rest ih =>
      have := a.toNat_lt
      have := b.toNat_lt
      have := c.toNat_lt
      simp only [List.forall_mem_cons]
      exact ⟨digit_isDigit (by omega), digit_isDigit (by omega), digit_isDigit (by omega),
        digit_isDigit (by omega), ih⟩

/-- Stripping the padding leaves the digits. -/
theorem rdropWhile_encode (bytes : List UInt8) :
    (encode bytes).rdropWhile (· = '=') = digits bytes := by
  rw [encode]
  induction (3 - bytes.length % 3) % 3 with
  | zero =>
      rw [List.replicate_zero, List.append_nil, List.rdropWhile_eq_self_iff]
      intro nonempty
      simp [(digits_isDigit bytes _ (List.getLast_mem nonempty)).notPad]
  | succ pads ih =>
      rw [List.replicate_succ', ← List.append_assoc, List.rdropWhile_concat_pos _ _ _ (by simp), ih]

/-! ## Reading back -/

private theorem ofNat_of_eq {number : Nat} {byte : UInt8} (same : number = byte.toNat) :
    UInt8.ofNat number = byte := by
  rw [same, UInt8.ofNat_toNat]

theorem decodeFrom_digit {quadPos pads left value : Nat} {written : List UInt8}
    {rest : List Char} (small : value < 64) :
    decodeFrom quadPos pads left written (digit value :: rest) =
      match quadPos with
      | 0 => decodeFrom 1 0 value written rest
      | 1 => decodeFrom 2 0 (value % 16) (.ofNat (left * 4 + value / 16) :: written) rest
      | 2 => decodeFrom 3 0 (value % 4) (.ofNat (left * 16 + value / 4) :: written) rest
      | _ => decodeFrom 0 0 0 (.ofNat (left * 64 + value) :: written) rest := by
  rw [decodeFrom, if_neg (digit_isDigit small).notPad, sextet?_digit small]

/-- Two characters carry a byte and the high bits of the next one. -/
theorem decodeFrom_byte {a : UInt8} {high : Nat} {written : List UInt8} {rest : List Char}
    (small : high < 16) :
    decodeFrom 0 0 0 written (digit (a.toNat / 4) :: digit (a.toNat % 4 * 16 + high) :: rest) =
      decodeFrom 2 0 high (a :: written) rest := by
  have bound := a.toNat_lt
  rw [decodeFrom_digit (by omega), decodeFrom_digit (by omega)]
  have value : UInt8.ofNat (a.toNat / 4 * 4 + (a.toNat % 4 * 16 + high) / 16) = a :=
    ofNat_of_eq (by omega)
  have left : (a.toNat % 4 * 16 + high) % 16 = high := by omega
  simp only [value, left]

/-- A third character completes the second byte. -/
theorem decodeFrom_second {b : UInt8} {high : Nat} {written : List UInt8} {rest : List Char}
    (small : high < 4) :
    decodeFrom 2 0 (b.toNat / 16) written (digit (b.toNat % 16 * 4 + high) :: rest) =
      decodeFrom 3 0 high (b :: written) rest := by
  have bound := b.toNat_lt
  rw [decodeFrom_digit (by omega)]
  have value : UInt8.ofNat (b.toNat / 16 * 16 + (b.toNat % 16 * 4 + high) / 4) = b :=
    ofNat_of_eq (by omega)
  have left : (b.toNat % 16 * 4 + high) % 4 = high := by omega
  simp only [value, left]

/-- Padding to a multiple of four and four more at a full group: the decoder takes back
the bytes. -/
theorem decodeFrom_digits (bytes written : List UInt8) :
    decodeFrom 0 0 0 written
        (digits bytes ++ List.replicate (4 - (digits bytes).length % 4) '=') =
      .ok (written.reverse ++ bytes) := by
  fun_induction digits bytes generalizing written with
  | case1 => simp [decodeFrom, List.replicate]
  | case2 a =>
      have small : 0 < 16 := by decide
      change decodeFrom 0 0 0 written [_, digit (a.toNat % 4 * 16 + 0), '=', '='] = _
      rw [decodeFrom_byte small]
      simp [decodeFrom]
  | case3 a b =>
      have high : b.toNat / 16 < 16 := by
        have := b.toNat_lt
        omega
      have small : 0 < 4 := by decide
      change decodeFrom 0 0 0 written [_, _, digit (b.toNat % 16 * 4 + 0), '='] = _
      rw [decodeFrom_byte high, decodeFrom_second small]
      simp [decodeFrom]
  | case4 a b c rest ih =>
      have boundB := b.toNat_lt
      have boundC := c.toNat_lt
      have last : UInt8.ofNat (c.toNat / 64 * 64 + c.toNat % 64) = c := ofNat_of_eq (by omega)
      have whole : ((digits rest).length + 1 + 1 + 1 + 1) % 4 = (digits rest).length % 4 := by
        omega
      simp only [List.cons_append, List.length_cons, whole]
      rw [decodeFrom_byte (by omega), decodeFrom_second (by omega), decodeFrom_digit (by omega)]
      simp only [last, ih, List.reverse_cons, List.append_assoc, List.cons_append, List.nil_append]

/-- What `encode` writes, stripped of its padding and padded anew, decodes. -/
theorem decode_digits (bytes : List UInt8) :
    decode (digits bytes ++ List.replicate (4 - (digits bytes).length % 4) '=') = .ok bytes := by
  have ascii : (digits bytes ++ List.replicate (4 - (digits bytes).length % 4) '=').all
      (fun char => char.toNat < 128) = true := by
    simp only [List.all_eq_true, decide_eq_true_eq, List.mem_append]
    rintro char (isDigit | pad)
    · exact (digits_isDigit bytes char isDigit).ascii
    · cases List.eq_of_mem_replicate pad
      decide
  rw [decode, if_pos ascii, decodeFrom_digits]
  rfl

end Base64

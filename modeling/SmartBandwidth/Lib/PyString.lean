import Mathlib.Data.List.DropRight

/-!
# Text functions

Python's texts, which may hold lone surrogates, with `encode`, `strip` and `rsplit`.
-/

namespace PyString

/-- A code point of a text: a character, or a lone surrogate, given by its distance from
U+D800. -/
inductive CodePoint where
  | char (char : Char)
  | surrogate (offset : Fin 2048)
  deriving DecidableEq, Repr

/-- A text. -/
abbrev Text := List CodePoint

/-- The text of characters. -/
def ofChars (chars : List Char) : Text := chars.map .char

/-- The text of a string. -/
def ofString (string : String) : Text := ofChars string.toList

/-- The characters of a text that has nothing else. -/
def chars? : Text → Option (List Char)
  | [] => some []
  | .char char :: rest => (chars? rest).map (char :: ·)
  | .surrogate _ :: _ => none

/-- UTF-8 has no lone surrogates. -/
def Encodable (text : Text) : Prop := ∃ chars, text = ofChars chars

/-- The bytes of characters in UTF-8. -/
def utf8 (chars : List Char) : List UInt8 := (String.ofList chars).toUTF8.data.toList

/-- `encode`; none is the `UnicodeEncodeError`. -/
def encode (text : Text) : Option (List UInt8) := (chars? text).map utf8

/-- Whether a text is ASCII. -/
def isAscii (text : Text) : Bool :=
  text.all fun
    | .char char => char.toNat < 128
    | .surrogate _ => false

/-- `isspace` of a code point. -/
def isSpace : CodePoint → Bool
  | .char char =>
      let code := char.toNat
      (9 ≤ code && code ≤ 13) || (28 ≤ code && code ≤ 32) || code = 0x85 || code = 0xa0 ||
        code = 0x1680 || (0x2000 ≤ code && code ≤ 0x200a) || code = 0x2028 || code = 0x2029 ||
        code = 0x202f || code = 0x205f || code = 0x3000
  | .surrogate _ => false

/-- `strip`. -/
def strip (text : Text) : Text := (text.dropWhile isSpace).rdropWhile isSpace

/-- `rsplit(separator, 1)`, when the separator occurs: the texts before and after its last
occurrence. -/
def rsplit (separator : CodePoint) (text : Text) : Option (Text × Text) :=
  if separator ∈ text then
    some ((text.rdropWhile (· ≠ separator)).dropLast, text.rtakeWhile (· ≠ separator))
  else
    none

variable {separator : CodePoint} {text head tail : Text} {chars : List Char}

/-! ## Encoding -/

@[simp] theorem chars?_ofChars : chars? (ofChars chars) = some chars := by
  induction chars with
  | nil => rfl
  | cons char rest ih =>
      change (chars? (ofChars rest)).map (char :: ·) = some (char :: rest)
      rw [ih]
      rfl

theorem ofChars_injective : Function.Injective ofChars := by
  intro chars chars' same
  have read := congrArg chars? same
  rwa [chars?_ofChars, chars?_ofChars, Option.some.injEq] at read

theorem ofString_injective : Function.Injective ofString :=
  ofChars_injective.comp fun _ _ => String.toList_injective

theorem encodable_ofString (string : String) : Encodable (ofString string) := ⟨_, rfl⟩

theorem exists_chars?_iff : (∃ chars, chars? text = some chars) ↔ Encodable text := by
  constructor
  · intro read
    induction text with
    | nil => exact ⟨[], rfl⟩
    | cons point rest ih =>
        rcases read with ⟨chars, read⟩
        cases point with
        | char char =>
            obtain ⟨others, found, _⟩ := Option.map_eq_some_iff.mp read
            obtain ⟨others, rfl⟩ := ih ⟨others, found⟩
            exact ⟨char :: others, rfl⟩
        | surrogate offset => cases read
  · rintro ⟨chars, rfl⟩
    exact ⟨chars, chars?_ofChars⟩

theorem exists_encode_iff : (∃ bytes, encode text = some bytes) ↔ Encodable text := by
  rw [← exists_chars?_iff]
  simp [encode]

@[simp] theorem encode_ofChars : encode (ofChars chars) = some (utf8 chars) := by
  rw [encode, chars?_ofChars, Option.map_some]

theorem isAscii_ofChars :
    isAscii (ofChars chars) = chars.all fun char => decide (char.toNat < 128) := by
  simp [isAscii, ofChars, List.all_map, Function.comp_def]

/-! ## Stripping and splitting -/

/-- A text without white space is stripped already. -/
theorem strip_eq_self (visible : ∀ point ∈ text, isSpace point = false) : strip text = text := by
  have front : text.dropWhile isSpace = text := by
    cases text with
    | nil => rfl
    | cons point rest =>
        apply List.dropWhile_cons_of_neg
        simp [visible point List.mem_cons_self]
  rw [strip, front, List.rdropWhile_eq_self_iff]
  intro nonempty
  simp [visible _ (List.getLast_mem nonempty)]

/-- The last occurrence of the separator is the one with none behind it. -/
theorem rsplit_append (absent : separator ∉ tail) :
    rsplit separator (head ++ separator :: tail) = some (head, tail) := by
  have ends : ∀ point ∈ tail.reverse, decide (point ≠ separator) = true := by
    intro point member
    apply decide_eq_true
    intro same
    exact absent (same ▸ List.mem_reverse.mp member)
  have reversed : (head ++ separator :: tail).reverse =
      tail.reverse ++ separator :: head.reverse := by
    simp
  rw [rsplit, if_pos (by simp), List.rdropWhile, List.rtakeWhile, reversed,
    List.dropWhile_append_of_pos ends, List.takeWhile_append_of_pos ends,
    List.dropWhile_cons_of_neg (by simp), List.takeWhile_cons_of_neg (by simp)]
  simp

end PyString

import SmartBandwidth.Lib.PyNumber
import SmartBandwidth.Lib.Raising

/-!
# Values of a dynamic language

What a YAML or JSON decoder returns: null, booleans, integers, floats, strings, lists and
maps, nested to any depth, and the operations a program applies to such a value without
knowing its kind.  Each operation says for every kind what it returns or raises.
-/

/-- A decoded value.  A map lists its entries in order. -/
inductive PyValue where
  | null
  | bool (value : Bool)
  | int (value : Int)
  | float (value : PyFloat)
  | str (text : String)
  | list (items : List PyValue)
  | dict (entries : List (PyValue × PyValue))

/-- The text functions of the interpreter: `str.lower`, `str.upper`, `repr` of a string and
of a float, and the readings of a text as a float and as an integer. -/
structure PyText where
  lower : String → String
  upper : String → String
  quote : String → String
  showFloat : PyFloat → String
  readFloat : String → Option PyFloat
  readInt : String → Option Int

/-- Text functions for examples: letters are ASCII and no text reads as a number. -/
def PyText.ascii : PyText where
  lower := fun text => String.ofList (text.toList.map Char.toLower)
  upper := fun text => String.ofList (text.toList.map Char.toUpper)
  quote := fun text => "'" ++ text ++ "'"
  showFloat := fun _ => ""
  readFloat := fun _ => none
  readInt := fun _ => none

namespace PyValue

/-- The entries of a map. -/
abbrev Entries := List (PyValue × PyValue)

/-- The truth value of a value. -/
def truthy : PyValue → Bool
  | .null => false
  | .bool value => value
  | .int value => value ≠ 0
  | .float value => value ≠ .finite 0
  | .str text => text ≠ ""
  | .list items => !items.isEmpty
  | .dict entries => !entries.isEmpty

/-- `left or right`. -/
def or (left right : PyValue) : PyValue := if left.truthy then left else right

/-- Whether a map key is a given string. -/
def isKey (key : String) : PyValue → Bool
  | .str text => text = key
  | _ => false

/-- `entries.get(key)`, absent keys apart. -/
def find? (entries : Entries) (key : String) : Option PyValue :=
  (entries.find? fun entry => isKey key entry.1).map Prod.snd

/-- `entries.get(key, default)`. -/
def get (entries : Entries) (key : String) (default : PyValue := .null) : PyValue :=
  (find? entries key).getD default

/-- `entries.get(key, default) or default`. -/
def getOr (entries : Entries) (key : String) (default : PyValue) : PyValue :=
  (get entries key default).or default

/-- `value or None`. -/
def orNone (value : PyValue) : Option PyValue := if value.truthy then some value else Option.none

/-- Take an attribute that only maps have, such as `get` or `items`. -/
def asDict : PyValue → Except PyFault Entries
  | .dict entries => .ok entries
  | _ => .error .attributeError

/-- Take an attribute that only strings have, such as `upper`. -/
def asStr : PyValue → Except PyFault String
  | .str text => .ok text
  | _ => .error .attributeError

/-- What a loop over the value goes through: the items of a list, the keys of a map, the
characters of a string. -/
def iterate : PyValue → Except PyFault (List PyValue)
  | .list items => .ok items
  | .dict entries => .ok (entries.map Prod.fst)
  | .str text => .ok (text.toList.map fun char => .str (String.singleton char))
  | _ => .error .typeError

/-- The elements of such a loop; there are none where the loop raises. -/
def elements (value : PyValue) : List PyValue := value.iterate.toOption.getD []

/-- `float(value)`. -/
def toFloat (py : PyText) : PyValue → Except PyFault PyFloat
  | .bool value => .ok (.finite (if value then 1 else 0))
  | .int value => PyFloat.ofInt value
  | .float value => .ok value
  | .str text =>
      match py.readFloat text with
      | some value => .ok value
      | none => .error .valueError
  | .null | .list _ | .dict _ => .error .typeError

/-- `int(value)`. -/
def toInt (py : PyText) : PyValue → Except PyFault Int
  | .bool value => .ok (if value then 1 else 0)
  | .int value => .ok value
  | .float value => value.toInt
  | .str text =>
      match py.readInt text with
      | some value => .ok value
      | none => .error .valueError
  | .null | .list _ | .dict _ => .error .typeError

/-- Take a value into arithmetic; booleans are integers. -/
def asNumber : PyValue → Except PyFault PyNumber
  | .bool value => .ok (.int (if value then 1 else 0))
  | .int value => .ok (.int value)
  | .float value => .ok (.float value)
  | .null | .str _ | .list _ | .dict _ => .error .typeError

/-- `left < right`, over the comparison of two lists. -/
def lt (listLess : List PyValue → List PyValue → Except PyFault Bool) :
    PyValue → PyValue → Except PyFault Bool
  | .str left, .str right => .ok (left < right)
  | .list left, .list right => listLess left right
  | left, right => do
      let left ← left.asNumber
      let right ← right.asNumber
      return left.lt right

/-- Whether a value is a number. -/
def IsNumber : PyValue → Prop
  | .bool _ | .int _ | .float _ => True
  | .null | .str _ | .list _ | .dict _ => False

/-- Whether a value is a string. -/
def IsStr (value : PyValue) : Prop := ∃ text, value = .str text

/-- Whether `float` accepts a value. -/
def ReadsAsFloat (py : PyText) : PyValue → Prop
  | .bool _ | .float _ => True
  | .int value => PyFloat.Holds value
  | .str text => (py.readFloat text).isSome
  | .null | .list _ | .dict _ => False

/-- Whether `int` accepts a value. -/
def ReadsAsInt (py : PyText) : PyValue → Prop
  | .bool _ | .int _ => True
  | .float value => ∃ number, value = .finite number
  | .str text => (py.readInt text).isSome
  | .null | .list _ | .dict _ => False

/-- Whether a loop may go over a value. -/
def Iterable : PyValue → Prop
  | .str _ | .list _ | .dict _ => True
  | .null | .bool _ | .int _ | .float _ => False

@[simp] theorem asDict_eq_ok {value : PyValue} {entries : Entries} :
    value.asDict = .ok entries ↔ value = .dict entries := by
  cases value <;> simp [asDict]

@[simp] theorem asStr_eq_ok {value : PyValue} {text : String} :
    value.asStr = .ok text ↔ value = .str text := by
  cases value <;> simp [asStr]

theorem exists_asStr {value : PyValue} :
    (∃ text, value.asStr = .ok text) ↔ value.IsStr := by
  simp only [asStr_eq_ok, IsStr]

theorem exists_asNumber {value : PyValue} :
    (∃ number, value.asNumber = .ok number) ↔ value.IsNumber := by
  cases value <;> simp [asNumber, IsNumber]

theorem lt_of_asNumber {listLess : List PyValue → List PyValue → Except PyFault Bool}
    {left right : PyValue} {leftNumber rightNumber : PyNumber}
    (readsLeft : left.asNumber = .ok leftNumber) (readsRight : right.asNumber = .ok rightNumber) :
    lt listLess left right = .ok (leftNumber.lt rightNumber) := by
  cases left <;> cases right <;> simp_all [lt, asNumber, bind, Except.bind, pure, Except.pure]

theorem exists_toFloat {py : PyText} {value : PyValue} :
    (∃ float, value.toFloat py = .ok float) ↔ value.ReadsAsFloat py := by
  cases value with
  | str text => cases reads : py.readFloat text <;> simp [toFloat, ReadsAsFloat, reads]
  | int value => simp [toFloat, ReadsAsFloat]
  | _ => simp [toFloat, ReadsAsFloat]

theorem exists_toInt {py : PyText} {value : PyValue} :
    (∃ number, value.toInt py = .ok number) ↔ value.ReadsAsInt py := by
  cases value with
  | str text => cases reads : py.readInt text <;> simp [toInt, ReadsAsInt, reads]
  | float value => simp [toInt, ReadsAsInt, PyFloat.exists_toInt]
  | _ => simp [toInt, ReadsAsInt]

theorem exists_iterate {value : PyValue} :
    (∃ items, value.iterate = .ok items) ↔ value.Iterable := by
  cases value <;> simp [iterate, Iterable]

/-- A loop that converts every element succeeds when the value can be looped over and
every element converts. -/
theorem exists_iterate_mapM {α : Type} {operation : PyValue → Except PyFault α}
    {value : PyValue} :
    (∃ results, (value.iterate >>= fun items => items.mapM operation) = .ok results) ↔
      value.Iterable ∧ ∀ item ∈ value.elements, ∃ result, operation item = .ok result := by
  rw [← exists_iterate, elements]
  cases value.iterate with
  | error fault => simp [bind, Except.bind]
  | ok items => simp [bind, Except.bind, Raising.mapM_ok_iff, Except.toOption]

/-! ## Texts of values -/

/-- An integer of this many digits has no decimal text. -/
def maxDigits : Nat := 4300

/-- `str` of an integer. -/
def intText (number : Int) : Except PyFault String :=
  if number.natAbs < 10 ^ maxDigits then .ok (toString number) else .error .valueError

mutual

/-- `repr(value)`. -/
def repr (py : PyText) : PyValue → Except PyFault String
  | .null => .ok "None"
  | .bool value => .ok (if value then "True" else "False")
  | .int value => intText value
  | .float value => .ok (py.showFloat value)
  | .str text => .ok (py.quote text)
  | .list items => do
      let texts ← reprItems py items
      return "[" ++ ", ".intercalate texts ++ "]"
  | .dict entries => do
      let texts ← reprEntries py entries
      return "\x7b" ++ ", ".intercalate texts ++ "\x7d"

/-- The texts of the items of a list. -/
def reprItems (py : PyText) : List PyValue → Except PyFault (List String)
  | [] => .ok []
  | item :: rest => do
      let text ← repr py item
      let texts ← reprItems py rest
      return text :: texts

/-- The texts of the entries of a map. -/
def reprEntries (py : PyText) : List (PyValue × PyValue) → Except PyFault (List String)
  | [] => .ok []
  | (key, value) :: rest => do
      let keyText ← repr py key
      let valueText ← repr py value
      let texts ← reprEntries py rest
      return (keyText ++ ": " ++ valueText) :: texts

end

/-- `str(value)`, which is also how a value is formatted into a message. -/
def toStr (py : PyText) : PyValue → Except PyFault String
  | .str text => .ok text
  | value => repr py value

mutual

/-- Whether a value has a text: no integer in it is too long to write out. -/
def Printable : PyValue → Prop
  | .int value => value.natAbs < 10 ^ maxDigits
  | .list items => PrintableItems items
  | .dict entries => PrintableEntries entries
  | .null | .bool _ | .float _ | .str _ => True

/-- Whether every item of a list has a text. -/
def PrintableItems : List PyValue → Prop
  | [] => True
  | item :: rest => Printable item ∧ PrintableItems rest

/-- Whether every key and value of a map has a text. -/
def PrintableEntries : List (PyValue × PyValue) → Prop
  | [] => True
  | (key, value) :: rest => Printable key ∧ Printable value ∧ PrintableEntries rest

end

theorem exists_intText {number : Int} :
    (∃ text, intText number = .ok text) ↔ number.natAbs < 10 ^ maxDigits := by
  unfold intText
  split <;> simp_all

mutual

theorem exists_repr (py : PyText) :
    (value : PyValue) → ((∃ text, repr py value = .ok text) ↔ value.Printable)
  | .null | .bool _ | .float _ | .str _ => by simp [repr, Printable]
  | .int _ => by
      rw [repr, Printable]
      exact exists_intText
  | .list items => by
      rw [repr, Printable, Raising.exists_bind_iff, ← exists_reprItems py items]
      simp [pure, Except.pure]
  | .dict entries => by
      rw [repr, Printable, Raising.exists_bind_iff, ← exists_reprEntries py entries]
      simp [pure, Except.pure]

theorem exists_reprItems (py : PyText) :
    (items : List PyValue) → ((∃ texts, reprItems py items = .ok texts) ↔ PrintableItems items)
  | [] => by simp [reprItems, PrintableItems]
  | item :: rest => by
      rw [reprItems, PrintableItems, ← exists_repr py item, ← exists_reprItems py rest]
      simp only [Raising.exists_bind_iff]
      simp [pure, Except.pure]

theorem exists_reprEntries (py : PyText) :
    (entries : List (PyValue × PyValue)) →
      ((∃ texts, reprEntries py entries = .ok texts) ↔ PrintableEntries entries)
  | [] => by simp [reprEntries, PrintableEntries]
  | (key, value) :: rest => by
      rw [reprEntries, PrintableEntries, ← exists_repr py key, ← exists_repr py value,
        ← exists_reprEntries py rest]
      simp only [Raising.exists_bind_iff]
      simp [pure, Except.pure]

end

/-- A value can be written out unless it holds an integer of too many digits. -/
theorem exists_toStr {py : PyText} {value : PyValue} :
    (∃ text, value.toStr py = .ok text) ↔ value.Printable := by
  cases value with
  | str text => simp [toStr, Printable]
  | _ => exact exists_repr py _

end PyValue

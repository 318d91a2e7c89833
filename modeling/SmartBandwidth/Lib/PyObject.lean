import SmartBandwidth.Lib.KeyedList
import SmartBandwidth.Lib.PyValue

/-!
# Objects before serialisation

Values as a program builds them, before they are encoded: those of a decoder, and also tuples,
members of enumerations, and keys of any of these kinds.  A JSON encoder takes the objects
without tuples and members whose keys are strings, numbers, booleans or null.
-/

/-- An object.  A member of an enumeration has its class, its name and its value. -/
inductive PyObject where
  | none
  | bool (value : Bool)
  | int (value : Int)
  | float (value : PyFloat)
  | str (text : String)
  | list (items : List PyObject)
  | tuple (items : List PyObject)
  | enum (enumName name : String) (value : PyObject)
  | dict (entries : List (PyObject × PyObject))

namespace PyObject

/-- Induction over an object through the items of lists and tuples, the values of members and
the keys and values of maps. -/
@[elab_as_elim]
theorem induction {motive : PyObject → Prop} (none : motive .none)
    (bool : ∀ value, motive (.bool value)) (int : ∀ value, motive (.int value))
    (float : ∀ value, motive (.float value)) (str : ∀ text, motive (.str text))
    (list : ∀ items, (∀ item ∈ items, motive item) → motive (.list items))
    (tuple : ∀ items, (∀ item ∈ items, motive item) → motive (.tuple items))
    (enum : ∀ enumName name value, motive value → motive (.enum enumName name value))
    (dict : ∀ entries, (∀ entry ∈ entries, motive entry.1 ∧ motive entry.2) →
      motive (.dict entries)) (object : PyObject) : motive object :=
  @PyObject.rec motive (fun items => ∀ item ∈ items, motive item)
    (fun entries => ∀ entry ∈ entries, motive entry.1 ∧ motive entry.2)
    (fun entry => motive entry.1 ∧ motive entry.2)
    none bool int float str list tuple enum dict
    (fun _ member => absurd member List.not_mem_nil)
    (fun _ _ first rest => List.forall_mem_cons.mpr ⟨first, rest⟩)
    (fun _ member => absurd member List.not_mem_nil)
    (fun _ _ first rest => List.forall_mem_cons.mpr ⟨first, rest⟩)
    (fun _ _ key value => ⟨key, value⟩) object

/-! ## Texts -/

mutual

/-- `repr(object)`. -/
def repr (py : PyText) : PyObject → Except PyFault String
  | .none => .ok "None"
  | .bool value => .ok (if value then "True" else "False")
  | .int value => PyValue.intText value
  | .float value => .ok (py.showFloat value)
  | .str text => .ok (py.quote text)
  | .list items => do
      let texts ← reprItems py items
      return "[" ++ ", ".intercalate texts ++ "]"
  | .tuple items => do
      let texts ← reprItems py items
      return "(" ++ ", ".intercalate texts ++ (if items.length = 1 then ",)" else ")")
  | .enum enumName name value => do
      let text ← repr py value
      return "<" ++ enumName ++ "." ++ name ++ ": " ++ text ++ ">"
  | .dict entries => do
      let texts ← reprEntries py entries
      return "\x7b" ++ ", ".intercalate texts ++ "\x7d"

/-- The texts of the items of a list or a tuple. -/
def reprItems (py : PyText) : List PyObject → Except PyFault (List String)
  | [] => .ok []
  | item :: rest => do
      let text ← repr py item
      let texts ← reprItems py rest
      return text :: texts

/-- The texts of the entries of a map. -/
def reprEntries (py : PyText) : List (PyObject × PyObject) → Except PyFault (List String)
  | [] => .ok []
  | (key, value) :: rest => do
      let keyText ← repr py key
      let valueText ← repr py value
      let texts ← reprEntries py rest
      return (keyText ++ ": " ++ valueText) :: texts

end

/-- An object without an integer that is too long to write out. -/
inductive Printable : PyObject → Prop where
  | none : Printable .none
  | bool (value : Bool) : Printable (.bool value)
  | int {value : Int} (short : value.natAbs < 10 ^ PyValue.maxDigits) : Printable (.int value)
  | float (value : PyFloat) : Printable (.float value)
  | str (text : String) : Printable (.str text)
  | list {items : List PyObject} (printable : ∀ item ∈ items, Printable item) :
      Printable (.list items)
  | tuple {items : List PyObject} (printable : ∀ item ∈ items, Printable item) :
      Printable (.tuple items)
  | enum (enumName name : String) {value : PyObject} (printable : Printable value) :
      Printable (.enum enumName name value)
  | dict {entries : List (PyObject × PyObject)} (keys : ∀ entry ∈ entries, Printable entry.1)
      (values : ∀ entry ∈ entries, Printable entry.2) : Printable (.dict entries)

theorem printable_list_iff {items : List PyObject} :
    Printable (.list items) ↔ ∀ item ∈ items, Printable item := by
  constructor
  · intro printable
    cases printable with
    | list printable => exact printable
  · exact .list

theorem printable_tuple_iff {items : List PyObject} :
    Printable (.tuple items) ↔ ∀ item ∈ items, Printable item := by
  constructor
  · intro printable
    cases printable with
    | tuple printable => exact printable
  · exact .tuple

theorem printable_enum_iff {enumName name : String} {value : PyObject} :
    Printable (.enum enumName name value) ↔ Printable value := by
  constructor
  · intro printable
    cases printable with
    | enum _ _ printable => exact printable
  · exact .enum enumName name

theorem printable_dict_iff {entries : List (PyObject × PyObject)} :
    Printable (.dict entries) ↔ ∀ entry ∈ entries, Printable entry.1 ∧ Printable entry.2 := by
  constructor
  · intro printable
    cases printable with
    | dict keys values => exact fun entry member => ⟨keys entry member, values entry member⟩
  · intro printable
    exact .dict (fun entry member => (printable entry member).1)
      fun entry member => (printable entry member).2

theorem exists_reprItems {py : PyText} {items : List PyObject} :
    (∃ texts, reprItems py items = .ok texts) ↔
      ∀ item ∈ items, ∃ text, repr py item = .ok text := by
  induction items with
  | nil => simp [reprItems]
  | cons item rest ih =>
      rw [reprItems, List.forall_mem_cons, ← ih]
      simp only [Raising.exists_bind_iff]
      simp [pure, Except.pure]

theorem exists_reprEntries {py : PyText} {entries : List (PyObject × PyObject)} :
    (∃ texts, reprEntries py entries = .ok texts) ↔
      ∀ entry ∈ entries, (∃ text, repr py entry.1 = .ok text) ∧
        ∃ text, repr py entry.2 = .ok text := by
  induction entries with
  | nil => simp [reprEntries]
  | cons entry rest ih =>
      rw [reprEntries, List.forall_mem_cons, ← ih]
      simp only [Raising.exists_bind_iff, and_assoc]
      simp [pure, Except.pure]

/-- An object has a text exactly if no integer in it is too long. -/
theorem exists_repr {py : PyText} {object : PyObject} :
    (∃ text, repr py object = .ok text) ↔ object.Printable := by
  induction object using PyObject.induction with
  | none => exact ⟨fun _ => .none, fun _ => ⟨_, rfl⟩⟩
  | bool value => exact ⟨fun _ => .bool value, fun _ => ⟨_, rfl⟩⟩
  | int value =>
      rw [repr, PyValue.exists_intText]
      constructor
      · exact .int
      · intro printable
        cases printable with
        | int short => exact short
  | float value => exact ⟨fun _ => .float value, fun _ => ⟨_, rfl⟩⟩
  | str text => exact ⟨fun _ => .str text, fun _ => ⟨_, rfl⟩⟩
  | list items ih =>
      rw [repr, Raising.exists_bind_iff, printable_list_iff]
      simp only [pure, Except.pure, Except.ok.injEq, exists_eq', and_true, exists_reprItems]
      exact forall₂_congr ih
  | tuple items ih =>
      rw [repr, Raising.exists_bind_iff, printable_tuple_iff]
      simp only [pure, Except.pure, Except.ok.injEq, exists_eq', and_true, exists_reprItems]
      exact forall₂_congr ih
  | enum enumName name value ih =>
      rw [repr, Raising.exists_bind_iff, printable_enum_iff]
      simp only [pure, Except.pure, Except.ok.injEq, exists_eq', and_true, ih]
  | dict entries ih =>
      rw [repr, Raising.exists_bind_iff, printable_dict_iff]
      simp only [pure, Except.pure, Except.ok.injEq, exists_eq', and_true, exists_reprEntries]
      exact forall₂_congr fun entry member => and_congr (ih entry member).1 (ih entry member).2

/-! ## Keys -/

/-- What JSON has besides lists and maps; these are also the keys that an encoder takes. -/
def IsScalar : PyObject → Prop
  | .none | .bool _ | .int _ | .float _ | .str _ => True
  | .list _ | .tuple _ | .enum .. | .dict _ => False

/-- The number that an object equals; a nan equals none. -/
def number? : PyObject → Option PyFloat
  | .bool value => some (.finite (if value then 1 else 0))
  | .int value => some (.finite value)
  | .float .nan => Option.none
  | .float value => some value
  | .none | .str _ | .list _ | .tuple _ | .enum .. | .dict _ => Option.none

/-- Whether two keys of a JSON map are one key: they are equal, numbers by their amount. -/
def sameKey : PyObject → PyObject → Bool
  | .none, .none => true
  | .str left, .str right => left = right
  | left, right =>
      match left.number?, right.number? with
      | some left, some right => left = right
      | _, _ => false

/-- An object that an encoder takes. -/
inductive IsJson : PyObject → Prop where
  | scalar {object : PyObject} (scalar : object.IsScalar) : IsJson object
  | list {items : List PyObject} (json : ∀ item ∈ items, IsJson item) : IsJson (.list items)
  | dict {entries : List (PyObject × PyObject)} (keys : ∀ entry ∈ entries, entry.1.IsScalar)
      (distinct : KeyedList.Distinct sameKey entries)
      (values : ∀ entry ∈ entries, IsJson entry.2) : IsJson (.dict entries)

/-! ## Entries -/

mutual

/-- The number of entries of all maps in an object. -/
def entryCount : PyObject → Nat
  | .list items => itemsEntryCount items
  | .tuple items => itemsEntryCount items
  | .dict entries => entries.length + valuesEntryCount entries
  | .none | .bool _ | .int _ | .float _ | .str _ | .enum .. => 0

/-- The number of entries of all maps in some items. -/
def itemsEntryCount : List PyObject → Nat
  | [] => 0
  | item :: rest => entryCount item + itemsEntryCount rest

/-- The number of entries of all maps in the values of a map. -/
def valuesEntryCount : List (PyObject × PyObject) → Nat
  | [] => 0
  | (_, value) :: rest => entryCount value + valuesEntryCount rest

end

theorem IsScalar.entryCount {object : PyObject} (scalar : object.IsScalar) :
    object.entryCount = 0 := by
  cases object <;> first | rfl | cases scalar

theorem itemsEntryCount_eq (items : List PyObject) :
    itemsEntryCount items = (items.map entryCount).sum := by
  induction items with
  | nil => rfl
  | cons item rest ih => rw [itemsEntryCount, ih, List.map_cons, List.sum_cons]

theorem valuesEntryCount_eq (entries : List (PyObject × PyObject)) :
    valuesEntryCount entries = KeyedList.totalWeight entryCount entries := by
  induction entries with
  | nil => rfl
  | cons entry rest ih =>
      rw [valuesEntryCount, ih, KeyedList.totalWeight, KeyedList.totalWeight, List.map_cons,
        List.sum_cons]

end PyObject

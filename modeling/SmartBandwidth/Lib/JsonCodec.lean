import SmartBandwidth.Lib.Pairing
import SmartBandwidth.Lib.PyObject

/-!
# Encoded objects

What a JSON decoder reads from the text that an encoder wrote for an object.  Maps whose keys are
distinct strings keep their entries and tuples become lists; maps with other keys are left open.
-/

namespace PyObject

/-- A key and the string that it is decoded to. -/
def SameText (object : PyObject) (value : PyValue) : Prop :=
  ∃ text, object = .str text ∧ value = .str text

/-- The keys of a map are distinct strings. -/
def TextKeyed (entries : List (PyObject × PyObject)) : Prop :=
  (∀ entry ∈ entries, ∃ text, entry.1 = .str text) ∧ KeyedList.Distinct sameKey entries

/-- The value that the encoding of an object is decoded to. -/
inductive Decodes : PyObject → PyValue → Prop where
  | none : Decodes .none .null
  | bool (value : Bool) : Decodes (.bool value) (.bool value)
  | int (value : Int) : Decodes (.int value) (.int value)
  | float (value : PyFloat) : Decodes (.float value) (.float value)
  | str (text : String) : Decodes (.str text) (.str text)
  | list {items : List PyObject} {results : List PyValue}
      (decodes : List.Forall₂ Decodes items results) : Decodes (.list items) (.list results)
  | tuple {items : List PyObject} {results : List PyValue}
      (decodes : List.Forall₂ Decodes items results) : Decodes (.tuple items) (.list results)
  | enum (enumName name : String) (value : PyObject) (result : PyValue) :
      Decodes (.enum enumName name value) result
  | dict {entries : List (PyObject × PyObject)} {results : PyValue.Entries}
      (keys : List.Forall₂ (fun entry result => SameText entry.1 result.1) entries results)
      (values : List.Forall₂ (fun entry result => Decodes entry.2 result.2) entries results) :
      Decodes (.dict entries) (.dict results)
  | renamed {entries : List (PyObject × PyObject)} (other : ¬ TextKeyed entries)
      (results : PyValue.Entries) : Decodes (.dict entries) (.dict results)

/-- A decoder reads what an encoder wrote. -/
def RoundTrips (dumps : PyObject → Except PyFault (List UInt8))
    (loads : List UInt8 → Option PyValue) : Prop :=
  ∀ object payload, dumps object = .ok payload →
    ∃ value, Decodes object value ∧ loads payload = some value

/-- `loads`, for a text that has to be a map. -/
def loadsMap (loads : List UInt8 → Option PyValue) (payload : List UInt8) :
    Option PyValue.Entries :=
  (loads payload).bind fun value => value.asDict.toOption

/-- `entries.get(key)`, absent keys apart. -/
def find? (entries : List (PyObject × PyObject)) (key : String) : Option PyObject :=
  (entries.find? fun entry => sameKey entry.1 (.str key)).map Prod.snd

/-! ## Maps of strings -/

section Maps

variable {entries : List (PyObject × PyObject)} {results : PyValue.Entries} {value : PyValue}

theorem sameKey_str (left right : String) :
    sameKey (.str left) (.str right) = decide (left = right) := rfl

/-- Distinct texts are distinct keys. -/
theorem textKeyed_of_nodup {texts : List String} (nodup : texts.Nodup)
    (keys : entries.map Prod.fst = texts.map .str) : TextKeyed entries := by
  induction texts generalizing entries with
  | nil =>
      cases List.map_eq_nil_iff.mp keys
      exact ⟨fun _ member => absurd member List.not_mem_nil, .nil⟩
  | cons text rest ih =>
      obtain ⟨entry, others, rfl, first, later⟩ := List.map_eq_cons_iff.mp keys
      obtain ⟨fresh, nodup⟩ := List.nodup_cons.mp nodup
      obtain ⟨strings, distinct⟩ := ih nodup later
      constructor
      · rw [List.forall_mem_cons]
        exact ⟨⟨text, first⟩, strings⟩
      · refine List.pairwise_cons.mpr ⟨?_, distinct⟩
        intro other member
        have listed : other.1 ∈ rest.map PyObject.str := by
          rw [← later]
          exact List.mem_map_of_mem member
        obtain ⟨otherText, textMember, sameText⟩ := List.mem_map.mp listed
        rw [first, ← sameText, sameKey_str, decide_eq_false_iff_not]
        intro same
        exact fresh (same ▸ textMember)

/-- A map of distinct strings keeps its entries. -/
theorem Decodes.ofTextKeyed (decodes : Decodes (.dict entries) value) (keyed : TextKeyed entries) :
    ∃ results, value = .dict results ∧
      List.Forall₂ (fun entry result => SameText entry.1 result.1 ∧ Decodes entry.2 result.2)
        entries results := by
  cases decodes with
  | renamed other => exact absurd keyed other
  | @dict _ results keys values => exact ⟨results, rfl, .mp (fun _ _ => And.intro) keys values⟩

/-- What is found under a key of a map and of a decoded one. -/
theorem find?_rel {shows : PyObject → PyValue → Prop} (key : String)
    (paired : List.Forall₂ (fun entry result => SameText entry.1 result.1 ∧
      shows entry.2 result.2) entries results) :
    Option.Rel shows (find? entries key) (PyValue.find? results key) := by
  refine Pairing.map_rel (fun related => related.2) (Pairing.find?_rel ?_ paired)
  intro entry result related
  obtain ⟨text, isKey, isDecoded⟩ := related.1
  rw [isKey, isDecoded, sameKey_str]
  rfl

/-- What a map has under a key that is there. -/
theorem get_of_found {shows : PyObject → PyValue → Prop} {key : String} {object : PyObject}
    (found : Option.Rel shows (some object) (PyValue.find? results key)) :
    shows object (PyValue.get results key) := by
  rw [PyValue.get]
  generalize PyValue.find? results key = result at found ⊢
  cases found with
  | some related => exact related

theorem get_of_absent {shows : PyObject → PyValue → Prop} {key : String}
    (absent : Option.Rel shows Option.none (PyValue.find? results key)) :
    PyValue.get results key = .null := by
  rw [PyValue.get]
  generalize PyValue.find? results key = result at absent ⊢
  cases absent
  rfl

end Maps

/-! ## A decoder for maps of strings -/

mutual

/-- What an object is decoded to if the keys of its maps are strings. -/
def toValue : PyObject → PyValue
  | .none => .null
  | .bool value => .bool value
  | .int value => .int value
  | .float value => .float value
  | .str text => .str text
  | .list items => .list (toValues items)
  | .tuple items => .list (toValues items)
  | .enum _ _ value => toValue value
  | .dict entries => .dict (toEntries entries)

/-- The items of a list or a tuple. -/
def toValues : List PyObject → List PyValue
  | [] => []
  | item :: rest => toValue item :: toValues rest

/-- The entries of a map. -/
def toEntries : List (PyObject × PyObject) → PyValue.Entries
  | [] => []
  | (key, value) :: rest => (toValue key, toValue value) :: toEntries rest

end

theorem toValues_eq_map (items : List PyObject) : toValues items = items.map toValue := by
  induction items with
  | nil => rfl
  | cons item rest ih => rw [toValues, ih, List.map_cons]

theorem toEntries_eq_map (entries : List (PyObject × PyObject)) :
    toEntries entries = entries.map fun entry => (toValue entry.1, toValue entry.2) := by
  induction entries with
  | nil => rfl
  | cons entry rest ih =>
      obtain ⟨key, value⟩ := entry
      rw [toEntries, ih, List.map_cons]

theorem decodes_toValue (object : PyObject) : Decodes object (toValue object) := by
  have items {items : List PyObject} (decodes : ∀ item ∈ items, Decodes item (toValue item)) :
      List.Forall₂ Decodes items (toValues items) := by
    rw [toValues_eq_map, List.forall₂_map_right_iff, List.forall₂_same]
    exact decodes
  induction object using PyObject.induction with
  | none => exact .none
  | bool value => exact .bool value
  | int value => exact .int value
  | float value => exact .float value
  | str text => exact .str text
  | list entries ih => exact .list (items ih)
  | tuple entries ih => exact .tuple (items ih)
  | enum enumName name value => exact .enum enumName name value _
  | dict entries ih =>
      rw [toValue]
      by_cases keyed : TextKeyed entries
      · rw [toEntries_eq_map]
        apply Decodes.dict
        · rw [List.forall₂_map_right_iff, List.forall₂_same]
          intro entry member
          obtain ⟨text, isKey⟩ := keyed.1 entry member
          rw [isKey]
          exact ⟨text, rfl, rfl⟩
        · rw [List.forall₂_map_right_iff, List.forall₂_same]
          exact fun entry member => (ih entry member).2
      · exact .renamed keyed _

/-! ## Maps of floats -/

/-- A map from strings to finite floats. -/
def floatMap (fields : List (String × ℚ)) : PyObject :=
  .dict (fields.map fun field => (.str field.1, .float (.finite field.2)))

/-- The same map, decoded. -/
def decodedFloats (fields : List (String × ℚ)) : PyValue :=
  .dict (fields.map fun field => (.str field.1, .float (.finite field.2)))

variable {fields : List (String × ℚ)} {value : PyValue}

theorem textKeyed_floats (nodup : (fields.map Prod.fst).Nodup) :
    TextKeyed (fields.map fun field => (.str field.1, .float (.finite field.2))) := by
  apply textKeyed_of_nodup nodup
  rw [List.map_map, List.map_map]
  rfl

theorem floatMap_isJson (nodup : (fields.map Prod.fst).Nodup) : IsJson (floatMap fields) := by
  apply IsJson.dict _ (textKeyed_floats nodup).2
  · rw [List.forall_mem_map]
    exact fun _ _ => .scalar trivial
  · rw [List.forall_mem_map]
    exact fun _ _ => trivial

theorem Decodes.floats (decodes : Decodes (floatMap fields) value)
    (nodup : (fields.map Prod.fst).Nodup) : value = decodedFloats fields := by
  obtain ⟨results, rfl, paired⟩ := decodes.ofTextKeyed (textKeyed_floats nodup)
  rw [decodedFloats]
  congr 1
  clear decodes nodup
  induction fields generalizing results with
  | nil =>
      cases paired
      rfl
  | cons field rest ih =>
      rw [List.map_cons, List.forall₂_cons_left_iff] at paired
      obtain ⟨result, others, ⟨isKey, isValue⟩, later, rfl⟩ := paired
      obtain ⟨text, same, sameDecoded⟩ := isKey
      cases same
      obtain ⟨key, decoded⟩ := result
      cases sameDecoded
      cases isValue
      rw [List.map_cons, ih others later]

end PyObject

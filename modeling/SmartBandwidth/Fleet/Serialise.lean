import SmartBandwidth.Lib.Pairing
import SmartBandwidth.Lib.PyObject

/-!
# Serialising a heartbeat

Before a node's statistics are encoded, members of enumerations become their values, tuples become
lists, and the keys that JSON does not have are renamed: a member to its name, a tuple to its
text.  Keys that are renamed alike share one entry.
-/

namespace SmartBandwidth

open PyObject

/-- The key of an entry in `_make_serialisable`. -/
def serialisableKey (py : PyText) : PyObject → Except PyFault PyObject
  | .enum _ name _ => .ok (.str name)
  | .str text => .ok (.str text)
  | .int value => .ok (.int value)
  | .float value => .ok (.float value)
  | .bool value => .ok (.bool value)
  | .none => .ok .none
  | key => do return .str (← PyObject.repr py key)

mutual

/-- `_make_serialisable`. -/
def makeSerialisable (py : PyText) : PyObject → Except PyFault PyObject
  | .dict entries => do
      let pairs ← makePairs py entries
      return .dict (KeyedList.ofPairs sameKey pairs)
  | .list items => do return .list (← makeItems py items)
  | .tuple items => do return .list (← makeItems py items)
  | .enum _ _ value => .ok value
  | .none => .ok .none
  | .bool value => .ok (.bool value)
  | .int value => .ok (.int value)
  | .float value => .ok (.float value)
  | .str text => .ok (.str text)

/-- The items of the result of a list or a tuple. -/
def makeItems (py : PyText) : List PyObject → Except PyFault (List PyObject)
  | [] => .ok []
  | item :: rest => do
      let result ← makeSerialisable py item
      let results ← makeItems py rest
      return result :: results

/-- The keys and values that a dict comprehension assigns, in order. -/
def makePairs (py : PyText) :
    List (PyObject × PyObject) → Except PyFault (List (PyObject × PyObject))
  | [] => .ok []
  | (key, value) :: rest => do
      let newKey ← serialisableKey py key
      let newValue ← makeSerialisable py value
      let pairs ← makePairs py rest
      return (newKey, newValue) :: pairs

end

/-- A value in which the members of enumerations have strings, numbers, booleans or null for
values; members in keys may have any. -/
inductive Serialisable : PyObject → Prop where
  | scalar {object : PyObject} (scalar : object.IsScalar) : Serialisable object
  | list {items : List PyObject} (serialisable : ∀ item ∈ items, Serialisable item) :
      Serialisable (.list items)
  | tuple {items : List PyObject} (serialisable : ∀ item ∈ items, Serialisable item) :
      Serialisable (.tuple items)
  | enum (enumName name : String) {value : PyObject} (scalar : value.IsScalar) :
      Serialisable (.enum enumName name value)
  | dict {entries : List (PyObject × PyObject)}
      (serialisable : ∀ entry ∈ entries, Serialisable entry.2) : Serialisable (.dict entries)

/-- A key whose text is not needed, or can be written out. -/
def Nameable : PyObject → Prop
  | .list items => Printable (.list items)
  | .tuple items => Printable (.tuple items)
  | .dict entries => Printable (.dict entries)
  | .none | .bool _ | .int _ | .float _ | .str _ | .enum .. => True

/-- All keys of all maps in a value can be renamed. -/
inductive KeysNameable : PyObject → Prop where
  | scalar {object : PyObject} (scalar : object.IsScalar) : KeysNameable object
  | list {items : List PyObject} (nameable : ∀ item ∈ items, KeysNameable item) :
      KeysNameable (.list items)
  | tuple {items : List PyObject} (nameable : ∀ item ∈ items, KeysNameable item) :
      KeysNameable (.tuple items)
  | enum (enumName name : String) (value : PyObject) : KeysNameable (.enum enumName name value)
  | dict {entries : List (PyObject × PyObject)} (keys : ∀ entry ∈ entries, Nameable entry.1)
      (values : ∀ entry ∈ entries, KeysNameable entry.2) : KeysNameable (.dict entries)

theorem keysNameable_list_iff {items : List PyObject} :
    KeysNameable (.list items) ↔ ∀ item ∈ items, KeysNameable item := by
  constructor
  · intro nameable
    cases nameable with
    | scalar scalar => cases scalar
    | list nameable => exact nameable
  · exact .list

theorem keysNameable_tuple_iff {items : List PyObject} :
    KeysNameable (.tuple items) ↔ ∀ item ∈ items, KeysNameable item := by
  constructor
  · intro nameable
    cases nameable with
    | scalar scalar => cases scalar
    | tuple nameable => exact nameable
  · exact .tuple

theorem keysNameable_dict_iff {entries : List (PyObject × PyObject)} :
    KeysNameable (.dict entries) ↔
      ∀ entry ∈ entries, Nameable entry.1 ∧ KeysNameable entry.2 := by
  constructor
  · intro nameable
    cases nameable with
    | scalar scalar => cases scalar
    | dict keys values => exact fun entry member => ⟨keys entry member, values entry member⟩
  · intro nameable
    exact .dict (fun entry member => (nameable entry member).1)
      fun entry member => (nameable entry member).2

/-- No two keys of a map are renamed to one key. -/
def RenamedApart (py : PyText) (entries : List (PyObject × PyObject)) : Prop :=
  entries.Pairwise fun earlier later =>
    ∀ earlierKey laterKey, serialisableKey py earlier.1 = .ok earlierKey →
      serialisableKey py later.1 = .ok laterKey → sameKey earlierKey laterKey = false

/-- This holds for each map in a value. -/
inductive KeysApart (py : PyText) : PyObject → Prop where
  | scalar {object : PyObject} (scalar : object.IsScalar) : KeysApart py object
  | list {items : List PyObject} (apart : ∀ item ∈ items, KeysApart py item) :
      KeysApart py (.list items)
  | tuple {items : List PyObject} (apart : ∀ item ∈ items, KeysApart py item) :
      KeysApart py (.tuple items)
  | enum (enumName name : String) (value : PyObject) : KeysApart py (.enum enumName name value)
  | dict {entries : List (PyObject × PyObject)} (keys : RenamedApart py entries)
      (values : ∀ entry ∈ entries, KeysApart py entry.2) : KeysApart py (.dict entries)

theorem keysApart_list_iff {py : PyText} {items : List PyObject} :
    KeysApart py (.list items) ↔ ∀ item ∈ items, KeysApart py item := by
  constructor
  · intro apart
    cases apart with
    | scalar scalar => cases scalar
    | list apart => exact apart
  · exact .list

theorem keysApart_tuple_iff {py : PyText} {items : List PyObject} :
    KeysApart py (.tuple items) ↔ ∀ item ∈ items, KeysApart py item := by
  constructor
  · intro apart
    cases apart with
    | scalar scalar => cases scalar
    | tuple apart => exact apart
  · exact .tuple

theorem keysApart_dict_iff {py : PyText} {entries : List (PyObject × PyObject)} :
    KeysApart py (.dict entries) ↔
      RenamedApart py entries ∧ ∀ entry ∈ entries, KeysApart py entry.2 := by
  constructor
  · intro apart
    cases apart with
    | scalar scalar => cases scalar
    | dict keys values => exact ⟨keys, values⟩
  · intro apart
    exact .dict apart.1 apart.2

section Results

variable {py : PyText}

theorem exists_text {key : PyObject} :
    (∃ newKey, (do return .str (← PyObject.repr py key) : Except PyFault PyObject) = .ok newKey) ↔
      key.Printable := by
  rw [Raising.exists_bind_iff, ← @exists_repr py]
  simp [pure, Except.pure]

theorem exists_serialisableKey {key : PyObject} :
    (∃ newKey, serialisableKey py key = .ok newKey) ↔ Nameable key := by
  cases key with
  | list items => exact exists_text
  | tuple items => exact exists_text
  | dict entries => exact exists_text
  | _ => simp [serialisableKey, Nameable]

theorem isScalar_text {key newKey : PyObject}
    (renamed : (do return .str (← PyObject.repr py key) : Except PyFault PyObject) = .ok newKey) :
    newKey.IsScalar := by
  cases text : PyObject.repr py key with
  | error fault =>
      rw [text] at renamed
      cases renamed
  | ok text =>
      rw [text] at renamed
      cases renamed
      trivial

/-- Every key is renamed to one that JSON has. -/
theorem serialisableKey_isScalar {key newKey : PyObject}
    (renamed : serialisableKey py key = .ok newKey) : newKey.IsScalar := by
  cases key with
  | list items => exact isScalar_text renamed
  | tuple items => exact isScalar_text renamed
  | dict entries => exact isScalar_text renamed
  | _ =>
      cases renamed
      trivial

/-- A key that JSON has keeps its name. -/
theorem serialisableKey_of_isScalar {key : PyObject} (scalar : key.IsScalar) :
    serialisableKey py key = .ok key := by
  cases key <;> first | rfl | cases scalar

theorem makeSerialisable_of_isScalar {object : PyObject} (scalar : object.IsScalar) :
    makeSerialisable py object = .ok object := by
  cases object <;> first | rfl | cases scalar

theorem makeItems_eq_ok {items results : List PyObject} :
    makeItems py items = .ok results ↔
      List.Forall₂ (fun item result => makeSerialisable py item = .ok result) items results := by
  induction items generalizing results with
  | nil => cases results <;> simp [makeItems]
  | cons item rest ih =>
      rw [makeItems]
      cases first : makeSerialisable py item with
      | error fault => cases results <;> simp [bind, Except.bind, first]
      | ok result =>
          cases later : makeItems py rest with
          | error fault =>
              rw [later] at ih
              cases results <;> simp [bind, Except.bind, ← ih]
          | ok others =>
              rw [later] at ih
              cases results <;> simp [bind, Except.bind, pure, Except.pure, ← ih, first]

theorem makePairs_eq_ok {entries pairs : List (PyObject × PyObject)} :
    makePairs py entries = .ok pairs ↔
      List.Forall₂ (fun entry pair => serialisableKey py entry.1 = .ok pair.1 ∧
        makeSerialisable py entry.2 = .ok pair.2) entries pairs := by
  induction entries generalizing pairs with
  | nil => cases pairs <;> simp [makePairs]
  | cons entry rest ih =>
      rw [makePairs]
      cases renamed : serialisableKey py entry.1 with
      | error fault => cases pairs <;> simp [bind, Except.bind, renamed]
      | ok newKey =>
          cases made : makeSerialisable py entry.2 with
          | error fault => cases pairs <;> simp [bind, Except.bind, made]
          | ok newValue =>
              cases later : makePairs py rest with
              | error fault =>
                  rw [later] at ih
                  cases pairs <;> simp [bind, Except.bind, ← ih]
              | ok others =>
                  rw [later] at ih
                  cases pairs <;>
                    simp [bind, Except.bind, pure, Except.pure, ← ih, renamed, made, Prod.ext_iff]

/-- A list returns when its items do. -/
theorem makeSerialisable_list_eq_ok {items : List PyObject} {result : PyObject} :
    makeSerialisable py (.list items) = .ok result ↔ ∃ results, result = .list results ∧
      List.Forall₂ (fun item result => makeSerialisable py item = .ok result) items results := by
  simp only [← makeItems_eq_ok, makeSerialisable]
  cases makeItems py items <;> simp [bind, Except.bind, pure, Except.pure, eq_comm]

theorem makeSerialisable_tuple {items : List PyObject} :
    makeSerialisable py (.tuple items) = makeSerialisable py (.list items) := by
  rw [makeSerialisable, makeSerialisable]

/-- A map returns when its values do and its keys can be renamed. -/
theorem makeSerialisable_dict_eq_ok {entries : List (PyObject × PyObject)} {result : PyObject} :
    makeSerialisable py (.dict entries) = .ok result ↔
      ∃ pairs, result = .dict (KeyedList.ofPairs sameKey pairs) ∧
        List.Forall₂ (fun entry pair => serialisableKey py entry.1 = .ok pair.1 ∧
          makeSerialisable py entry.2 = .ok pair.2) entries pairs := by
  simp only [← makePairs_eq_ok, makeSerialisable]
  cases makePairs py entries <;> simp [bind, Except.bind, pure, Except.pure, eq_comm]

theorem exists_makeSerialisable_list {items : List PyObject} :
    (∃ result, makeSerialisable py (.list items) = .ok result) ↔
      ∀ item ∈ items, ∃ result, makeSerialisable py item = .ok result := by
  simp only [makeSerialisable_list_eq_ok, exists_comm (α := PyObject)]
  simp only [exists_and_right, exists_eq, true_and, Pairing.exists_iff]

theorem exists_makeSerialisable_dict {entries : List (PyObject × PyObject)} :
    (∃ result, makeSerialisable py (.dict entries) = .ok result) ↔
      ∀ entry ∈ entries, Nameable entry.1 ∧
        ∃ result, makeSerialisable py entry.2 = .ok result := by
  simp only [makeSerialisable_dict_eq_ok, exists_comm (α := PyObject)]
  simp only [exists_and_right, exists_eq, true_and, Pairing.exists_iff, Prod.exists,
    exists_and_left, ← @exists_serialisableKey py]

/-- The call returns exactly if every key can be renamed. -/
theorem exists_makeSerialisable {object : PyObject} :
    (∃ result, makeSerialisable py object = .ok result) ↔ KeysNameable object := by
  induction object using PyObject.induction with
  | list items ih =>
      rw [exists_makeSerialisable_list, keysNameable_list_iff]
      exact forall₂_congr ih
  | tuple items ih =>
      rw [makeSerialisable_tuple, exists_makeSerialisable_list, keysNameable_tuple_iff]
      exact forall₂_congr ih
  | enum enumName name value ih =>
      exact ⟨fun _ => .enum enumName name value, fun _ => ⟨value, rfl⟩⟩
  | dict entries ih =>
      rw [exists_makeSerialisable_dict, keysNameable_dict_iff]
      exact forall₂_congr fun entry member => and_congr_right' (ih entry member).2
  | _ => exact ⟨fun _ => .scalar trivial, fun _ => ⟨_, rfl⟩⟩

/-- An object that is JSON already stays as it is. -/
theorem makeSerialisable_of_isJson {object : PyObject} (json : IsJson object) :
    makeSerialisable py object = .ok object := by
  induction json with
  | scalar scalar => exact makeSerialisable_of_isScalar scalar
  | list _ ih => exact makeSerialisable_list_eq_ok.mpr ⟨_, rfl, List.forall₂_same.mpr ih⟩
  | dict keys distinct _ ih =>
      apply makeSerialisable_dict_eq_ok.mpr
      refine ⟨_, by rw [KeyedList.ofPairs_of_distinct distinct], List.forall₂_same.mpr ?_⟩
      intro entry member
      exact ⟨serialisableKey_of_isScalar (keys entry member), ih entry member⟩

theorem isJson_makeSerialisable_list {items : List PyObject} {result : PyObject}
    (json : ∀ item ∈ items, ∀ result, makeSerialisable py item = .ok result → IsJson result)
    (returns : makeSerialisable py (.list items) = .ok result) : IsJson result := by
  obtain ⟨results, rfl, paired⟩ := makeSerialisable_list_eq_ok.mp returns
  apply IsJson.list
  intro made member
  obtain ⟨item, itemMember, returned⟩ := Pairing.exists_item paired member
  exact json item itemMember made returned

theorem isJson_makeSerialisable_dict {entries : List (PyObject × PyObject)} {result : PyObject}
    (json : ∀ entry ∈ entries, ∀ result,
      makeSerialisable py entry.2 = .ok result → IsJson result)
    (returns : makeSerialisable py (.dict entries) = .ok result) : IsJson result := by
  obtain ⟨pairs, rfl, paired⟩ := makeSerialisable_dict_eq_ok.mp returns
  apply IsJson.dict _ (KeyedList.distinct_ofPairs pairs)
  · intro pair member
    obtain ⟨other, otherMember, sameValue⟩ := List.mem_map.mp (KeyedList.mem_ofPairs member).2
    obtain ⟨entry, entryMember, _, returned⟩ := Pairing.exists_item paired otherMember
    exact json entry entryMember pair.2 (sameValue ▸ returned)
  · intro pair member
    obtain ⟨other, otherMember, isKey⟩ := List.mem_map.mp (KeyedList.mem_ofPairs member).1
    obtain ⟨entry, _, renamed, _⟩ := Pairing.exists_item paired otherMember
    exact serialisableKey_isScalar (isKey ▸ renamed)

/-- What the call returns is JSON. -/
theorem isJson_makeSerialisable {object result : PyObject} (serialisable : Serialisable object)
    (returns : makeSerialisable py object = .ok result) : IsJson result := by
  induction serialisable generalizing result with
  | scalar scalar =>
      cases (makeSerialisable_of_isScalar scalar).symm.trans returns
      exact .scalar scalar
  | list _ ih => exact isJson_makeSerialisable_list (fun item member _ => ih item member) returns
  | tuple _ ih =>
      rw [makeSerialisable_tuple] at returns
      exact isJson_makeSerialisable_list (fun item member _ => ih item member) returns
  | enum enumName name scalar =>
      cases returns
      exact .scalar scalar
  | dict _ ih =>
      exact isJson_makeSerialisable_dict (fun entry member _ => ih entry member) returns

/-- The result of a map never has more entries, and it has as many exactly if no two keys are
renamed to one. -/
theorem length_makeSerialisable {entries : List (PyObject × PyObject)} {result : PyObject}
    (returns : makeSerialisable py (.dict entries) = .ok result) :
    ∃ results, result = .dict results ∧ results.length ≤ entries.length ∧
      (results.length = entries.length ↔ RenamedApart py entries) := by
  obtain ⟨pairs, rfl, paired⟩ := makeSerialisable_dict_eq_ok.mp returns
  refine ⟨_, rfl, ?_, ?_⟩
  · rw [paired.length_eq]
    exact KeyedList.length_ofPairs_le pairs
  · rw [paired.length_eq, KeyedList.length_ofPairs_eq_iff]
    refine Pairing.pairwise_iff ?_ paired
    intro entry pair entry' pair' related related'
    rw [related.1, related'.1]
    constructor
    · intro differ key key' isKey isKey'
      cases isKey
      cases isKey'
      exact differ
    · intro differ
      exact differ _ _ rfl rfl

/-- A result has no more entries than its object, and loses none exactly where the keys stay
apart. -/
def KeepsEntries (py : PyText) (object : PyObject) : Prop :=
  ∀ result, makeSerialisable py object = .ok result →
    result.entryCount ≤ object.entryCount ∧
      (result.entryCount = object.entryCount ↔ KeysApart py object)

theorem entryCount_makeSerialisable_list {items : List PyObject} {result : PyObject}
    (keeps : ∀ item ∈ items, KeepsEntries py item)
    (returns : makeSerialisable py (.list items) = .ok result) :
    result.entryCount ≤ itemsEntryCount items ∧
      (result.entryCount = itemsEntryCount items ↔ ∀ item ∈ items, KeysApart py item) := by
  obtain ⟨results, rfl, paired⟩ := makeSerialisable_list_eq_ok.mp returns
  rw [entryCount, itemsEntryCount_eq, itemsEntryCount_eq]
  exact Pairing.sum_le_and_eq_iff keeps paired

/-- Where no key is lost the values stand side by side with their results; otherwise there are
fewer entries already. -/
theorem keepsEntries_dict {entries : List (PyObject × PyObject)}
    (keeps : ∀ entry ∈ entries, KeepsEntries py entry.2) : KeepsEntries py (.dict entries) := by
  intro result returns
  obtain ⟨results, isDict, shorter, asLong⟩ := length_makeSerialisable returns
  obtain ⟨pairs, rfl, paired⟩ := makeSerialisable_dict_eq_ok.mp returns
  cases isDict
  have values : (pairs.map fun pair => pair.2.entryCount).sum ≤
      (entries.map fun entry => entry.2.entryCount).sum ∧
      ((pairs.map fun pair => pair.2.entryCount).sum =
          (entries.map fun entry => entry.2.entryCount).sum ↔
        ∀ entry ∈ entries, KeysApart py entry.2) :=
    Pairing.sum_le_and_eq_iff (fun entry member pair related =>
      keeps entry member pair.2 related.2) paired
  have unchanged : (KeyedList.ofPairs sameKey pairs).length = entries.length →
      KeyedList.ofPairs sameKey pairs = pairs := by
    intro kept
    rw [paired.length_eq] at kept
    exact KeyedList.ofPairs_of_distinct (KeyedList.length_ofPairs_eq_iff.mp kept)
  have fewer := @KeyedList.totalWeight_ofPairs_le _ _ sameKey entryCount pairs
  rw [entryCount, entryCount, valuesEntryCount_eq, valuesEntryCount_eq, keysApart_dict_iff]
  simp only [KeyedList.totalWeight] at fewer ⊢
  constructor
  · exact Nat.add_le_add shorter (fewer.trans values.1)
  · constructor
    · intro kept
      have allKept : (KeyedList.ofPairs sameKey pairs).length = entries.length := by omega
      rw [unchanged allKept, ← paired.length_eq, Nat.add_left_cancel_iff] at kept
      exact ⟨asLong.mp allKept, values.2.mp kept⟩
    · intro apart
      have allKept := asLong.mpr apart.1
      rw [allKept, unchanged allKept, values.2.mpr apart.2]

/-- In all maps together no entry is added, and none is lost exactly if in no map two keys are
renamed to one. -/
theorem keepsEntries {object : PyObject} (serialisable : Serialisable object) :
    KeepsEntries py object := by
  induction serialisable with
  | scalar scalar =>
      intro result returns
      cases (makeSerialisable_of_isScalar scalar).symm.trans returns
      exact ⟨le_rfl, iff_of_true rfl (.scalar scalar)⟩
  | list _ ih =>
      intro result returns
      rw [entryCount, keysApart_list_iff]
      exact entryCount_makeSerialisable_list ih returns
  | tuple _ ih =>
      intro result returns
      rw [makeSerialisable_tuple] at returns
      rw [entryCount, keysApart_tuple_iff]
      exact entryCount_makeSerialisable_list ih returns
  | enum enumName name scalar =>
      intro result returns
      cases returns
      rw [scalar.entryCount]
      exact ⟨le_rfl, iff_of_true rfl (.enum enumName name _)⟩
  | dict _ ih => exact keepsEntries_dict ih

end Results

/-- On a value of any depth the call returns JSON, which it leaves as it is, unless a key cannot be
written out.  No map gets more entries, and none is lost where no two keys are renamed to one. -/
theorem makeSerialisable_serialises (py : PyText) (object : PyObject)
    (serialisable : Serialisable object) :
    ((∃ result, makeSerialisable py object = .ok result) ↔ KeysNameable object) ∧
    ∀ result, makeSerialisable py object = .ok result →
      IsJson result ∧ makeSerialisable py result = .ok result ∧
      result.entryCount ≤ object.entryCount ∧
      (result.entryCount = object.entryCount ↔ KeysApart py object) ∧
      ∀ entries, object = .dict entries → ∃ results, result = .dict results ∧
        results.length ≤ entries.length ∧
        (results.length = entries.length ↔ RenamedApart py entries) := by
  constructor
  · exact exists_makeSerialisable
  · intro result returns
    have json := isJson_makeSerialisable serialisable returns
    obtain ⟨fewer, kept⟩ := keepsEntries serialisable result returns
    refine ⟨json, makeSerialisable_of_isJson json, fewer, kept, ?_⟩
    intro entries isDict
    rw [isDict] at returns
    exact length_makeSerialisable returns

/-- Drops by class, with the classes that were dropped last. -/
def dropStatistics : PyObject :=
  .dict [(.enum "TrafficPriority" "LOW" (.int 4), .int 7),
    (.tuple [.str "last", .str "hour"], .tuple [.enum "TrafficPriority" "LOW" (.int 4), .none])]

/-- Such statistics keep both entries. -/
theorem makeSerialisable_serialises_drops :
    makeSerialisable .ascii dropStatistics =
        .ok (.dict [(.str "LOW", .int 7), (.str "('last', 'hour')", .list [.int 4, .none])]) ∧
      IsJson (.dict [(.str "LOW", .int 7), (.str "('last', 'hour')", .list [.int 4, .none])]) ∧
      KeysApart .ascii dropStatistics := by
  have serialisable : Serialisable dropStatistics := by
    apply Serialisable.dict
    simp only [List.forall_mem_cons, List.not_mem_nil, false_imp_iff, implies_true, and_true]
    refine ⟨.scalar trivial, .tuple ?_⟩
    simp only [List.forall_mem_cons, List.not_mem_nil, false_imp_iff, implies_true, and_true]
    exact ⟨.enum _ _ trivial, .scalar trivial⟩
  have evaluated : makeSerialisable .ascii dropStatistics =
      .ok (.dict [(.str "LOW", .int 7), (.str "('last', 'hour')", .list [.int 4, .none])]) := rfl
  have serialises := (makeSerialisable_serialises .ascii dropStatistics serialisable).2 _ evaluated
  exact ⟨evaluated, serialises.1, serialises.2.2.2.1.mp rfl⟩

/-- A member and its name become one key, which keeps the later value; and a tuple with an integer
of more than 4300 digits cannot be written out. -/
theorem renamed_entry_lost :
    makeSerialisable .ascii (.dict [(.enum "TrafficPriority" "HIGH" (.int 2), .int 1),
        (.str "HIGH", .int 2)]) = .ok (.dict [(.str "HIGH", .int 2)]) ∧
      makeSerialisable .ascii (.dict [(.tuple [.int (10 ^ 4300)], .none)]) =
        .error .valueError := by
  have tooLong : PyValue.intText (10 ^ 4300) = .error .valueError := by
    rw [PyValue.intText, if_neg (by decide +kernel)]
  constructor
  · rfl
  · simp only [makeSerialisable, makePairs, serialisableKey, PyObject.repr, reprItems,
      tooLong]
    rfl

end SmartBandwidth

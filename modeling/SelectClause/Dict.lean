/-! # Insertion-ordered dictionaries

A dictionary is a list of entries whose keys are distinct. Giving a key a new value keeps the
key's place, and a new key goes to the end, so the order of the entries is the order in which the
keys first appeared.

`keys_insert` says what inserting does to the order of the keys, `get?_insert` what it does to
look-up, `get?_eq_some_iff` that look-up finds the entries, and `toList_ofList` that a list with
distinct keys is kept as it stands.
-/

namespace SelectClause

/-- A dictionary with text keys, in the order in which the keys were first given. -/
structure Dict (α : Type) where
  toList : List (String × α)
  distinct : (toList.map Prod.fst).Nodup
  deriving DecidableEq, Repr

namespace Dict

variable {α β : Type}

/-- Two dictionaries with the same entries in the same order are equal. -/
@[ext] theorem ext {first second : Dict α} (same : first.toList = second.toList) :
    first = second := by
  cases first; cases second; cases same; rfl

/-- The dictionary without entries. -/
def empty : Dict α := ⟨[], .nil⟩

instance : EmptyCollection (Dict α) := ⟨empty⟩

instance : Inhabited (Dict α) := ⟨empty⟩

/-- The keys in the order of the entries. -/
def keys (dict : Dict α) : List String := dict.toList.map Prod.fst

/-- The values, in the order of their keys. -/
def values (dict : Dict α) : List α := dict.toList.map Prod.snd

/-- The number of entries. -/
def size (dict : Dict α) : Nat := dict.toList.length

/-- The value under a key. -/
def get? (dict : Dict α) (key : String) : Option α := dict.toList.lookup key

/-- Whether there is a value under a key. -/
def contains (dict : Dict α) (key : String) : Bool := (dict.get? key).isSome

/-- Gives a key a value in a list of entries: in its place if it has one, else at the end. -/
def insertEntry (key : String) (value : α) : List (String × α) → List (String × α)
  | [] => [(key, value)]
  | (other, old) :: rest =>
      if other = key then (key, value) :: rest else (other, old) :: insertEntry key value rest

/-- Inserting keeps the keys and adds a new one at the end. -/
theorem map_fst_insertEntry (key : String) (value : α) (entries : List (String × α)) :
    (insertEntry key value entries).map Prod.fst =
      if key ∈ entries.map Prod.fst then entries.map Prod.fst
      else entries.map Prod.fst ++ [key] := by
  induction entries with
  | nil => rfl
  | cons entry rest ih =>
    obtain ⟨other, old⟩ := entry
    by_cases same : other = key
    · subst same
      simp [insertEntry]
    · have different : ¬ key = other := fun equal => same equal.symm
      by_cases present : key ∈ rest.map Prod.fst <;>
        simp_all [insertEntry]

/-- A key that is not yet there is added at the end. -/
theorem insertEntry_of_not_mem {key : String} (value : α) {entries : List (String × α)}
    (absent : key ∉ entries.map Prod.fst) :
    insertEntry key value entries = entries ++ [(key, value)] := by
  induction entries with
  | nil => rfl
  | cons entry rest ih =>
    obtain ⟨other, old⟩ := entry
    simp only [List.map_cons, List.mem_cons, not_or] at absent
    have different : ¬ other = key := fun equal => absent.1 equal.symm
    simp [insertEntry, different, ih absent.2]

/-- Inserting changes the value of its own key only. -/
theorem lookup_insertEntry (key other : String) (value : α) (entries : List (String × α)) :
    (insertEntry key value entries).lookup other =
      if other = key then some value else entries.lookup other := by
  induction entries with
  | nil =>
    by_cases same : other = key
    · simp [insertEntry, same]
    · simp [insertEntry, same, List.lookup_cons, beq_eq_false_iff_ne.2 same]
  | cons entry rest ih =>
    obtain ⟨present, old⟩ := entry
    by_cases same : other = present
    · subst same
      by_cases replaced : other = key <;> simp [insertEntry, replaced]
    · have unequal : (other == present) = false := beq_eq_false_iff_ne.2 same
      by_cases replaced : present = key
      · subst replaced
        simp [insertEntry, List.lookup_cons, unequal, same]
      · simp [insertEntry, replaced, List.lookup_cons, unequal, ih]

/-- Gives a key a value: in its place if it has one, else at the end. -/
def insert (dict : Dict α) (key : String) (value : α) : Dict α where
  toList := insertEntry key value dict.toList
  distinct := by
    rw [map_fst_insertEntry]
    split
    · exact dict.distinct
    · rename_i absent
      refine List.nodup_append.2 ⟨dict.distinct, by simp, ?_⟩
      intro present member other single
      rw [List.mem_singleton.1 single]
      intro same
      exact absent (same ▸ member)

/-- Gives a key a value only if it has none. -/
def insertIfNew (dict : Dict α) (key : String) (value : α) : Dict α :=
  if dict.contains key then dict else dict.insert key value

/-- The dictionary of a list of entries; of two entries with one key the later value counts, at
the earlier place. -/
def ofList (entries : List (String × α)) : Dict α :=
  entries.foldl (fun dict entry => dict.insert entry.1 entry.2) empty

/-- The dictionary with each value changed and every key left as it is. -/
def map (change : α → β) (dict : Dict α) : Dict β where
  toList := dict.toList.map fun entry => (entry.1, change entry.2)
  distinct := by simpa [List.map_map, Function.comp_def] using dict.distinct

/-- Keeps the entries whose keys pass a test. -/
def filterKeys (keep : String → Bool) (dict : Dict α) : Dict α where
  toList := dict.toList.filter fun entry => keep entry.1
  distinct := by
    have kept := List.Sublist.map Prod.fst
      (List.filter_sublist (p := fun entry : String × α => keep entry.1) (l := dict.toList))
    exact kept.nodup dict.distinct

@[simp] theorem toList_empty : (∅ : Dict α).toList = [] := rfl

@[simp] theorem toList_insert (dict : Dict α) (key : String) (value : α) :
    (dict.insert key value).toList = insertEntry key value dict.toList := rfl

@[simp] theorem toList_map (change : α → β) (dict : Dict α) :
    (dict.map change).toList = dict.toList.map fun entry => (entry.1, change entry.2) := rfl

@[simp] theorem keys_map (change : α → β) (dict : Dict α) : (dict.map change).keys = dict.keys := by
  simp [keys, List.map_map, Function.comp_def]

/-- Inserting keeps the keys in their order and adds a new one at the end. -/
theorem keys_insert (dict : Dict α) (key : String) (value : α) :
    (dict.insert key value).keys =
      if key ∈ dict.keys then dict.keys else dict.keys ++ [key] :=
  map_fst_insertEntry key value dict.toList

/-- Inserting changes the value of its own key only. -/
theorem get?_insert (dict : Dict α) (key other : String) (value : α) :
    (dict.insert key value).get? other = if other = key then some value else dict.get? other :=
  lookup_insertEntry key other value dict.toList

/-- A list with distinct keys is kept as it stands. -/
theorem toList_ofList {entries : List (String × α)} (distinct : (entries.map Prod.fst).Nodup) :
    (ofList entries).toList = entries := by
  suffices general : ∀ (rest : List (String × α)) (dict : Dict α),
      ((dict.toList ++ rest).map Prod.fst).Nodup →
        (rest.foldl (fun dict entry => dict.insert entry.1 entry.2) dict).toList =
          dict.toList ++ rest by
    exact general entries ∅ (by simpa using distinct)
  intro rest
  induction rest with
  | nil => simp
  | cons entry rest ih =>
    intro dict all
    have absent : entry.1 ∉ dict.toList.map Prod.fst := by
      intro member
      rw [List.map_append, List.nodup_append] at all
      exact all.2.2 entry.1 member entry.1 (by simp) rfl
    have placed : (dict.insert entry.1 entry.2).toList = dict.toList ++ [entry] :=
      insertEntry_of_not_mem entry.2 absent
    rw [List.foldl_cons, ih _ (by rw [placed]; simpa using all), placed]
    simp

/-- A dictionary is made up of its entries. -/
@[simp] theorem ofList_toList (dict : Dict α) : ofList dict.toList = dict :=
  Dict.ext (toList_ofList dict.distinct)

/-- A key has a value just if it is among the keys. -/
theorem contains_iff {dict : Dict α} {key : String} :
    dict.contains key = true ↔ key ∈ dict.keys := by
  have general : ∀ entries : List (String × α),
      (entries.lookup key).isSome = true ↔ key ∈ entries.map Prod.fst := by
    intro entries
    induction entries with
    | nil => simp
    | cons entry rest ih =>
      obtain ⟨other, old⟩ := entry
      by_cases same : key = other
      · simp [same]
      · simp [List.lookup_cons, beq_eq_false_iff_ne.2 same, same, ih]
  exact general dict.toList

/-- A key that is not among the keys has no value. -/
theorem get?_eq_none_iff {dict : Dict α} {key : String} :
    dict.get? key = none ↔ key ∉ dict.keys := by
  rw [← contains_iff, contains]
  simp

/-- The value of a key is the one that it has among the entries. -/
theorem get?_eq_some_iff {dict : Dict α} {key : String} {value : α} :
    dict.get? key = some value ↔ (key, value) ∈ dict.toList := by
  have general : ∀ entries : List (String × α), (entries.map Prod.fst).Nodup →
      (entries.lookup key = some value ↔ (key, value) ∈ entries) := by
    intro entries distinct
    induction entries with
    | nil => simp
    | cons entry rest ih =>
      obtain ⟨other, old⟩ := entry
      rw [List.map_cons, List.nodup_cons] at distinct
      by_cases same : key = other
      · subst same
        have absent : (key, value) ∉ rest := fun member =>
          distinct.1 (List.mem_map.2 ⟨(key, value), member, rfl⟩)
        simp [absent, eq_comm]
      · simp [List.lookup_cons, beq_eq_false_iff_ne.2 same, same, ih distinct.2]
  exact general dict.toList dict.distinct

/-- A key with a value is one of the keys. -/
theorem mem_keys_of_get?_eq_some {dict : Dict α} {key : String} {value : α}
    (held : dict.get? key = some value) : key ∈ dict.keys :=
  List.mem_map.2 ⟨(key, value), get?_eq_some_iff.1 held, rfl⟩

/-- Applying a function to every value applies it to the value of each key. -/
theorem get?_map (change : α → β) (dict : Dict α) (key : String) :
    (dict.map change).get? key = (dict.get? key).map change := by
  have general : ∀ entries : List (String × α),
      (entries.map fun entry => (entry.1, change entry.2)).lookup key =
        (entries.lookup key).map change := by
    intro entries
    induction entries with
    | nil => rfl
    | cons entry rest ih =>
      obtain ⟨other, old⟩ := entry
      by_cases same : key = other
      · simp [same]
      · simp [List.lookup_cons, beq_eq_false_iff_ne.2 same, ih]
  exact general dict.toList

/-- A key that passes the test keeps its value, and any other has none. -/
theorem get?_filterKeys (keep : String → Bool) (dict : Dict α) (key : String) :
    (dict.filterKeys keep).get? key = if keep key then dict.get? key else none := by
  have general : ∀ entries : List (String × α),
      (entries.filter fun entry => keep entry.1).lookup key =
        if keep key then entries.lookup key else none := by
    intro entries
    induction entries with
    | nil => simp
    | cons entry rest ih =>
      obtain ⟨other, old⟩ := entry
      by_cases same : key = other
      · subst same
        by_cases kept : keep key = true <;> simp [kept, ih]
      · by_cases kept : keep other = true <;>
          simp [kept, List.lookup_cons, beq_eq_false_iff_ne.2 same, ih]
  exact general dict.toList

/-- Giving values to the keys of a list, one by one, changes the values of these keys only. -/
theorem get?_foldl_insert (change : α → β) {entries : List (String × α)}
    (distinct : (entries.map Prod.fst).Nodup) (dict : Dict β) (key : String) :
    (entries.foldl (fun result entry => result.insert entry.1 (change entry.2)) dict).get? key =
      ((entries.lookup key).map change).or (dict.get? key) := by
  induction entries generalizing dict with
  | nil => rfl
  | cons entry rest ih =>
    obtain ⟨other, value⟩ := entry
    rw [List.map_cons, List.nodup_cons] at distinct
    rw [List.foldl_cons, ih distinct.2, get?_insert]
    by_cases same : key = other
    · subst same
      have absent : rest.lookup key = none := by
        rw [List.lookup_eq_none_iff]
        intro entry member
        rw [bne_iff_ne]
        exact fun equal => distinct.1 (List.mem_map.2 ⟨entry, member, equal.symm⟩)
      simp [absent]
    · simp [same, List.lookup_cons, beq_eq_false_iff_ne.2 same]

/-- Giving values to the keys of a list, one by one, adds the keys that are new at the end. -/
theorem keys_foldl_insert (change : α → β) {entries : List (String × α)}
    (distinct : (entries.map Prod.fst).Nodup) (dict : Dict β) :
    (entries.foldl (fun result entry => result.insert entry.1 (change entry.2)) dict).keys =
      dict.keys ++ (entries.map Prod.fst).filter (· ∉ dict.keys) := by
  induction entries generalizing dict with
  | nil => simp
  | cons entry rest ih =>
    obtain ⟨key, value⟩ := entry
    rw [List.map_cons, List.nodup_cons] at distinct
    rw [List.foldl_cons, ih distinct.2, keys_insert, List.map_cons]
    by_cases present : key ∈ dict.keys
    · simp [present]
    · have others : (rest.map Prod.fst).filter (· ∉ dict.keys ++ [key]) =
          (rest.map Prod.fst).filter (· ∉ dict.keys) := by
        refine List.filter_congr fun other member => ?_
        have different : other ≠ key := fun same => distinct.1 (same ▸ member)
        simp [different]
      rw [if_neg present, others, List.filter_cons_of_pos (by simpa using present),
        List.append_assoc, List.singleton_append]

end Dict

end SelectClause

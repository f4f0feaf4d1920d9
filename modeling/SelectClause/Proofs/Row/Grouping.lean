import SelectClause.Proofs.Text.Occurrence
import SelectClause.Row

/-! # What nesting a row gathers

A row is gone through entry by entry. After every entry, the group of a parent holds the columns of
the entries so far that split into this parent and a column, in order, and the parents stand in the
order in which they first appeared (`Gathers`). Each step keeps this (`Gathers.step`) because the
two parts of a composite key determine the key, so that no entry of a row replaces another one in a
group. What a nested row has under a key follows (`get?_nested`): the group of the key, or else the
value that the row has under it, unless the key is composite.
-/

namespace SelectClause.Row

variable {separator key parent column : String}

/-- A key splits at the first occurrence of the separator, if neither part is empty. -/
theorem splitKey_eq_some_iff :
    splitKey separator key = some (parent, column) ↔
      Text.FirstSplit separator.toList key.toList parent.toList column.toList ∧
        parent ≠ "" ∧ column ≠ "" := by
  constructor
  · intro composite
    obtain ⟨-, named, filled⟩ := splitKey_eq_some composite
    refine ⟨?_, named, filled⟩
    rw [splitKey] at composite
    split at composite
    · rename_i before after found
      split at composite
      · obtain ⟨rfl, rfl⟩ : String.ofList before = parent ∧ String.ofList after = column := by
          simpa using composite
        simpa using Text.splitAtFirst_eq_some_iff.1 found
      · cases composite
    · cases composite
  · rintro ⟨first, named, filled⟩
    rw [splitKey, Text.splitAtFirst_eq_some_iff.2 first]
    simp [named, filled]

/-- A key does not split if the separator does not occur in it, or if the first occurrence leaves a
part empty. -/
theorem splitKey_eq_none_iff :
    splitKey separator key = none ↔
      ∀ before after, Text.FirstSplit separator.toList key.toList before after →
        before = [] ∨ after = [] := by
  constructor
  · intro plain before after first
    by_cases empty : before = [] ∨ after = []
    · exact empty
    · rw [not_or] at empty
      have composite : splitKey separator key = some (String.ofList before, String.ofList after) :=
        splitKey_eq_some_iff.2
          ⟨by simpa using first, by simpa using empty.1, by simpa using empty.2⟩
      rw [plain] at composite
      cases composite
  · intro empty
    cases composite : splitKey separator key with
    | none => rfl
    | some parts =>
      obtain ⟨front, back⟩ := parts
      obtain ⟨first, named, filled⟩ := splitKey_eq_some_iff.1 composite
      rcases empty _ _ first with none | none
      · exact absurd (by simpa using none) named
      · exact absurd (by simpa using none) filled

/-- What an entry adds to the group of a parent. -/
def memberOf (separator parent : String) (entry : String × Value) : Option (String × Value) :=
  (splitKey separator entry.1).bind fun parts =>
    if parts.1 = parent then some (parts.2, entry.2) else none

/-- The parent that an entry belongs to. -/
def parentOf (separator : String) (entry : String × Value) : Option String :=
  (splitKey separator entry.1).map Prod.fst

/-- The groups that some entries are gathered into. -/
structure Gathers (separator : String) (seen : List (String × Value))
    (groups : Dict (Dict Value)) : Prop where
  group : ∀ parent,
    ((groups.get? parent).getD ∅).toList = seen.filterMap (memberOf separator parent)
  parents : groups.keys = (seen.filterMap (parentOf separator)).eraseDups

/-- An entry is a member of a group just if its key splits into the parent and a column. -/
theorem memberOf_eq_some_iff {entry : String × Value} {value : Value} :
    memberOf separator parent entry = some (column, value) ↔
      splitKey separator entry.1 = some (parent, column) ∧ entry.2 = value := by
  cases composite : splitKey separator entry.1 with
  | none => simp [memberOf, composite]
  | some parts =>
    obtain ⟨front, back⟩ := parts
    by_cases same : front = parent <;> simp [memberOf, composite, same]

/-- An entry has the parent that its key splits into. -/
theorem parentOf_eq_some_iff {entry : String × Value} :
    parentOf separator entry = some parent ↔
      ∃ column, splitKey separator entry.1 = some (parent, column) := by
  simp [parentOf]

/-- An entry whose key is new is gathered behind those before it. -/
theorem Gathers.step {seen : List (String × Value)} {groups : Dict (Dict Value)}
    (gathers : Gathers separator seen groups) {entry : String × Value}
    (new : entry.1 ∉ seen.map Prod.fst) :
    Gathers separator (seen ++ [entry]) (addToGroup separator groups entry) := by
  cases composite : splitKey separator entry.1 with
  | none =>
    have same : addToGroup separator groups entry = groups := by simp [addToGroup, composite]
    rw [same]
    constructor
    · intro parent
      simp [gathers.group, List.filterMap_append, memberOf, composite]
    · simp [gathers.parents, List.filterMap_append, parentOf, composite]
  | some parts =>
    obtain ⟨front, back⟩ := parts
    have added : addToGroup separator groups entry =
        groups.insert front (((groups.get? front).getD ∅).insert back entry.2) := by
      simp [addToGroup, composite]
    rw [added]
    constructor
    · intro parent
      rw [Dict.get?_insert, List.filterMap_append, ← gathers.group]
      by_cases same : parent = front
      · subst same
        have absent : back ∉ ((groups.get? parent).getD ∅).toList.map Prod.fst := by
          intro member
          rw [gathers.group] at member
          obtain ⟨⟨name, value⟩, gathered, rfl⟩ := List.mem_map.1 member
          obtain ⟨earlier, before, made⟩ := List.mem_filterMap.1 gathered
          -- The two entries have one key, since it is made of the same parent and column.
          have whole := (splitKey_eq_some composite).1
          have earlierWhole := (splitKey_eq_some (memberOf_eq_some_iff.1 made).1).1
          exact new (List.mem_map.2 ⟨earlier, before, earlierWhole.trans whole.symm⟩)
        have gathered : memberOf separator parent entry = some (back, entry.2) :=
          memberOf_eq_some_iff.2 ⟨composite, rfl⟩
        simp [Dict.insertEntry_of_not_mem _ absent, gathered]
      · have elsewhere : memberOf separator parent entry = none := by
          simp [memberOf, composite, Ne.symm same]
        simp [same, elsewhere]
    · have found : parentOf separator entry = some front :=
        parentOf_eq_some_iff.2 ⟨back, composite⟩
      have gathered : front ∈ groups.keys ↔ front ∈ seen.filterMap (parentOf separator) := by
        rw [gathers.parents, List.mem_eraseDups]
      rw [Dict.keys_insert, List.filterMap_append, List.eraseDups_append, ← gathers.parents]
      by_cases known : front ∈ groups.keys
      · simp [known, found, List.removeAll, gathered.1 known]
      · have unknown : front ∉ seen.filterMap (parentOf separator) := fun member =>
          known (gathered.2 member)
        simp [known, found, List.removeAll, unknown, List.eraseDups_cons]

/-- The groups of a row gather its entries. -/
theorem gathers_groups (separator : String) (row : Dict Value) :
    Gathers separator row.toList (groups separator row) := by
  -- By induction on the entries that are left, for whatever was gathered before them.
  suffices general : ∀ (rest seen : List (String × Value)) (groups : Dict (Dict Value)),
      ((seen ++ rest).map Prod.fst).Nodup → Gathers separator seen groups →
        Gathers separator (seen ++ rest) (rest.foldl (addToGroup separator) groups) by
    exact general row.toList [] ∅ row.distinct ⟨fun _ => rfl, rfl⟩
  intro rest
  induction rest with
  | nil =>
    intro seen groups _ gathers
    simpa using gathers
  | cons entry rest ih =>
    intro seen groups distinct gathers
    have new : entry.1 ∉ seen.map Prod.fst := by
      intro member
      rw [List.map_append, List.nodup_append] at distinct
      exact distinct.2.2 entry.1 member entry.1 (by simp) rfl
    have rest := ih (seen ++ [entry]) _ (by simpa using distinct) (gathers.step new)
    simpa using rest

/-- A parent has a group just if a key of the row splits into it and a column. -/
theorem mem_keys_groups_iff {row : Dict Value} :
    parent ∈ (groups separator row).keys ↔
      ∃ key ∈ row.keys, ∃ column, splitKey separator key = some (parent, column) := by
  rw [(gathers_groups separator row).parents, List.mem_eraseDups, List.mem_filterMap]
  constructor
  · rintro ⟨entry, member, found⟩
    exact ⟨entry.1, List.mem_map.2 ⟨entry, member, rfl⟩, parentOf_eq_some_iff.1 found⟩
  · rintro ⟨key, member, column, composite⟩
    obtain ⟨entry, present, rfl⟩ := List.mem_map.1 member
    exact ⟨entry, present, parentOf_eq_some_iff.2 ⟨column, composite⟩⟩

/-- A group has the columns that keys of the row split into, with the values of these keys. -/
theorem get?_group_eq_some_iff {row group : Dict Value} {value : Value}
    (gathered : (groups separator row).get? parent = some group) :
    group.get? column = some value ↔
      ∃ key, row.get? key = some value ∧ splitKey separator key = some (parent, column) := by
  have entries : group.toList = row.toList.filterMap (memberOf separator parent) := by
    rw [← (gathers_groups separator row).group, gathered]
    rfl
  rw [Dict.get?_eq_some_iff, entries, List.mem_filterMap]
  constructor
  · rintro ⟨⟨key, held⟩, member, made⟩
    obtain ⟨composite, rfl⟩ := memberOf_eq_some_iff.1 made
    exact ⟨key, Dict.get?_eq_some_iff.2 member, composite⟩
  · rintro ⟨key, held, composite⟩
    exact ⟨(key, value), Dict.get?_eq_some_iff.1 held, memberOf_eq_some_iff.2 ⟨composite, rfl⟩⟩

/-- A group has no value but absent ones just if every column of it is absent. -/
theorem all_isNull_values_iff {group : Dict Value} :
    group.values.all Value.isNull = true ↔
      ∀ name value, group.get? name = some value → value = .null := by
  have null : ∀ value : Value, value.isNull = true ↔ value = .null := by
    intro value
    cases value <;> simp [Value.isNull]
  rw [List.all_eq_true]
  constructor
  · intro all name value held
    exact (null value).1 (all value (List.mem_map.2 ⟨_, Dict.get?_eq_some_iff.1 held, rfl⟩))
  · intro all value member
    obtain ⟨⟨name, held⟩, present, rfl⟩ := List.mem_map.1 member
    exact (null held).2 (all name held (Dict.get?_eq_some_iff.2 present))

/-- A group of absent values is absent. -/
theorem groupValue_of_null {group : Dict Value}
    (null : ∀ name value, group.get? name = some value → value = .null) :
    groupValue group = .null :=
  if_pos (all_isNull_values_iff.2 null)

/-- A group with any value is its record. -/
theorem groupValue_of_not_null {group : Dict Value}
    (some : ¬ ∀ name value, group.get? name = .some value → value = .null) :
    groupValue group = .ofDict group :=
  if_neg (mt all_isNull_values_iff.1 some)

/-- A nested row has the groups of the row under their parents, and its plain entries. -/
theorem get?_nested (separator : String) (row : Dict Value) (key : String) :
    (nested separator row).get? key =
      match (groups separator row).get? key with
      | some group => some (groupValue group)
      | none => if splitKey separator key = none then row.get? key else none := by
  rw [nested, Dict.get?_foldl_insert groupValue (groups separator row).distinct, plain,
    Dict.get?_filterKeys]
  show (((groups separator row).get? key).map groupValue).or _ = _
  cases (groups separator row).get? key with
  | none => simp [Option.isNone_iff_eq_none]
  | some group => rfl

end SelectClause.Row

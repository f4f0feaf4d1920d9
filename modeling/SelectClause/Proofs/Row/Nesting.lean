import SelectClause.Proofs.Row.Grouping
import SelectClause.Proofs.Target.Projecting

/-! # What nesting keeps of a row

A key splits at the first occurrence of the separator, if text stands before and behind it
(`Splits`). What becomes of a row is stated in these terms only (`Nests`): the keys of the nested
row are those that do not split and the parents of those that do, a parent has the record of all its
columns or the absent value, and no value is lost but that of a key that is a parent itself. A
nested row is of this kind (`nests_nested`). A group holds a column for every key that is made of
its parent, the separator and some text, since the place of the first separator depends on the
parent alone (`Splits.with_column`).
-/

namespace SelectClause.Row

/-- A key splits into a parent and a column at the first occurrence of the separator. -/
structure Splits (separator key parent column : String) : Prop where
  first : Text.FirstSplit separator.toList key.toList parent.toList column.toList
  parent_ne : parent ≠ ""
  column_ne : column ≠ ""

/-- The first occurrence of the separator, if there is one, is at the start or the end of a key. -/
def Unsplit (separator key : String) : Prop := ∀ parent column, ¬ Splits separator key parent column

/-- Some key of a row splits off a parent. -/
def IsParent (separator : String) (row : Dict Value) (parent : String) : Prop :=
  ∃ key ∈ row.keys, ∃ column, Splits separator key parent column

/-- The parents of the keys that split, in the order of the keys. -/
inductive ParentsOf (separator : String) : List String → List String → Prop where
  | nil : ParentsOf separator [] []
  | split {key parent column : String} {keys parents : List String}
      (splits : Splits separator key parent column) (rest : ParentsOf separator keys parents) :
      ParentsOf separator (key :: keys) (parent :: parents)
  | unsplit {key : String} {keys parents : List String} (whole : Unsplit separator key)
      (rest : ParentsOf separator keys parents) : ParentsOf separator (key :: keys) parents

/-- A record has the columns of a parent, with the values and in the order of the row. No two keys
of the row share a column. -/
structure GroupOf (separator : String) (row : Dict Value) (parent : String)
    (group : Dict Value) : Prop where
  columns : ∀ column value, group.get? column = some value ↔
    column ≠ "" ∧ row.get? (parent ++ separator ++ column) = some value
  apart : ∀ key column value, Splits separator key parent column → row.get? key = some value →
    group.get? column = some value
  order : (group.toList.map fun entry => (parent ++ separator ++ entry.1, entry.2)).Sublist
    row.toList

/-- All values of a record are absent. -/
def AllNull (group : Dict Value) : Prop :=
  ∀ column value, group.get? column = some value → value = .null

/-- A value of the row is found again: under its own key, or under its column in the record of its
parent, which stands for nothing but absent values if it is absent. -/
inductive Keeps (separator : String) (result : Dict Value) (key : String) (value : Value) :
    Prop where
  | plain (whole : Unsplit separator key) (held : result.get? key = some value)
  | column {parent column : String} {group : Dict Value}
      (splits : Splits separator key parent column)
      (held : result.get? parent = some (.ofDict group)) (inside : group.get? column = some value)
  | null {parent column : String} (splits : Splits separator key parent column)
      (held : result.get? parent = some .null) (absent : value = .null)

variable {separator key parent column : String} {row group : Dict Value}

/-- A key splits into what `splitKey` makes of it. -/
theorem splits_iff : Splits separator key parent column ↔
    splitKey separator key = some (parent, column) := by
  rw [splitKey_eq_some_iff]
  constructor
  · rintro ⟨first, named, filled⟩
    exact ⟨first, named, filled⟩
  · rintro ⟨first, named, filled⟩
    exact ⟨first, named, filled⟩

/-- A key does not split just if `splitKey` makes nothing of it. -/
theorem unsplit_iff : Unsplit separator key ↔ splitKey separator key = none := by
  simp only [Unsplit, splits_iff, Option.eq_none_iff_forall_ne_some, Prod.forall, ne_eq]

instance (separator key : String) : Decidable (Unsplit separator key) :=
  decidable_of_iff _ unsplit_iff.symm

/-- The keys of a row that do not split, in the order of the row. -/
def unsplitKeys (separator : String) (row : Dict Value) : List String :=
  row.keys.filter fun key => Unsplit separator key

/-- A row is nested: the keys that do not split come first, then the parents that are none of these,
in the order in which they first appear. A parent has its group, or the absent value for a group of
absent values, any other key keeps its value, and the only values that are lost are those of keys
that are parents. -/
structure Nests (separator : String) (row result : Dict Value) : Prop where
  mem_keys_iff : ∀ key, key ∈ result.keys ↔
    key ∈ unsplitKeys separator row ∨ IsParent separator row key
  order : ∃ parents firsts, ParentsOf separator row.keys parents ∧
    FirstOccurrences parents firsts ∧
      result.keys = unsplitKeys separator row ++ firsts.filter (· ∉ unsplitKeys separator row)
  group : ∀ parent, IsParent separator row parent → ∃ group, GroupOf separator row parent group ∧
    (AllNull group → result.get? parent = some .null) ∧
      (¬ AllNull group → result.get? parent = some (.ofDict group))
  plain : ∀ key ∈ unsplitKeys separator row, ¬ IsParent separator row key →
    result.get? key = row.get? key
  kept : ∀ key value, row.get? key = some value → Keeps separator result key value ∨
    (key ∈ unsplitKeys separator row ∧ IsParent separator row key)

theorem mem_unsplitKeys_iff :
    key ∈ unsplitKeys separator row ↔ key ∈ row.keys ∧ Unsplit separator key := by
  rw [unsplitKeys, List.mem_filter, decide_eq_true_iff]

/-- The place of the first separator depends on the parent alone. -/
theorem Splits.with_column (splits : Splits separator key parent column) {other : String}
    (filled : other ≠ "") : Splits separator (parent ++ separator ++ other) parent other := by
  refine ⟨?_, splits.parent_ne, filled⟩
  have moved := splits.first.with_after other.toList
  rwa [← String.toList_append, ← String.toList_append, ← String.append_assoc] at moved

/-- The parents of a row are the keys of its groups. -/
theorem isParent_iff_mem_keys_groups :
    IsParent separator row parent ↔ parent ∈ (groups separator row).keys := by
  simp only [IsParent, splits_iff, mem_keys_groups_iff]

/-- The plain entries have the keys that do not split, in their order. -/
theorem keys_plain (separator : String) (row : Dict Value) :
    (plain separator row).keys = unsplitKeys separator row := by
  have test : ∀ key, (splitKey separator key).isNone = decide (Unsplit separator key) := by
    intro key
    rw [Bool.eq_iff_iff, Option.isNone_iff_eq_none, decide_eq_true_iff, unsplit_iff]
  rw [plain, unsplitKeys, Dict.keys, Dict.keys, List.filter_map]
  simp only [Dict.filterKeys, test, Function.comp_def]

/-- Entries have the parents of their keys. -/
theorem parentsOf_entries (separator : String) (entries : List (String × Value)) :
    ParentsOf separator (entries.map Prod.fst) (entries.filterMap (parentOf separator)) := by
  induction entries with
  | nil => exact .nil
  | cons entry entries ih =>
    cases composite : splitKey separator entry.1 with
    | none =>
      rw [List.map_cons, List.filterMap_cons_none (by simp [parentOf, composite])]
      exact .unsplit (unsplit_iff.2 composite) ih
    | some parts =>
      obtain ⟨parent, column⟩ := parts
      have found : parentOf separator entry = some parent :=
        parentOf_eq_some_iff.2 ⟨column, composite⟩
      rw [List.map_cons, List.filterMap_cons_some found]
      exact .split (splits_iff.2 composite) ih

/-- Joined to their parent again, the members of a group are entries of the row. -/
theorem recomposed_sublist (separator parent : String) (entries : List (String × Value)) :
    ((entries.filterMap (memberOf separator parent)).map fun entry =>
      (parent ++ separator ++ entry.1, entry.2)).Sublist entries := by
  induction entries with
  | nil => exact .slnil
  | cons entry entries ih =>
    cases member : memberOf separator parent entry with
    | none =>
      rw [List.filterMap_cons_none member]
      exact ih.cons entry
    | some part =>
      obtain ⟨composite, value⟩ := memberOf_eq_some_iff.1 (member : _ = some (part.1, part.2))
      have whole : (parent ++ separator ++ part.1, part.2) = entry :=
        Prod.ext (splitKey_eq_some composite).1.symm value.symm
      rw [List.filterMap_cons_some member, List.map_cons, whole]
      exact ih.cons_cons entry

/-- The group of a parent holds its columns and no others. -/
theorem groupOf_of_get? (gathered : (groups separator row).get? parent = some group) :
    GroupOf separator row parent group := by
  have entries : group.toList = row.toList.filterMap (memberOf separator parent) := by
    rw [← (gathers_groups separator row).group, gathered, Option.getD_some]
  obtain ⟨first, -, firstColumn, firstSplits⟩ :=
    isParent_iff_mem_keys_groups.2 (Dict.mem_keys_of_get?_eq_some gathered)
  refine ⟨fun column value => ?_, fun key column value splits held => ?_, ?_⟩
  · rw [get?_group_eq_some_iff gathered]
    constructor
    · rintro ⟨key, held, composite⟩
      obtain ⟨rfl, -, filled⟩ := splitKey_eq_some composite
      exact ⟨filled, held⟩
    · -- The parent has been split off some key, and any other text behind the separator will do.
      rintro ⟨filled, held⟩
      exact ⟨_, held, splits_iff.1 (firstSplits.with_column filled)⟩
  · exact (get?_group_eq_some_iff gathered).2 ⟨key, held, splits_iff.1 splits⟩
  · rw [entries]
    exact recomposed_sublist separator parent row.toList

/-- A parent has its group in the nested row. -/
theorem get?_nested_of_parent (used : IsParent separator row parent) :
    ∃ group, GroupOf separator row parent group ∧
      (nested separator row).get? parent = some (groupValue group) := by
  cases gathered : (groups separator row).get? parent with
  | none =>
    exact absurd (isParent_iff_mem_keys_groups.1 used) (Dict.get?_eq_none_iff.1 gathered)
  | some group =>
    refine ⟨group, groupOf_of_get? gathered, ?_⟩
    rw [get?_nested, gathered]

/-- Any other key that does not split has its value in the nested row. -/
theorem get?_nested_of_unsplit (unused : ¬ IsParent separator row key)
    (whole : Unsplit separator key) : (nested separator row).get? key = row.get? key := by
  have ungrouped : (groups separator row).get? key = none :=
    Dict.get?_eq_none_iff.2 (mt isParent_iff_mem_keys_groups.2 unused)
  simp only [get?_nested, ungrouped, unsplit_iff.1 whole, ↓reduceIte]

/-- The plain keys come first, and then the parents that are no plain keys. -/
theorem keys_nested (separator : String) (row : Dict Value) :
    (nested separator row).keys = unsplitKeys separator row ++
      (groups separator row).keys.filter (· ∉ unsplitKeys separator row) := by
  rw [nested, Dict.keys_foldl_insert groupValue (groups separator row).distinct, keys_plain]
  rfl

/-- A nested row has the keys that do not split and the parents of the others. -/
theorem mem_keys_nested_iff :
    key ∈ (nested separator row).keys ↔
      key ∈ unsplitKeys separator row ∨ IsParent separator row key := by
  rw [keys_nested, List.mem_append, List.mem_filter, isParent_iff_mem_keys_groups,
    decide_eq_true_iff]
  tauto

/-- A value is found again in the nested row, unless its key is a parent. -/
theorem keeps_nested {value : Value} (held : row.get? key = some value) :
    Keeps separator (nested separator row) key value ∨
      (key ∈ unsplitKeys separator row ∧ IsParent separator row key) := by
  have present := Dict.mem_keys_of_get?_eq_some held
  by_cases whole : Unsplit separator key
  · by_cases used : IsParent separator row key
    · exact .inr ⟨mem_unsplitKeys_iff.2 ⟨present, whole⟩, used⟩
    · exact .inl (.plain whole ((get?_nested_of_unsplit used whole).trans held))
  · left
    rw [Unsplit, not_forall] at whole
    obtain ⟨parent, some⟩ := whole
    rw [not_forall_not] at some
    obtain ⟨column, splits⟩ := some
    obtain ⟨group, grouped, result⟩ := get?_nested_of_parent ⟨key, present, column, splits⟩
    have inside := grouped.apart key column value splits held
    by_cases null : AllNull group
    · rw [groupValue_of_null null] at result
      exact .null splits result (null column value inside)
    · rw [groupValue_of_not_null null] at result
      exact .column splits result inside

/-- The separator that counts is the given one, unless it is missing or empty. -/
theorem effectiveSeparator_eq (separator : Option String) :
    effectiveSeparator separator =
      if separator.getD "" = "" then "___" else separator.getD "" := by
  cases separator with
  | none => rfl
  | some text =>
    by_cases empty : text = ""
    · subst empty
      rfl
    · simp [effectiveSeparator, Option.filter, empty]

/-- **Nesting a row loses and invents nothing.** The result has the keys that do not split and the
parents, in this order; every parent has the record of all columns that were split off it, every
other key its value, and the only values that are lost are those of keys that are parents. -/
theorem nests_nested (separator : Option String) (row : Dict Value) :
    Nests (if separator.getD "" = "" then "___" else separator.getD "") row
      (nested (effectiveSeparator separator) row) := by
  rw [effectiveSeparator_eq]
  generalize (if separator.getD "" = "" then "___" else separator.getD "") = text
  refine ⟨fun key => mem_keys_nested_iff, ?_, fun parent used => ?_, fun key member unused => ?_,
    fun key value held => keeps_nested held⟩
  · refine ⟨_, _, parentsOf_entries text row.toList, firstOccurrences_eraseDups _, ?_⟩
    rw [keys_nested, (gathers_groups text row).parents]
  · obtain ⟨group, grouped, result⟩ := get?_nested_of_parent used
    refine ⟨group, grouped, fun null => ?_, fun some => ?_⟩
    · rw [result, groupValue_of_null null]
    · rw [result, groupValue_of_not_null some]
  · exact get?_nested_of_unsplit unused (mem_unsplitKeys_iff.1 member).2

end SelectClause.Row

import Mathlib.Data.List.Dedup
import SelectClause.Proofs.Row.Grouping
import SelectClause.Proofs.Target.Compilation

/-! # Nesting undoes composite aliases

A row of a compiled projection has its values under the output names of the columns, and nesting the
row gives every inlined child a record of its own again (`Restores`). Splitting a key at the first
separator finds the parent and the column that the key was composed of if the separator does not
occur earlier, no inlined column is empty and no other column looks composite (`Separable`). Under
this condition every row is restored (`Separable.restores`), and where it fails, the row with one
value under every output name is not (`Separable.of_restores`), so the condition is exact.
-/

namespace SelectClause.Row

/-- A parent is in use in a projection if a column is inlined under it. -/
def InUse (columns : List Column) (parent : String) : Prop :=
  ∃ name, (name, some parent) ∈ columns.map Column.label

/-- The result of nesting a row has for every parent in use the record of its columns, or the
absent value if these are all absent, for every other plain column its value, and nothing else. -/
structure Restores (options : Options) (columns : List Column) (row result : Dict Value) :
    Prop where
  absent : ∀ parent, InUse columns parent →
    (∀ name, (name, some parent) ∈ columns.map Column.label →
      row.get? (Projection.compositeAlias options parent name) = some .null) →
    result.get? parent = some .null
  present : ∀ parent, InUse columns parent →
    (¬ ∀ name, (name, some parent) ∈ columns.map Column.label →
      row.get? (Projection.compositeAlias options parent name) = some .null) →
    ∃ group : Dict Value, result.get? parent = some (.ofDict group) ∧
      ∀ name, group.get? name =
        if (name, some parent) ∈ columns.map Column.label then
          row.get? (Projection.compositeAlias options parent name)
        else none
  plain : ∀ name, (name, none) ∈ columns.map Column.label → ¬ InUse columns name →
    result.get? name = row.get? name
  only : ∀ key ∈ result.keys, InUse columns key ∨ (key, none) ∈ columns.map Column.label

/-- Output names can be taken apart again: the separator does not occur before the end of a parent
in use, inlined columns have names, and a plain column does not hold the separator, or its first
occurrence is at one of the ends. -/
structure Separable (separator : String) (columns : List Column) : Prop where
  parents : ∀ parent, InUse columns parent → ∀ index < parent.toList.length,
    ¬ Text.OccursAt separator.toList (parent.toList ++ separator.toList) index
  named : ∀ name parent, (name, some parent) ∈ columns.map Column.label → name ≠ ""
  plain : ∀ name, (name, none) ∈ columns.map Column.label → ∀ before after,
    Text.FirstSplit separator.toList name.toList before after → before = [] ∨ after = []

/-- A row of a projection has the output names for its keys. -/
def Covers (options : Options) (columns : List Column) (row : Dict Value) : Prop :=
  ∀ key, key ∈ row.keys ↔ key ∈ columns.map (Column.outputName options)

/-- No value of a row is absent or a record. -/
def IsScalar (row : Dict Value) : Prop :=
  ∀ key value, row.get? key = some value → value ≠ .null ∧ value.fields? = none

variable {options : Options} {columns : List Column} {row : Dict Value}

/-- A key that counts is not empty. -/
theorem effectiveKey_ne_empty {key : Option String} {parent : String}
    (effective : Projection.effectiveKey key = some parent) : parent ≠ "" := by
  have kept := (Option.filter_eq_some_iff.1 effective).2
  simpa using kept

/-- The output names of a projection are the composites of its inlined columns and its plain
columns. -/
theorem mem_outputNames_iff {key : String} :
    key ∈ columns.map (Column.outputName options) ↔
      (∃ parent name, (name, some parent) ∈ columns.map Column.label ∧
        key = Projection.compositeAlias options parent name) ∨
      (key, none) ∈ columns.map Column.label := by
  constructor
  · intro member
    obtain ⟨column, present, rfl⟩ := List.mem_map.1 member
    cases effective : Projection.effectiveKey column.key with
    | none =>
      right
      rw [Column.outputName, effective]
      exact List.mem_map.2 ⟨column, present, by rw [Column.label, effective]⟩
    | some parent =>
      left
      refine ⟨parent, column.name, List.mem_map.2 ⟨column, present, ?_⟩, ?_⟩
      · rw [Column.label, effective]
      · rw [Column.outputName, effective]
  · rintro (⟨parent, name, member, rfl⟩ | member)
    · obtain ⟨column, present, label⟩ := List.mem_map.1 member
      obtain ⟨rfl, effective⟩ : column.name = name ∧
          Projection.effectiveKey column.key = some parent := by simpa [Column.label] using label
      exact List.mem_map.2 ⟨column, present, by rw [Column.outputName, effective]⟩
    · obtain ⟨column, present, label⟩ := List.mem_map.1 member
      obtain ⟨rfl, effective⟩ : column.name = key ∧
          Projection.effectiveKey column.key = none := by simpa [Column.label] using label
      exact List.mem_map.2 ⟨column, present, by rw [Column.outputName, effective]⟩

/-- The composite alias of a column with a key is its output name. -/
theorem compositeAlias_mem_outputNames {parent name : String}
    (member : (name, some parent) ∈ columns.map Column.label) :
    Projection.compositeAlias options parent name ∈ columns.map (Column.outputName options) :=
  mem_outputNames_iff.2 (.inl ⟨parent, name, member, rfl⟩)

theorem ne_empty_of_inUse {parent : String} (used : InUse columns parent) : parent ≠ "" := by
  obtain ⟨name, member⟩ := used
  obtain ⟨column, -, label⟩ := List.mem_map.1 member
  exact effectiveKey_ne_empty (congrArg Prod.snd label)

namespace Separable

/-- A composite splits into the parent and the column that it is made of. -/
theorem splitKey_compositeAlias (separable : Separable options.aliasSeparator columns)
    {parent name : String} (member : (name, some parent) ∈ columns.map Column.label) :
    splitKey options.aliasSeparator (Projection.compositeAlias options parent name) =
      some (parent, name) := by
  have used : InUse columns parent := ⟨name, member⟩
  refine splitKey_eq_some_iff.2
    ⟨⟨?_, ?_⟩, ne_empty_of_inUse used, separable.named name parent member⟩
  · simp [Projection.compositeAlias]
  · intro index below occurs
    have spelled : (Projection.compositeAlias options parent name).toList =
        (parent.toList ++ options.aliasSeparator.toList) ++ name.toList := by
      simp [Projection.compositeAlias]
    rw [spelled] at occurs
    refine separable.parents parent used index below (occurs.of_append ?_)
    rw [List.length_append]
    omega

/-- In separable columns, the name of a column without a key does not split. -/
theorem splitKey_plain (separable : Separable options.aliasSeparator columns) {name : String}
    (member : (name, none) ∈ columns.map Column.label) :
    splitKey options.aliasSeparator name = none :=
  splitKey_eq_none_iff.2 (separable.plain name member)

/-- An output name that splits is the composite of an inlined column. -/
theorem mem_of_splitKey (separable : Separable options.aliasSeparator columns)
    {key parent name : String} (output : key ∈ columns.map (Column.outputName options))
    (composite : splitKey options.aliasSeparator key = some (parent, name)) :
    (name, some parent) ∈ columns.map Column.label := by
  rcases mem_outputNames_iff.1 output with ⟨parent', name', member, rfl⟩ | member
  · rw [separable.splitKey_compositeAlias member] at composite
    cases composite
    exact member
  · rw [separable.splitKey_plain member] at composite
    cases composite

/-- The groups of a row are those of the parents in use. -/
theorem inUse_of_mem_groups (separable : Separable options.aliasSeparator columns)
    (covers : Covers options columns row)
    {parent : String} (grouped : parent ∈ (groups options.aliasSeparator row).keys) :
    InUse columns parent := by
  obtain ⟨key, present, name, composite⟩ := mem_keys_groups_iff.1 grouped
  exact ⟨name, separable.mem_of_splitKey ((covers key).1 present) composite⟩

/-- The group of a parent in use has its columns, with their values in the row. -/
theorem exists_group (separable : Separable options.aliasSeparator columns)
    (covers : Covers options columns row)
    {parent : String} (used : InUse columns parent) :
    ∃ group, (groups options.aliasSeparator row).get? parent = some group ∧
      ∀ name, group.get? name =
        if (name, some parent) ∈ columns.map Column.label then
          row.get? (Projection.compositeAlias options parent name)
        else none := by
  obtain ⟨first, firstMember⟩ := used
  have grouped : parent ∈ (groups options.aliasSeparator row).keys := by
    exact mem_keys_groups_iff.2 ⟨_, (covers _).2 (compositeAlias_mem_outputNames firstMember),
      first, separable.splitKey_compositeAlias firstMember⟩
  cases gathered : (groups options.aliasSeparator row).get? parent with
  | none => exact absurd grouped (Dict.get?_eq_none_iff.1 gathered)
  | some group =>
    refine ⟨group, rfl, ?_⟩
    intro name
    apply Option.ext
    intro value
    rw [get?_group_eq_some_iff gathered]
    by_cases member : (name, some parent) ∈ columns.map Column.label
    · rw [if_pos member]
      constructor
      · rintro ⟨key, held, composite⟩
        rw [Projection.compositeAlias, ← (splitKey_eq_some composite).1]
        exact held
      · intro held
        exact ⟨_, held, separable.splitKey_compositeAlias member⟩
    · rw [if_neg member]
      constructor
      · rintro ⟨key, held, composite⟩
        have present := Dict.mem_keys_of_get?_eq_some held
        exact absurd (separable.mem_of_splitKey ((covers key).1 present) composite) member
      · intro impossible
        cases impossible

/-- Where output names can be taken apart, every row is restored. -/
theorem restores (separable : Separable options.aliasSeparator columns)
    (covers : Covers options columns row) :
    Restores options columns row (nested options.aliasSeparator row) := by
  constructor
  · intro parent used allNull
    obtain ⟨group, gathered, held⟩ := separable.exists_group covers used
    have empty : ∀ name value, group.get? name = some value → value = .null := by
      intro name value present
      rw [held] at present
      split at present
      · rename_i member
        exact Option.some.inj (present.symm.trans (allNull name member))
      · cases present
    simp only [get?_nested, gathered, groupValue_of_null empty]
  · intro parent used someValue
    obtain ⟨group, gathered, held⟩ := separable.exists_group covers used
    refine ⟨group, ?_, held⟩
    have filled : ¬ ∀ name value, group.get? name = some value → value = .null := by
      intro allNull
      apply someValue
      intro name member
      have present := (covers _).2 (compositeAlias_mem_outputNames member)
      cases value : row.get? (Projection.compositeAlias options parent name) with
      | none => exact absurd present (Dict.get?_eq_none_iff.1 value)
      | some stored =>
        have inside : group.get? name = some stored := by rw [held, if_pos member, value]
        rw [allNull name stored inside]
    simp only [get?_nested, gathered, groupValue_of_not_null filled]
  · intro name member unused
    have ungrouped : (groups options.aliasSeparator row).get? name = none :=
      Dict.get?_eq_none_iff.2 fun grouped => unused (separable.inUse_of_mem_groups covers grouped)
    rw [get?_nested, ungrouped]
    simp only [separable.splitKey_plain member, ↓reduceIte]
  · intro key present
    cases gathered : (groups options.aliasSeparator row).get? key with
    | some group =>
      left
      exact separable.inUse_of_mem_groups covers (Dict.mem_keys_of_get?_eq_some gathered)
    | none =>
      right
      have value : (nested options.aliasSeparator row).get? key ≠ none := fun absent =>
        Dict.get?_eq_none_iff.1 absent present
      rw [get?_nested, gathered] at value
      by_cases unsplit : splitKey options.aliasSeparator key = none
      · rw [if_pos unsplit, ne_eq, Dict.get?_eq_none_iff, not_not, covers key,
          mem_outputNames_iff] at value
        rcases value with ⟨parent, name, member, rfl⟩ | member
        · rw [separable.splitKey_compositeAlias member] at unsplit
          cases unsplit
        · exact member
      · exact absurd (if_neg unsplit) value

end Separable

/-- A parent in which the separator occurs, if only together with the separator behind it, has no
group. -/
theorem get?_groups_of_occursAt {separator parent : String} {index : Nat}
    (below : index < parent.toList.length)
    (occurs : Text.OccursAt separator.toList (parent.toList ++ separator.toList) index) :
    (groups separator row).get? parent = none := by
  rw [Dict.get?_eq_none_iff]
  intro grouped
  obtain ⟨key, -, column, composite⟩ := mem_keys_groups_iff.1 grouped
  have split := (splitKey_eq_some_iff.1 composite).1
  apply split.first index below
  rw [split.whole, ← List.append_assoc]
  exact occurs.append column.toList

/-- In a restored row without absent values and records, every parent in use has a group with its
columns. -/
theorem exists_group_of_restores (covers : Covers options columns row) (scalar : IsScalar row)
    (restores : Restores options columns row (nested options.aliasSeparator row))
    {parent : String} (used : InUse columns parent) :
    ∃ group, (groups options.aliasSeparator row).get? parent = some group ∧
      ∀ name, (name, some parent) ∈ columns.map Column.label → group.get? name ≠ none := by
  have valued : ∀ name, (name, some parent) ∈ columns.map Column.label →
      row.get? (Projection.compositeAlias options parent name) ≠ none := by
    intro name member absent
    exact Dict.get?_eq_none_iff.1 absent ((covers _).2 (compositeAlias_mem_outputNames member))
  have filled : ¬ ∀ name, (name, some parent) ∈ columns.map Column.label →
      row.get? (Projection.compositeAlias options parent name) = some .null := by
    intro allNull
    obtain ⟨name, member⟩ := used
    exact (scalar _ _ (allNull name member)).1 rfl
  obtain ⟨record, result, held⟩ := restores.present parent used filled
  rw [get?_nested] at result
  split at result
  · rename_i group gathered
    have same : group = record := by
      rw [groupValue] at result
      split at result
      · cases result
      · apply Dict.ext
        simpa [Value.ofDict] using result
    refine ⟨group, gathered, ?_⟩
    intro name member
    rw [same, held, if_pos member]
    exact valued name member
  · split at result
    · have impossible := (scalar _ _ result).2
      rw [Value.fields?_ofDict] at impossible
      cases impossible
    · cases result

/-- If one row without absent values and records is restored, output names can be taken apart. -/
theorem Separable.of_restores (covers : Covers options columns row) (scalar : IsScalar row)
    (restores : Restores options columns row (nested options.aliasSeparator row)) :
    Separable options.aliasSeparator columns := by
  have clear : ∀ parent, InUse columns parent → ∀ index < parent.toList.length,
      ¬ Text.OccursAt options.aliasSeparator.toList
        (parent.toList ++ options.aliasSeparator.toList) index := by
    intro parent used index below occurs
    obtain ⟨group, gathered, -⟩ := exists_group_of_restores covers scalar restores used
    rw [get?_groups_of_occursAt below occurs] at gathered
    cases gathered
  refine ⟨clear, ?_, ?_⟩
  · rintro name parent member rfl
    obtain ⟨group, gathered, held⟩ := exists_group_of_restores covers scalar restores ⟨_, member⟩
    cases inside : group.get? "" with
    | none => exact held _ member inside
    | some value =>
      obtain ⟨key, -, composite⟩ := (get?_group_eq_some_iff gathered).1 inside
      exact (splitKey_eq_some composite).2.2 rfl
  · intro name member before after split
    by_contra filled
    rw [not_or] at filled
    have below : before.length < name.toList.length := by
      have rest := List.length_pos_iff.2 filled.2
      rw [split.whole, List.length_append, List.length_append]
      omega
    -- The separator occurs in the column before its end, so no key splits off the column as a
    -- parent: it is not in use, and it has no group that could stand in for its value.
    have occurs := split.occurs.append options.aliasSeparator.toList
    have unused : ¬ InUse columns name := fun used => clear name used _ below occurs
    have kept := restores.plain name member unused
    have composite : splitKey options.aliasSeparator name ≠ none := by
      rw [ne_eq, splitKey_eq_none_iff]
      intro empty
      exact (empty before after split).elim filled.1 filled.2
    rw [get?_nested, get?_groups_of_occursAt below occurs, if_neg composite] at kept
    have absent := Dict.get?_eq_none_iff.1 kept.symm
    exact absent ((covers name).2 (mem_outputNames_iff.2 (.inr member)))

/-- Every projection has a row without absent values and records. -/
theorem exists_scalar_row (options : Options) (columns : List Column) :
    ∃ row, Covers options columns row ∧ IsScalar row := by
  refine ⟨⟨(columns.map (Column.outputName options)).dedup.map (·, .bool true), ?_⟩, ?_, ?_⟩
  · simpa [Function.comp_def] using List.nodup_dedup _
  · intro key
    simp [Dict.keys, Function.comp_def]
  · intro key value present
    have member := Dict.get?_eq_some_iff.1 present
    simp only [List.mem_map, Prod.mk.injEq] at member
    obtain ⟨-, -, -, rfl⟩ := member
    exact ⟨Value.noConfusion, rfl⟩

/-- **Nesting undoes composite aliases just if output names can be taken apart.** A statement gives
each inlined column its output name for an alias. Every row under the output names is restored just
if these can be taken apart, and where they cannot, no row without absent values and records is
restored. -/
theorem restores_iff_separable {target : Target} {query : Query} {compiled : Compiled}
    (succeeds : (target.compile query).outcome = .ok compiled)
    (projects : compiled.mode = .projection) (separated : target.options.aliasSeparator ≠ "") :
    compiled.select = [Clause.select
        (compiled.columns.map fun column => target.options.escape (some column.name) ++
          if column.label.2.isSome then
            " AS " ++ target.options.quoteAlias (column.outputName target.options)
          else "")
        (target.options.escape (some target.tableName))] ∧
      ((∀ row, Covers target.options compiled.columns row →
          Restores target.options compiled.columns row
            (nested (effectiveSeparator (some target.options.aliasSeparator)) row)) ↔
        Separable target.options.aliasSeparator compiled.columns) ∧
      ∀ row, Covers target.options compiled.columns row → IsScalar row →
        (Restores target.options compiled.columns row
            (nested (effectiveSeparator (some target.options.aliasSeparator)) row) ↔
          Separable target.options.aliasSeparator compiled.columns) := by
  have effective : effectiveSeparator (some target.options.aliasSeparator) =
      target.options.aliasSeparator := by
    simp [effectiveSeparator, Option.filter, separated]
  rw [effective]
  refine ⟨?_, ⟨?_, fun separable row covers => separable.restores covers⟩,
    fun row covers scalar => ⟨.of_restores covers scalar, fun separable =>
      separable.restores covers⟩⟩
  · obtain ⟨-, projection⟩ := Target.eq_projection_of_mode succeeds projects
    rw [projection]
    simp only [Compiled.projection, Projection.clause, List.map_map, Function.comp_def]
    congr 3
    funext column
    cases key : Projection.effectiveKey column.key <;>
      simp [Projection.item, Column.label, Column.outputName, key, Clause.printed,
        String.append_assoc]
  · intro restores
    obtain ⟨row, covers, scalar⟩ := exists_scalar_row target.options compiled.columns
    exact .of_restores covers scalar (restores row covers)

/-- The columns of the pets are separable, so that every row of them is restored. -/
theorem restores_iff_separable_pets :
    (petTarget.compile petQuery).outcome = .ok petProjection ∧
      petProjection.mode = .projection ∧ petTarget.options.aliasSeparator ≠ "" ∧
      ∀ row, Covers petTarget.options petProjection.columns row →
        Restores petTarget.options petProjection.columns row
          (nested (effectiveSeparator (some petTarget.options.aliasSeparator)) row) := by
  have labels : petProjection.columns.map Column.label =
      [("na\"me", none), ("owner\" AS", none), ("name", some "owner")] := rfl
  have separable : Separable petTarget.options.aliasSeparator petProjection.columns := by
    refine ⟨?_, ?_, ?_⟩
    · rintro parent ⟨name, member⟩
      rw [labels] at member
      obtain ⟨-, rfl⟩ : name = "name" ∧ parent = "owner" := by simpa using member
      decide
    · intro name parent member
      rw [labels] at member
      obtain ⟨rfl, -⟩ : name = "name" ∧ parent = "owner" := by simpa using member
      decide
    · intro name member
      rw [labels] at member
      obtain rfl | rfl : name = "na\"me" ∨ name = "owner\" AS" := by simpa using member
      · exact splitKey_eq_none_iff.1 (by decide)
      · exact splitKey_eq_none_iff.1 (by decide)
  have compiled : (petTarget.compile petQuery).outcome = .ok petProjection := rfl
  have separated : petTarget.options.aliasSeparator ≠ "" := by decide
  exact ⟨compiled, rfl, separated,
    (restores_iff_separable compiled rfl separated).2.1.2 separable⟩

end SelectClause.Row

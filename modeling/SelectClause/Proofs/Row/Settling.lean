import Mathlib.Data.List.Forall2
import Mathlib.Data.List.Nodup
import SelectClause.Proofs.Row.Nesting
import SelectClause.Proofs.Validation.Rewriting

/-! # Nesting is final and does not depend on the order of a row

A parent ends before the first separator and holds none itself, so no key of a nested row splits
(`unsplit_of_mem_keys_nested`), and a row without such keys is left as it is (`nested_of_unsplit`).
What a nested row has under a key depends on the entries of the row and not on their order, up to
the order of the columns in a group (`sameMapping_of_perm`). Both carry over to the rows of a result
(`nested_idempotent_and_orderless`).
-/

namespace SelectClause

/-- Dictionaries that give every key the same value have the same entries. -/
theorem Dict.perm_of_get?_eq {α : Type} {dict other : Dict α}
    (same : ∀ key, dict.get? key = other.get? key) : dict.toList.Perm other.toList := by
  have nodup : ∀ dict : Dict α, dict.toList.Nodup := fun dict =>
    List.Nodup.of_map Prod.fst dict.distinct
  rw [List.perm_ext_iff_of_nodup (nodup dict) (nodup other)]
  rintro ⟨key, value⟩
  rw [← get?_eq_some_iff, ← get?_eq_some_iff, same]

namespace Row

/-- Equal values, or records with the same fields in any order. -/
inductive SameFields : Value → Value → Prop where
  | same (value : Value) : SameFields value value
  | reordered {fields others : Dict Value} (same : fields.toList.Perm others.toList) :
      SameFields (.ofDict fields) (.ofDict others)

/-- Two rows have the same keys, and values that differ at most in the order of their fields. -/
def SameMapping (row other : Dict Value) : Prop :=
  ∀ key, Option.Rel SameFields (row.get? key) (other.get? key)

variable {separator key parent column : String} {row other group otherGroup : Dict Value}

/-- A separator in a parent would be an earlier one in the key. -/
theorem Splits.unsplit_parent (splits : Splits separator key parent column) :
    Unsplit separator parent := by
  intro front back inner
  have below : front.toList.length < parent.toList.length := by
    have filled := List.length_pos_iff.2 (mt String.toList_eq_nil_iff.1 inner.column_ne)
    rw [inner.first.whole, List.length_append, List.length_append]
    omega
  have occurs := inner.first.occurs.append (separator.toList ++ column.toList)
  rw [← splits.first.whole] at occurs
  exact splits.first.first _ below occurs

/-- No key of a nested row splits. -/
theorem unsplit_of_mem_keys_nested (member : key ∈ (nested separator row).keys) :
    Unsplit separator key := by
  rcases mem_keys_nested_iff.1 member with plain | ⟨_, _, _, splits⟩
  · exact (mem_unsplitKeys_iff.1 plain).2
  · exact splits.unsplit_parent

/-- A row whose keys do not split is left as it is. -/
theorem nested_of_unsplit (whole : ∀ key ∈ row.keys, Unsplit separator key) :
    nested separator row = row := by
  have ungrouped : (groups separator row).toList = [] := by
    rw [List.eq_nil_iff_forall_not_mem]
    intro entry member
    obtain ⟨key, present, column, splits⟩ :=
      isParent_iff_mem_keys_groups.2 (List.mem_map_of_mem member)
    exact whole key present entry.1 column splits
  rw [nested, ungrouped, List.foldl_nil]
  apply Dict.ext
  refine List.filter_eq_self.2 fun entry member => ?_
  rw [Option.isNone_iff_eq_none, ← unsplit_iff]
  exact whole entry.1 (List.mem_map_of_mem member)

/-- Nesting a nested row changes nothing. -/
theorem nested_nested (separator : String) (row : Dict Value) :
    nested separator (nested separator row) = nested separator row :=
  nested_of_unsplit fun _ => unsplit_of_mem_keys_nested

/-- The groups of a parent in two rows with the same values have the same entries. -/
theorem GroupOf.perm (grouped : GroupOf separator row parent group)
    (otherGrouped : GroupOf separator other parent otherGroup)
    (same : ∀ key, row.get? key = other.get? key) : group.toList.Perm otherGroup.toList := by
  refine Dict.perm_of_get?_eq fun column => Option.ext fun value => ?_
  rw [grouped.columns, otherGrouped.columns, same]

/-- Groups with the same columns have the same value, up to the order of its fields. -/
theorem sameFields_groupValue (same : group.toList.Perm otherGroup.toList) :
    SameFields (groupValue group) (groupValue otherGroup) := by
  have nulls : AllNull group ↔ AllNull otherGroup := by
    simp only [AllNull, Dict.get?_congr_of_perm same]
  by_cases null : AllNull group
  · rw [groupValue_of_null null, groupValue_of_null (nulls.1 null)]
    exact .same .null
  · rw [groupValue_of_not_null null, groupValue_of_not_null (mt nulls.2 null)]
    exact .reordered same

/-- Nesting does not depend on the order of the entries. -/
theorem sameMapping_of_perm (same : row.toList.Perm other.toList) :
    SameMapping (nested separator row) (nested separator other) := by
  have values : ∀ key, row.get? key = other.get? key := Dict.get?_congr_of_perm same
  have parents : ∀ key, IsParent separator row key ↔ IsParent separator other key := by
    intro key
    simp only [IsParent, Dict.mem_keys_congr (values _)]
  intro key
  by_cases used : IsParent separator row key
  · obtain ⟨group, grouped, result⟩ := get?_nested_of_parent used
    obtain ⟨otherGroup, otherGrouped, otherResult⟩ := get?_nested_of_parent ((parents key).1 used)
    rw [result, otherResult]
    exact .some (sameFields_groupValue (grouped.perm otherGrouped values))
  · have plain : (nested separator row).get? key = (nested separator other).get? key := by
      by_cases whole : Unsplit separator key
      · rw [get?_nested_of_unsplit used whole,
          get?_nested_of_unsplit (mt (parents key).2 used) whole, values]
      · rw [Dict.get?_eq_none_iff.2 (mt unsplit_of_mem_keys_nested whole),
          Dict.get?_eq_none_iff.2 (mt unsplit_of_mem_keys_nested whole)]
    rw [plain]
    cases (nested separator other).get? key with
    | none => exact .none
    | some value => exact .some (.same value)

/-- The rows of a result are nested one by one. -/
theorem forall₂_nestedAll (separator : String) (rows : List (Dict Value)) :
    List.Forall₂ (fun row result => result = nested separator row) rows
      (nestedAll separator rows) := by
  rw [nestedAll, List.forall₂_map_right_iff, List.forall₂_same]
  exact fun row _ => rfl

/-- **Nesting is idempotent and does not depend on the order of columns.** A nested row is left as
it is, with its keys in their order, and rows with the same entries are nested to the same mapping,
for a single row as for the rows of a result, which are nested one by one. -/
theorem nested_idempotent_and_orderless (separator : Option String) :
    (∀ row, nested (effectiveSeparator separator) (nested (effectiveSeparator separator) row) =
        nested (effectiveSeparator separator) row) ∧
      (∀ row other : Dict Value, row.toList.Perm other.toList →
        SameMapping (nested (effectiveSeparator separator) row)
          (nested (effectiveSeparator separator) other)) ∧
      (∀ rows, nestedAll (effectiveSeparator separator)
          (nestedAll (effectiveSeparator separator) rows) =
        nestedAll (effectiveSeparator separator) rows) ∧
      (∀ rows others : List (Dict Value),
        List.Forall₂ (fun row other => row.toList.Perm other.toList) rows others →
          List.Forall₂ SameMapping (nestedAll (effectiveSeparator separator) rows)
            (nestedAll (effectiveSeparator separator) others)) ∧
      ∀ rows, List.Forall₂ (fun row result => result = nested (effectiveSeparator separator) row)
        rows (nestedAll (effectiveSeparator separator) rows) := by
  refine ⟨nested_nested _, fun row other => sameMapping_of_perm, fun rows => ?_,
    fun rows others same => ?_, forall₂_nestedAll _⟩
  · rw [nestedAll, nestedAll, List.map_map]
    exact List.map_congr_left fun row _ => nested_nested _ row
  · rw [nestedAll, nestedAll, List.forall₂_map_left_iff, List.forall₂_map_right_iff]
    exact same.imp fun row other => sameMapping_of_perm

/-- A row with a separator that overlaps itself, and a plain key that is a parent too. -/
def overlappingRow : Dict Value :=
  ⟨[("x", .int 1), ("xaaay", .int 2), ("xaab", .null)], by decide⟩

/-- The same row from its end. -/
def reversedRow : Dict Value := ⟨[("xaab", .null), ("xaaay", .int 2), ("x", .int 1)], by decide⟩

/-- A row that has nothing to nest. -/
def plainRow : Dict Value := ⟨[("y", .int 3)], by decide⟩

/-- The groups of the two rows have the same columns in two orders, alone and among other rows. -/
theorem nested_idempotent_and_orderless_overlapping :
    overlappingRow.toList.Perm reversedRow.toList ∧
      SameMapping (nested (effectiveSeparator (some "aa")) overlappingRow)
        (nested (effectiveSeparator (some "aa")) reversedRow) ∧
      (nested (effectiveSeparator (some "aa")) overlappingRow).toList =
        [("x", .record [("ay", .int 2), ("b", .null)])] ∧
      (nested (effectiveSeparator (some "aa")) reversedRow).toList =
        [("x", .record [("b", .null), ("ay", .int 2)])] ∧
      List.Forall₂ (fun row other => row.toList.Perm other.toList)
        [overlappingRow, plainRow] [reversedRow, plainRow] ∧
      List.Forall₂ SameMapping
        (nestedAll (effectiveSeparator (some "aa")) [overlappingRow, plainRow])
        (nestedAll (effectiveSeparator (some "aa")) [reversedRow, plainRow]) ∧
      List.Forall₂ (fun row result => result = nested (effectiveSeparator (some "aa")) row)
        [overlappingRow, plainRow]
        (nestedAll (effectiveSeparator (some "aa")) [overlappingRow, plainRow]) ∧
      (nestedAll (effectiveSeparator (some "aa")) [overlappingRow, plainRow]).map Dict.toList =
        [[("x", .record [("ay", .int 2), ("b", .null)])], [("y", .int 3)]] := by
  obtain ⟨-, orderless, -, allOrderless, oneByOne⟩ := nested_idempotent_and_orderless (some "aa")
  have same : overlappingRow.toList.Perm reversedRow.toList :=
    (List.reverse_perm overlappingRow.toList).symm
  have rows : List.Forall₂ (fun row other : Dict Value => row.toList.Perm other.toList)
      [overlappingRow, plainRow] [reversedRow, plainRow] :=
    .cons same (.cons (.refl _) .nil)
  exact ⟨same, orderless _ _ same, rfl, rfl, rows, allOrderless _ _ rows, oneByOne _, rfl⟩

end Row

end SelectClause

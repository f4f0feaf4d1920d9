import SelectClause.Options
import SelectClause.Text.Split

/-! # Rows with nested groups

A row of a result has composite keys for the columns of inlined children. Nesting a row gathers
the columns of each child into a record under the key of their parent. A child without any value
becomes the absent value.

`splitKey_eq_some` says what a split key is made of.
-/

namespace SelectClause.Row

/-- The separator that counts: the given one, or the default one where it is absent or empty. -/
def effectiveSeparator (separator : Option String) : String :=
  (separator.filter (· ≠ "")).getD (default : Options).aliasSeparator

/-- The parent and the column that a composite key is made of. A key with an empty part is not
composite. -/
def splitKey (separator key : String) : Option (String × String) :=
  match Text.splitAtFirst separator.toList key.toList with
  | some (parent, column) =>
      if parent ≠ [] ∧ column ≠ [] then some (String.ofList parent, String.ofList column) else none
  | none => none

/-- The entries whose keys are not composite. -/
def plain (separator : String) (row : Dict Value) : Dict Value :=
  row.filterKeys fun key => (splitKey separator key).isNone

/-- Puts a value under a composite key into the group of its parent. -/
def addToGroup (separator : String) (groups : Dict (Dict Value)) (entry : String × Value) :
    Dict (Dict Value) :=
  match splitKey separator entry.1 with
  | some (parent, column) =>
      groups.insert parent (((groups.get? parent).getD ∅).insert column entry.2)
  | none => groups

/-- The values under composite keys, by parent and column. -/
def groups (separator : String) (row : Dict Value) : Dict (Dict Value) :=
  row.toList.foldl (addToGroup separator) ∅

/-- The value of a group: its record, or the absent value if it has none but absent values. -/
def groupValue (group : Dict Value) : Value :=
  if group.values.all Value.isNull then .null else .ofDict group

/-- The row with its groups nested. A group takes the place of a plain entry with its key. -/
def nested (separator : String) (row : Dict Value) : Dict Value :=
  (groups separator row).toList.foldl
    (fun result group => result.insert group.1 (groupValue group.2)) (plain separator row)

/-- The rows of a result with their groups nested. -/
def nestedAll (separator : String) (rows : List (Dict Value)) : List (Dict Value) :=
  rows.map (nested separator)

/-- A composite key is its parent, the separator and its column, and neither part is empty. -/
theorem splitKey_eq_some {separator key parent column : String}
    (composite : splitKey separator key = some (parent, column)) :
    key = parent ++ separator ++ column ∧ parent ≠ "" ∧ column ≠ "" := by
  rw [splitKey] at composite
  split at composite
  · rename_i before after found
    split at composite
    · rename_i nonempty
      obtain ⟨rfl, rfl⟩ : String.ofList before = parent ∧ String.ofList after = column := by
        simpa using composite
      refine ⟨?_, by simpa using nonempty.1, by simpa using nonempty.2⟩
      apply String.toList_injective
      simpa using Text.splitAtFirst_sound found
    · simp at composite
  · simp at composite

end SelectClause.Row

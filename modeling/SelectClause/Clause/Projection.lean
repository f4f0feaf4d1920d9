import SelectClause.Clause
import SelectClause.Options

/-! # Projected columns

A projected column is written as its escaped name. A column of a joined table has a composite
alias besides, which starts with the key of the parent and keeps the column apart from others of
its name. The same composite names the column in the rows of the result.

`item_of_key` and `item_of_no_key` are the two shapes of an item.
-/

namespace SelectClause

namespace Projection

/-- The key of a composite alias. An empty key counts as none. -/
def effectiveKey (key : Option String) : Option String := key.filter (· ≠ "")

/-- The alias of a column that is kept apart from others by a key. -/
def compositeAlias (options : Options) (key column : String) : String :=
  key ++ options.aliasSeparator ++ column

/-- The item of a column with its key. -/
def item (options : Options) (column key : Option String) : String :=
  match effectiveKey key with
  | some key =>
      options.escape column ++ " AS " ++
        options.quoteAlias (compositeAlias options key (Clause.printed column))
  | none => options.escape column

/-- The clause that projects columns, each with its key, from a table. -/
def clause (options : Options) (columns : List (Option String × Option String))
    (table : Option String) : String :=
  Clause.select (columns.map fun column => item options column.1 column.2) (options.escape table)

/-- A key that is not empty counts. -/
theorem effectiveKey_some {key : String} (present : key ≠ "") :
    effectiveKey (some key) = some key := by
  simp [effectiveKey, Option.filter, present]

/-- A column with a key has a composite alias. -/
theorem item_of_key (options : Options) (column : String) {key : String} (present : key ≠ "") :
    item options (some column) (some key) =
      options.escape (some column) ++ " AS " ++
        options.quoteAlias (key ++ options.aliasSeparator ++ column) := by
  simp [item, effectiveKey_some present, compositeAlias, Clause.printed]

/-- A column without a key is written as its name alone. -/
theorem item_of_no_key (options : Options) (column : Option String) {key : Option String}
    (absent : effectiveKey key = none) : item options column key = options.escape column := by
  simp [item, absent]

end Projection

/-- A projected column and where it comes from. -/
structure Column where
  /-- The entity, or the table of an inlined child. -/
  table : String
  name : String
  /-- The key that keeps the columns of an inlined child apart. -/
  key : Option String := none
  deriving DecidableEq, Repr

/-- What a statement says of a column: its name and the key that counts. -/
def Column.label (column : Column) : String × Option String :=
  (column.name, Projection.effectiveKey column.key)

/-- The name under which a row of the result has the column. -/
def Column.outputName (options : Options) (column : Column) : String :=
  match Projection.effectiveKey column.key with
  | some key => Projection.compositeAlias options key column.name
  | none => column.name

end SelectClause

import SelectClause.Clause.Projection

/-! # Compiled clauses

The result of a compilation is the text of the SELECT clause with the columns that it projects.
Further clauses are appended to it; the result that they are appended to stays as it is.

`statement_withClause` says that an appended clause comes last in the statement.
-/

namespace SelectClause

/-- What a clause does with its columns. -/
inductive Mode where
  | aggregate
  | projection
  deriving DecidableEq, Repr

/-- The word for a mode. -/
def Mode.name : Mode → String
  | .aggregate => "aggregate"
  | .projection => "projection"

/-- A compiled SELECT clause. -/
structure Compiled where
  select : List String
  mode : Mode
  /-- Whether the selection of the query has been taken care of. -/
  selectionConsumed : Bool := false
  columns : List Column := []
  clauses : List String := []
  deriving DecidableEq, Repr

namespace Compiled

/-- The result of a clause that calculates. -/
def aggregate (clause : String) : Compiled := { select := [clause], mode := .aggregate }

/-- The result of a clause that projects columns from a table. -/
def projection (options : Options) (columns : List Column) (table : String) : Compiled where
  select := [Projection.clause options
    (columns.map fun column => (some column.name, column.key)) (some table)]
  mode := .projection
  selectionConsumed := true
  columns := columns

/-- The result with a further clause at its end. -/
def withClause (compiled : Compiled) (clause : String) : Compiled :=
  { compiled with clauses := compiled.clauses ++ [clause] }

/-- The whole statement: the SELECT clause and then the others. -/
def statement (compiled : Compiled) : String := String.join (compiled.select ++ compiled.clauses)

/-- A row of the result with the given values, by output name. Of columns with one output name
the last value counts, at the place of the first. -/
def row (options : Options) (compiled : Compiled) (values : List Value) : Dict Value :=
  Dict.ofList ((compiled.columns.map (Column.outputName options)).zip values)

/-- An appended clause comes last in the statement. -/
theorem statement_withClause (compiled : Compiled) (clause : String) :
    (compiled.withClause clause).statement = compiled.statement ++ clause := by
  apply String.toList_injective
  simp [statement, withClause]

end Compiled

end SelectClause

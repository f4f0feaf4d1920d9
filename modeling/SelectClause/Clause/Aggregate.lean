import SelectClause.Clause
import SelectClause.Options
import SelectClause.Query.Aggregation
import SelectClause.Trace

/-! # Aggregate clauses

The items of an aggregate clause are the columns to group by, the sums, the averages, the greatest
and the least values, in this order. A calculated column has its own name, as it stands, for an
alias.

`outcome_clause?` says what comes of an aggregation: nothing, a failure or a clause.
-/

namespace SelectClause.Aggregation

/-- The item for the total of a column, which is cast where the options ask for it. -/
def sumItem (options : Options) (column : Option String) : String :=
  let total := "SUM(" ++ options.escape column ++ ")"
  (if options.cast then "CAST(" ++ total ++ ".asFloat())" else total) ++
    " AS " ++ Clause.printed column

/-- The item of an average. Columns are cast before they are averaged, so that whole numbers do
not lose their fraction. -/
def averageItem (options : Options) (column : Option String) : String :=
  let mean := "avg(" ++ options.escape column ++ ".asFloat())"
  (if options.cast then "CAST( " ++ mean ++ " AS float)" else mean) ++
    " AS " ++ Clause.printed column

/-- The item for the greatest value of a column. -/
def maximumItem (options : Options) (column : Option String) : String :=
  "MAX(" ++ options.escape column ++ ") AS " ++ Clause.printed column

/-- The item for the least value of a column. -/
def minimumItem (options : Options) (column : Option String) : String :=
  "MIN(" ++ options.escape column ++ ") AS " ++ Clause.printed column

/-- The items of an aggregation: the columns to group by, then the calculations by kind. -/
def items (options : Options) (aggregation : Aggregation (Option String)) : List String :=
  aggregation.groupBy.map options.escape ++
    aggregation.sum.map (sumItem options) ++
    aggregation.average.map (averageItem options) ++
    aggregation.maximum.map (maximumItem options) ++
    aggregation.minimum.map (minimumItem options)

/-- The clause of an aggregation over a table, if anything is asked for. Grouping alone, with
nothing to calculate, is refused. -/
def clause? (options : Options) (aggregation : Aggregation (Option String))
    (table : Option String) : Traced (Option String) :=
  if !aggregation.requested then pure none
  else if !aggregation.hasCalculation then Traced.ofExcept (.error .noCalculation)
  else do
    let items := aggregation.items options
    Traced.log (.aggregateWritten items.length table)
    return some (Clause.select items (options.escape table))

/-- An aggregation that asks for nothing has no clause, one that only groups fails, and any other
has the clause of its items. -/
theorem outcome_clause? (options : Options) (aggregation : Aggregation (Option String))
    (table : Option String) :
    (aggregation.clause? options table).outcome =
      if !aggregation.requested then .ok none
      else if !aggregation.hasCalculation then .error .noCalculation
      else .ok (some (Clause.select (aggregation.items options) (options.escape table))) := by
  rw [clause?]
  split
  · rfl
  · split <;> rfl

end SelectClause.Aggregation

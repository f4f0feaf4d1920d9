import SelectClause.Validation.Field

/-! # Aggregations

An aggregation names the columns to group by and those to calculate with. Each list keeps the
order in which it was given, and the empty list stands for nothing asked for.

`requested_eq_false_iff` says that nothing is requested just if every list is empty.
-/

namespace SelectClause

/-- Columns to group by and to calculate with. -/
structure Aggregation (Name : Type) where
  groupBy : List Name := []
  sum : List Name := []
  average : List Name := []
  minimum : List Name := []
  maximum : List Name := []
  deriving DecidableEq, Repr

namespace Aggregation

variable {Name Other : Type}

/-- The field for the columns that rows are grouped by. -/
def groupByField : FieldName := ⟨"group_by", "groupBy"⟩

/-- The field for the columns to add up. -/
def sumField : FieldName := ⟨"sum", "sum"⟩

/-- The field for the columns to take the average of. -/
def averageField : FieldName := ⟨"average", "average"⟩

/-- The field for the columns to take the least value of. -/
def minimumField : FieldName := ⟨"min", "min"⟩

/-- The field for the columns to take the greatest value of. -/
def maximumField : FieldName := ⟨"max", "max"⟩

/-- Reads an aggregation from the fields of a record, where one name may stand for a list. -/
def ofFields (fields : Dict Value) : Checked (Aggregation String) :=
  Aggregation.mk
    <$> groupByField.orElse Check.names [] fields
    <*> sumField.orElse Check.names [] fields
    <*> averageField.orElse Check.names [] fields
    <*> minimumField.orElse Check.names [] fields
    <*> maximumField.orElse Check.names [] fields

/-- The aggregation with every column changed. -/
def map (change : Name → Other) (aggregation : Aggregation Name) : Aggregation Other where
  groupBy := aggregation.groupBy.map change
  sum := aggregation.sum.map change
  average := aggregation.average.map change
  minimum := aggregation.minimum.map change
  maximum := aggregation.maximum.map change

/-- Whether anything is calculated. -/
def hasCalculation (aggregation : Aggregation Name) : Bool :=
  !(aggregation.sum.isEmpty && aggregation.average.isEmpty && aggregation.maximum.isEmpty &&
    aggregation.minimum.isEmpty)

/-- Whether a query with the aggregation asks for one, by groups or by a calculation. -/
def requested (aggregation : Aggregation Name) : Bool :=
  !aggregation.groupBy.isEmpty || aggregation.hasCalculation

@[simp] theorem hasCalculation_map (change : Name → Other) (aggregation : Aggregation Name) :
    (aggregation.map change).hasCalculation = aggregation.hasCalculation := by
  simp [hasCalculation, map]

@[simp] theorem requested_map (change : Name → Other) (aggregation : Aggregation Name) :
    (aggregation.map change).requested = aggregation.requested := by
  simp [requested, map, hasCalculation]

/-- Nothing is requested just if every list is empty. -/
theorem requested_eq_false_iff {aggregation : Aggregation Name} :
    aggregation.requested = false ↔ aggregation = {} := by
  obtain ⟨groupBy, sum, average, minimum, maximum⟩ := aggregation
  simp [requested, hasCalculation, and_assoc, and_left_comm, and_comm]

end Aggregation

end SelectClause

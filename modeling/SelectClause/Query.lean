import SelectClause.Failure
import SelectClause.Query.Aggregation
import SelectClause.Query.Join

/-! # Queries

A query names the attributes to select, the joins to follow and the columns to group by and to
calculate with. Wherever a list of names is asked for, one name may stand for the list of it, and
fields with no meaning here are passed over.

`ofValue_ofDict` says that a record is read by its fields.
-/

namespace SelectClause

/-- Attributes that are selected beside those of the query. -/
structure FetchPlan where
  select : List String := []
  deriving DecidableEq, Repr

namespace FetchPlan

/-- The field for the attributes that a fetch plan asks for. -/
def selectField : FieldName := ⟨"select", "select"⟩

/-- Reads a fetch plan from a record. -/
def check : Check FetchPlan :=
  Check.record .fetchPlan fun fields => FetchPlan.mk <$> selectField.orElse Check.names [] fields

end FetchPlan

/-- What to select. -/
structure Query where
  /-- The attributes that are asked for; all of them if there is no selection. -/
  select : Option (List String) := none
  fetchPlan : Option FetchPlan := none
  /-- Whether records may have attributes that are not declared. -/
  schemaless : Bool := false
  /-- The joins by the attribute they fill, in order. -/
  joins : Dict Join := ∅
  aggregation : Aggregation String := {}
  deriving Repr

namespace Query

instance : Inhabited Query := ⟨{}⟩

/-- The field for the attributes that a query selects. -/
def selectField : FieldName := ⟨"select", "select"⟩

/-- The field for the fetch plan of a query. -/
def fetchPlanField : FieldName := ⟨"fetch_plan", "fetchPlan"⟩

/-- The field that allows for attributes beyond the declared ones. -/
def schemalessField : FieldName := ⟨"schemaless", "schemaless"⟩

/-- The field for the joins of a query by name. -/
def joinsField : FieldName := ⟨"instructions", "instructions"⟩

/-- The joins of a query; the absent value stands for none. -/
def checkJoins : Check (Dict Join)
  | .null => .ok ∅
  | value => Check.dictionary Join.check value

/-- Reads a query from the fields of a record, its aggregation from fields of their own. -/
def ofFields (fields : Dict Value) : Checked Query :=
  Query.mk
    <$> selectField.orElse (Check.nullable Check.names) none fields
    <*> fetchPlanField.orElse (Check.nullable FetchPlan.check) none fields
    <*> schemalessField.orElse Check.truth false fields
    <*> joinsField.orElse checkJoins ∅ fields
    <*> Aggregation.ofFields fields

/-- Reads a query from a record. -/
def check : Check Query := Check.record .query ofFields

/-- Reads a query from whatever a caller hands over, where nothing given means the query without
fields. -/
def ofValue (value : Value) : Except Failure Query :=
  let given := if value.isVoid then .record [] else value
  match Mapping.ofValue given with
  | .error fault => .error (.noMapping fault)
  | .ok mapping =>
      match ofFields mapping.fields with
      | .ok query => .ok query
      | .failed issues => .error (.invalidQuery issues)

/-- Whether a selection is given. An empty one counts. -/
def hasSelection (query : Query) : Bool := query.select.isSome

/-- A record is read by its fields. -/
theorem ofValue_ofDict (fields : Dict Value) :
    ofValue (.ofDict fields) =
      match ofFields fields with
      | .ok query => .ok query
      | .failed issues => .error (.invalidQuery issues) := by
  by_cases nothing : fields.toList = []
  · have same : fields = ∅ := Dict.ext nothing
    subst same
    rfl
  · have given : (Value.ofDict fields).isVoid = false := by
      simp [Value.ofDict, Value.isVoid, nothing]
    simp [ofValue, given]

end Query

end SelectClause

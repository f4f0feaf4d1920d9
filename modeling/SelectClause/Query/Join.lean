import SelectClause.Query.Strategy

/-! # Joins

A join relates the target of a query to child tables, one population for each step. Joins by a
key of the parent are inlined into the row of the parent; the others are left to later stages.
-/

namespace SelectClause

/-- One step from a parent to a child table. -/
structure Population where
  child : String
  parent : Option String := none
  /-- The name under which the parent refers to the child. -/
  parentKey : Option String := none
  /-- The column of the child that the key refers to. -/
  childKey : Option String := none
  aliasName : Option String := none
  /-- The attributes of the child that are asked for. -/
  select : Option (List String) := none
  /-- What the records of the child have to meet. -/
  criteria : Dict Value := ∅
  /-- Whether the parent's key is dropped from the result. -/
  removeParentKey : Bool := false
  deriving Repr

namespace Population

/-- The field for the table of the child. -/
def childField : FieldName := ⟨"child", "child"⟩

/-- The field for the table of the parent. -/
def parentField : FieldName := ⟨"parent", "parent"⟩

/-- The field for the name under which the parent refers to the child. -/
def parentKeyField : FieldName := ⟨"parent_key", "parentKey"⟩

/-- The field for the column of the child that the key refers to. -/
def childKeyField : FieldName := ⟨"child_key", "childKey"⟩

/-- The field for the name by which the table of the child is called. -/
def aliasField : FieldName := ⟨"alias", "alias"⟩

/-- The field for the attributes of the child that are asked for. -/
def selectField : FieldName := ⟨"select", "select"⟩

/-- The field for what the records of the child have to meet. -/
def criteriaField : FieldName := ⟨"criteria", "criteria"⟩

/-- The field that drops the key of the parent from the result. -/
def removeParentKeyField : FieldName := ⟨"remove_parent_key", "removeParentKey"⟩

/-- Reads a population from the fields of a record. The child alone has to be given. -/
def ofFields (fields : Dict Value) : Checked Population :=
  let nameIn (field : FieldName) := field.orElse (Check.nullable Check.text) none fields
  Population.mk
    <$> childField.required Check.text fields
    <*> nameIn parentField
    <*> nameIn parentKeyField
    <*> nameIn childKeyField
    <*> nameIn aliasField
    <*> selectField.orElse (Check.nullable Check.names) none fields
    <*> criteriaField.orElse (Check.dictionary Check.anything) ∅ fields
    <*> removeParentKeyField.orElse Check.truth false fields

/-- Reads a population from a record. -/
def check : Check Population := Check.record .population ofFields

end Population

/-- A join of a query. -/
structure Join where
  strategy : Strategy
  populations : List Population := []
  deriving Repr

namespace Join

/-- The field for the populations of a join. -/
def populationsField : FieldName := ⟨"instructions", "instructions"⟩

/-- Reads a join from the fields of a record. The strategy alone has to be given. -/
def ofFields (fields : Dict Value) : Checked Join :=
  Join.mk
    <$> Strategy.field.required Strategy.check fields
    <*> populationsField.orElse (Check.sequence Population.check) [] fields

/-- Reads a join from a record. -/
def check : Check Join := Check.record .join ofFields

/-- Whether the child is inlined into the row of the parent. -/
def isInline (join : Join) : Bool := join.strategy == .hasForeignKey

end Join

end SelectClause

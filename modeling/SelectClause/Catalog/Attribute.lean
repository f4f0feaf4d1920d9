import SelectClause.Validation.Written

/-! # Attributes

An attribute of an entity names the column that holds it, if that is another name than its own,
and may relate to other entities. A field that was not given differs from one that was given as
the absent value: an attribute is a collection as soon as the field is given at all.

`physicalName_of_declaredColumn_eq_none` says that an attribute without a declared column is held
by the column of its own name.
-/

namespace SelectClause

/-- The definition of an attribute. A field is `none` where it was not given, and `some none`
where it was given as the absent value. -/
structure Attribute where
  columnName : Option (Option String) := none
  /-- The entity on the other side of a relation to many. -/
  collection : Option (Option String) := none
  /-- The entity on the other side of a relation to one. -/
  model : Option (Option String) := none
  /-- The attribute on the other side of the relation. -/
  via : Option (Option String) := none
  type : Option (Option String) := none
  primaryKey : Option Bool := none
  extras : Dict Value := ∅
  deriving Repr

namespace Attribute

instance : Inhabited Attribute := ⟨{}⟩

/-- The field for the column that holds the attribute. -/
def columnNameField : FieldName := ⟨"column_name", "columnName"⟩

/-- The field for the entity on the other side of a relation to many. -/
def collectionField : FieldName := ⟨"collection", "collection"⟩

/-- The field for the entity on the other side of a relation to one. -/
def modelField : FieldName := ⟨"model", "model"⟩

/-- The field for the attribute on the other side of the relation. -/
def viaField : FieldName := ⟨"via", "via"⟩

/-- The field for the type of the values. -/
def typeField : FieldName := ⟨"type", "type"⟩

/-- The field that marks the attribute by which records are known. -/
def primaryKeyField : FieldName := ⟨"primary_key", "primaryKey"⟩

/-- The fields that definitions are read from. All other fields are kept as they are. -/
def fieldNames : List FieldName :=
  [columnNameField, collectionField, modelField, viaField, typeField, primaryKeyField]

/-- Reads the definition of an attribute from the fields of a record. -/
def ofFields (fields : Dict Value) : Checked Attribute :=
  let nameIn (field : FieldName) := field.given (Check.nullable Check.text) fields
  (fun columnName collection model via type primaryKey =>
    { columnName, collection, model, via, type, primaryKey
      extras := FieldName.others fieldNames fields })
    <$> nameIn columnNameField
    <*> nameIn collectionField
    <*> nameIn modelField
    <*> nameIn viaField
    <*> nameIn typeField
    <*> primaryKeyField.given Check.truth fields

/-- Reads an attribute from a record, or from a text that gives its type alone. -/
def check : Check Attribute
  | .text type => ofFields (Dict.ofList [(typeField.plain, .text type)])
  | value => Check.record .attributeDefinition ofFields value

/-- An attribute is read from a record by its fields. -/
theorem check_ofDict (fields : Dict Value) : check (.ofDict fields) = ofFields fields :=
  Check.record_ofDict .attributeDefinition ofFields fields

/-- Whether the attribute relates to many records. Such an attribute has no column. -/
def isCollection (definition : Attribute) : Bool := definition.collection.isSome

/-- The column that the definition names, if the name is not empty. -/
def declaredColumn (definition : Attribute) : Option String :=
  definition.columnName.join.filter (· ≠ "")

/-- The column of an attribute of the given name. -/
def physicalName (definition : Attribute) (name : String) : String :=
  definition.declaredColumn.getD name

/-- The definition as it is written back: the fields that were given, and the others. -/
def written (definition : Attribute) : Written where
  known := [
    (columnNameField, definition.columnName.map .ofText?),
    (collectionField, definition.collection.map .ofText?),
    (modelField, definition.model.map .ofText?),
    (viaField, definition.via.map .ofText?),
    (typeField, definition.type.map .ofText?),
    (primaryKeyField, definition.primaryKey.map .bool)]
  unknown := definition.extras

/-- A definition that names no column leaves the attribute its own name. -/
theorem physicalName_of_declaredColumn_eq_none {definition : Attribute} (name : String)
    (undeclared : definition.declaredColumn = none) : definition.physicalName name = name := by
  rw [physicalName, undeclared, Option.getD_none]

end Attribute

end SelectClause

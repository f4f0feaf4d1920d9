import SelectClause.Catalog.Attribute

/-! # Entities

An entity has an identity, a table and attributes in the order of their declaration. Names without
a declaration stand for columns of their own name, so looking up an attribute always succeeds.
-/

namespace SelectClause

/-- The definition of an entity. A field is `none` where it was not given. -/
structure Entity where
  identity : Option (Option String) := none
  table : Option (Option String) := none
  declared : Option (Dict Attribute) := none
  extras : Dict Value := ∅
  deriving Repr

namespace Entity

instance : Inhabited Entity := ⟨{}⟩

/-- The field for the name of the entity. -/
def identityField : FieldName := ⟨"identity", "identity"⟩

/-- The field for the table that holds the records of the entity. -/
def tableField : FieldName := ⟨"table_name", "tableName"⟩

/-- The field for the definitions of the attributes by name. -/
def attributesField : FieldName := ⟨"attributes", "attributes"⟩

/-- The fields that entities are read from. All other fields are kept as they are. -/
def fieldNames : List FieldName := [identityField, tableField, attributesField]

/-- Reads an entity from the fields of a record. -/
def ofFields (fields : Dict Value) : Checked Entity :=
  (fun identity table declared =>
    { identity, table, declared, extras := FieldName.others fieldNames fields })
    <$> identityField.given (Check.nullable Check.text) fields
    <*> tableField.given (Check.nullable Check.text) fields
    <*> attributesField.given (Check.dictionary Attribute.check) fields

/-- Reads an entity from a record. -/
def check : Check Entity := Check.record .entityDefinition ofFields

/-- The name of the table, if there is one. -/
def tableName (entity : Entity) : Option String := entity.table.join

/-- The attributes by name, in the order of their declaration. -/
def attributes (entity : Entity) : Dict Attribute := entity.declared.getD ∅

/-- The definition of an attribute; a name that is not declared has the empty one. -/
def definitionOf (entity : Entity) (name : String) : Attribute :=
  (entity.attributes.get? name).getD {}

/-- The attributes that are no collections, with their names. -/
def projectable (entity : Entity) : List (String × Attribute) :=
  entity.attributes.toList.filter fun entry => !entry.2.isCollection

/-- The entity as it is written back, with its attributes written back in it. -/
def written (entity : Entity) : Written where
  known := [
    (identityField, entity.identity.map .ofText?),
    (tableField, entity.table.map .ofText?),
    (attributesField, entity.declared.map fun attributes =>
      .ofDict (attributes.map fun definition => .ofDict definition.written.toDict))]
  unknown := entity.extras

end Entity

end SelectClause

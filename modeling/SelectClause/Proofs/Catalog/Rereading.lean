import SelectClause.Proofs.Catalog.Definitions
import SelectClause.Proofs.Validation.Rereading

/-! # Entities that are written back and read again

An attribute or an entity that was read is written back to a record from which it is read again
(`Attribute.ReadFrom.toDict`, `Entity.ReadFrom.toDict`), whatever the record was that it was read
from first. So an entity that is handed over to a catalog stands for the definition that it was read
from (`exists_handedOver_iff`), and the catalog does not tell the two apart (`ofSchema_beforehand`).
-/

namespace SelectClause

/-- A name that may be absent is read back from what it is written as. -/
theorem Check.nullable_text_ofText? (name : Option String) :
    Check.nullable Check.text (.ofText? name) = .ok name := by
  cases name <;> rfl

namespace Attribute

variable {definition : Attribute} {fields : Dict Value}

/-- Every attribute is read from the fields of a record. -/
theorem exists_ofFields_of_check {value : Value} (read : check value = .ok definition) :
    ∃ fields, ofFields fields = .ok definition := by
  cases value with
  | text type => exact ⟨_, read⟩
  | record fields => exact ⟨Dict.ofList fields, read⟩
  | null => cases read
  | bool => cases read
  | int => cases read
  | decimal => cases read
  | list => cases read

/-- What each field of an attribute is read from. -/
structure ReadFrom (fields : Dict Value) (definition : Attribute) : Prop where
  columnName : columnNameField.given (Check.nullable Check.text) fields = .ok definition.columnName
  collection : collectionField.given (Check.nullable Check.text) fields = .ok definition.collection
  model : modelField.given (Check.nullable Check.text) fields = .ok definition.model
  via : viaField.given (Check.nullable Check.text) fields = .ok definition.via
  type : typeField.given (Check.nullable Check.text) fields = .ok definition.type
  primaryKey : primaryKeyField.given Check.truth fields = .ok definition.primaryKey
  extras : definition.extras = FieldName.others fieldNames fields

/-- The definition of an attribute is read just if each of its fields is. -/
theorem ofFields_eq_ok_iff : ofFields fields = .ok definition ↔ definition.ReadFrom fields := by
  rw [ofFields]
  simp only [Checked.seq_eq_ok_iff, Checked.map_eq_ok_iff]
  constructor
  · rintro ⟨_, _, ⟨_, _, ⟨_, _, ⟨_, _, ⟨_, _, ⟨_, columnName, rfl⟩, collection, rfl⟩, model, rfl⟩,
      via, rfl⟩, type, rfl⟩, primaryKey, rfl⟩
    exact ⟨columnName, collection, model, via, type, primaryKey, rfl⟩
  · rintro ⟨columnName, collection, model, via, type, primaryKey, extras⟩
    refine ⟨_, _, ⟨_, _, ⟨_, _, ⟨_, _, ⟨_, _, ⟨_, columnName, rfl⟩, collection, rfl⟩, model, rfl⟩,
      via, rfl⟩, type, rfl⟩, primaryKey, ?_⟩
    rw [← extras]

/-- No field of a definition is written under the key of another one. -/
theorem ReadFrom.separate (read : definition.ReadFrom fields) : definition.written.Separate := by
  have apart : fieldNames.Pairwise FieldName.Apart := by decide
  refine Written.separate_of_others apart read.extras ?_
  simp only [written, List.forall_mem_cons]
  exact ⟨Written.find_eq_none_of_map read.columnName, Written.find_eq_none_of_map read.collection,
    Written.find_eq_none_of_map read.model, Written.find_eq_none_of_map read.via,
    Written.find_eq_none_of_map read.type, Written.find_eq_none_of_map read.primaryKey, by simp⟩

/-- An attribute that was read is read again from how it is written. -/
theorem ReadFrom.toDict (read : definition.ReadFrom fields) :
    definition.ReadFrom definition.written.toDict := by
  have separate := read.separate
  have name : ∀ {name : FieldName} {given : Option (Option String)},
      (name, given.map .ofText?) ∈ definition.written.known →
        name.given (Check.nullable Check.text) definition.written.toDict = .ok given :=
    fun member => separate.given_toDict member fun value _ => Check.nullable_text_ofText? value
  have primaryKey : (primaryKeyField, definition.primaryKey.map .bool) ∈ definition.written.known :=
    by simp [written]
  refine ⟨name ?_, name ?_, name ?_, name ?_, name ?_,
    separate.given_toDict primaryKey fun _ _ => rfl, separate.others_toDict.symm⟩
  all_goals simp [written]

end Attribute

namespace Entity

variable {entity : Entity} {fields : Dict Value}

/-- A value with fields is read by its fields. -/
theorem check_of_fields {value : Value} (object : value.fields? = some fields) :
    check value = ofFields fields := by
  rw [check, Check.record, object]

/-- No field of an entity is written under the key of another one. -/
theorem ReadFrom.separate (read : entity.ReadFrom fields) : entity.written.Separate := by
  have apart : fieldNames.Pairwise FieldName.Apart := by decide
  refine Written.separate_of_others apart read.extras ?_
  simp only [written, List.forall_mem_cons]
  exact ⟨Written.find_eq_none_of_map read.identity, Written.find_eq_none_of_map read.table,
    Written.find_eq_none_of_map read.declared, by simp⟩

/-- Attributes that were read are read again from how they are written. -/
theorem dictionary_check_written {value : Value} {attributes : Dict Attribute}
    (read : Check.dictionary Attribute.check value = .ok attributes) :
    Check.dictionary Attribute.check
        (.ofDict (attributes.map fun definition => .ofDict definition.written.toDict)) =
      .ok attributes := by
  obtain ⟨dict, -, related⟩ := Check.dictionary_eq_ok_iff.1 read
  refine Check.dictionary_eq_ok_iff.2 ⟨_, Value.fields?_ofDict _, ?_⟩
  rw [Dict.toList_map, List.forall₂_map_left_iff, List.forall₂_same]
  intro entry member
  refine ⟨rfl, ?_⟩
  obtain ⟨given, -, -, checked⟩ := exists_of_forall₂ related member
  obtain ⟨fields, passed⟩ := Attribute.exists_ofFields_of_check checked
  rw [Attribute.check_ofDict, Attribute.ofFields_eq_ok_iff]
  exact (Attribute.ofFields_eq_ok_iff.1 passed).toDict

/-- An entity that was read is read again from how it is written. -/
theorem ReadFrom.toDict (read : entity.ReadFrom fields) :
    entity.ReadFrom entity.written.toDict := by
  have separate := read.separate
  have name : ∀ {name : FieldName} {given : Option (Option String)},
      (name, given.map .ofText?) ∈ entity.written.known →
        name.given (Check.nullable Check.text) entity.written.toDict = .ok given :=
    fun member => separate.given_toDict member fun value _ => Check.nullable_text_ofText? value
  have declared : (attributesField, entity.declared.map fun attributes =>
      Value.ofDict (attributes.map fun definition => .ofDict definition.written.toDict)) ∈
        entity.written.known := by simp [written]
  refine ⟨name (by simp [written]), name (by simp [written]),
    separate.given_toDict declared fun attributes given => ?_, separate.others_toDict.symm⟩
  rcases FieldName.given_eq_ok_iff_find.1 read.declared with
    ⟨-, missing⟩ | ⟨key, value, _, -, checked, same⟩
  · rw [given] at missing
    cases missing
  · rw [given] at same
    cases same
    exact dictionary_check_written checked

/-- Naming an entity that was read is reading it from completed fields. -/
theorem ReadFrom.named (read : entity.ReadFrom fields) (key : String) :
    (entity.named key).ReadFrom (Catalog.completed (.text key) fields) := by
  rw [← ofFields_eq_ok_iff, Catalog.ofFields_completed, ofFields_eq_ok_iff.2 read]
  rfl

end Entity

namespace Catalog

variable {schema : Value} {fields : Dict Value} {catalog : Catalog} {key : String} {entity : Entity}

/-- The entity of a key and a record is that of the record's fields, with the key's name. -/
theorem checkEntity_ofDict (key : String) (fields : Dict Value) :
    checkEntity (.text key) (Mapping.ofDict fields) =
      Entity.named key <$> Entity.ofFields fields := by
  rw [checkEntity, Mapping.fields_ofDict, Mapping.strayKeys_ofDict, ofFields_completed]
  cases Entity.ofFields fields <;> rfl

/-- A record defines the entity that is read from it, with the name of its key. -/
theorem defines_raw_iff {definition : Value} (object : definition.fields? = some fields) :
    (Definition.raw definition).Defines key entity ↔
      ∃ read, Entity.check definition = .ok read ∧ read.named key = entity := by
  have mapping : (Definition.raw definition).mapping = .ok (Mapping.ofDict fields) := by
    show Mapping.ofValue definition = _
    rw [Mapping.ofValue, object]
  rw [Definition.Defines, mapping, Entity.check_of_fields object]
  simp [checkEntity_ofDict, Checked.map_eq_ok_iff]

/-- An entity that was read beforehand defines itself, with the name of its key. -/
theorem defines_entity_iff {read : Entity} (readFrom : read.ReadFrom fields) :
    (Definition.entity read).Defines key entity ↔ read.named key = entity := by
  have again : Entity.ofFields read.written.toDict = .ok read :=
    Entity.ofFields_eq_ok_iff.2 readFrom.toDict
  simp [Definition.Defines, Definition.mapping, checkEntity_ofDict, again]

/-- A catalog is built from its own entities. -/
theorem ofDefinitions_entities (object : schema.fields? = some fields)
    (read : ofSchema [] schema = .ok catalog) :
    ofDefinitions (catalog.entities.toList.map fun entry => (.text entry.1, .entity entry.2)) =
      .ok catalog := by
  have named : ∀ entry ∈ catalog.entities.toList,
      (Definition.entity entry.2).Defines entry.1 entry.2 := by
    rintro ⟨key, entity⟩ member
    obtain ⟨definition, -, mapping, -, checked⟩ := (mem_entities_iff object read).1 member
    obtain ⟨given, readFrom, rfl⟩ := exists_readFrom_of_checkEntity checked
    exact (defines_entity_iff (readFrom.named key)).2 rfl
  have distinct : ((catalog.entities.toList.map fun entry =>
      (entry.1, Definition.entity entry.2)).map Prod.fst).Nodup := by
    rw [List.map_map]
    exact catalog.entities.distinct
  have handed : List.Forall₂ (fun given held => held.1 = given.1 ∧ given.2.Defines given.1 held.2)
      (catalog.entities.toList.map fun entry => (entry.1, Definition.entity entry.2))
      catalog.entities.toList := by
    rw [List.forall₂_map_left_iff, List.forall₂_same]
    exact fun entry member => ⟨rfl, named entry member⟩
  have built := (ofDefinitions_eq_ok_iff distinct).2 handed
  rwa [List.map_map] at built

/-- An entry that is handed over as an entity defines what it defines as a value. -/
theorem exists_handedOver_iff {beforehand : List String} {entry : String × Value}
    {held : String × Entity} (object : ∃ given, entry.2.fields? = some given) :
    (∃ handed, HandedOver beforehand entry handed ∧
        held.1 = handed.1 ∧ handed.2.Defines handed.1 held.2) ↔
      held.1 = entry.1 ∧ (Definition.raw entry.2).Defines entry.1 held.2 := by
  obtain ⟨key, value⟩ := entry
  obtain ⟨given, object⟩ := object
  have readFrom : ∀ {read : Entity}, Entity.check value = .ok read → read.ReadFrom given := by
    intro read checked
    rwa [Entity.check_of_fields object, Entity.ofFields_eq_ok_iff] at checked
  by_cases early : key ∈ beforehand
  · simp only [HandedOver, early, if_true]
    constructor
    · rintro ⟨⟨_, _⟩, ⟨rfl, read, checked, rfl⟩, same, defines⟩
      exact ⟨same, (defines_raw_iff object).2
        ⟨read, checked, (defines_entity_iff (readFrom checked)).1 defines⟩⟩
    · rintro ⟨same, defines⟩
      obtain ⟨read, checked, named⟩ := (defines_raw_iff object).1 defines
      exact ⟨(key, .entity read), ⟨rfl, read, checked, rfl⟩, same,
        (defines_entity_iff (readFrom checked)).2 named⟩
  · simp only [HandedOver, early, if_false]
    constructor
    · rintro ⟨⟨_, _⟩, ⟨rfl, rfl⟩, same, defines⟩
      exact ⟨same, defines⟩
    · rintro ⟨same, defines⟩
      exact ⟨(key, .raw value), ⟨rfl, rfl⟩, same, defines⟩

/-- It makes no difference which definitions of a schema are read beforehand. -/
theorem ofSchema_beforehand_iff (object : schema.fields? = some fields)
    (objects : ∀ entry ∈ fields.toList, ∃ given, entry.2.fields? = some given)
    (beforehand : List String) :
    ofSchema beforehand schema = .ok catalog ↔ ofSchema [] schema = .ok catalog := by
  rw [ofSchema_eq_ok_iff_handedOver object, ofSchema_eq_ok_iff object]
  constructor
  · intro related
    refine ((List.forall₂_and_left _ _).2 ⟨objects, related⟩).imp ?_
    exact fun entry held both => (exists_handedOver_iff both.1).1 both.2
  · intro related
    refine ((List.forall₂_and_left _ _).2 ⟨objects, related⟩).imp ?_
    exact fun entry held both => (exists_handedOver_iff both.1).2 both.2

/-- Records define entities just if entities are read from them. -/
theorem exists_defines_raw_iff {definition : Value} (object : definition.fields? = some fields) :
    (∃ entity, Entity.check definition = .ok entity) ↔
      ∃ entity, (Definition.raw definition).Defines key entity := by
  simp only [defines_raw_iff object]
  constructor
  · rintro ⟨read, checked⟩
    exact ⟨_, read, checked, rfl⟩
  · rintro ⟨_, read, checked, -⟩
    exact ⟨read, checked⟩

/-- A schema of records is valid just if entities are read from all of them. -/
theorem exists_ofSchema_iff (object : schema.fields? = some fields)
    (objects : ∀ entry ∈ fields.toList, ∃ given, entry.2.fields? = some given) :
    (∃ catalog, ofSchema [] schema = .ok catalog) ↔
      ∀ entry ∈ fields.toList, ∃ entity, Entity.check entry.2 = .ok entity := by
  simp only [ofSchema_eq_ok_iff object]
  constructor
  · rintro ⟨catalog, related⟩ entry member
    obtain ⟨held, -, -, defines⟩ := exists_of_forall₂ related.flip member
    obtain ⟨given, record⟩ := objects entry member
    exact (exists_defines_raw_iff record).2 ⟨held.2, defines⟩
  · intro valid
    have defines : ∀ entry ∈ fields.toList, ∃ held : String × Entity,
        held.1 = entry.1 ∧ (Definition.raw entry.2).Defines entry.1 held.2 := by
      intro entry member
      obtain ⟨given, record⟩ := objects entry member
      obtain ⟨entity, defines⟩ := (exists_defines_raw_iff record).1 (valid entry member)
      exact ⟨(entry.1, entity), rfl, defines⟩
    obtain ⟨held, related⟩ := exists_forall₂_of_forall defines
    have distinct : (held.map Prod.fst).Nodup := map_fst_of_forall₂ related ▸ fields.distinct
    exact ⟨⟨held, distinct⟩, related⟩

/-- **Entities that are read beforehand make no difference to a catalog.** In a schema of records a
definition is valid by itself just if it is under its key, and the schema is valid just if all its
definitions are. Whichever of them are handed over as entities, the same catalog is built; and a
catalog is built again from its own entities. -/
theorem ofSchema_beforehand (object : schema.fields? = some fields)
    (objects : ∀ entry ∈ fields.toList, ∃ given, entry.2.fields? = some given) :
    (∀ entry ∈ fields.toList, (∃ entity, Entity.check entry.2 = .ok entity) ↔
        ∃ entity, (Definition.raw entry.2).Defines entry.1 entity) ∧
      ((∃ catalog, ofSchema [] schema = .ok catalog) ↔
        ∀ entry ∈ fields.toList, ∃ entity, Entity.check entry.2 = .ok entity) ∧
      ∀ catalog, ofSchema [] schema = .ok catalog →
        (∀ beforehand, ofSchema beforehand schema = .ok catalog) ∧
          ofDefinitions (catalog.entities.toList.map fun entry =>
            (.text entry.1, .entity entry.2)) = .ok catalog := by
  refine ⟨fun entry member => ?_, exists_ofSchema_iff object objects, fun catalog read => ⟨?_, ?_⟩⟩
  · obtain ⟨given, record⟩ := objects entry member
    exact exists_defines_raw_iff record
  · exact fun beforehand => (ofSchema_beforehand_iff object objects beforehand).2 read
  · exact ofDefinitions_entities object read

/-- Pets that name their table twice, with a key that is written as a word, a type that is written
for a declaration and a collection of nothing; and users about whom nothing is said. -/
def petFields : Dict Value := Dict.ofList [
  ("pet", .record [
    ("table_name", .text "animals"), ("color", .text "brown"), ("tableName", .text "pets"),
    ("attributes", .record [
      ("id", .record [("primary_key", .text "Yes"), ("columnName", .null)]),
      ("name", .text "string"),
      ("toys", .record [("note", .int 1), ("collection", .null)])])]),
  ("user", .record [])]

/-- The entities of the pets and of the users, with the missing names supplied. -/
def petCatalog : Catalog where
  entities := Dict.ofList [
    ("pet", {
      identity := some (some "pet"), table := some (some "pets")
      declared := some (Dict.ofList [
        ("id", { columnName := some none, primaryKey := some true }),
        ("name", { type := some (some "string") }),
        ("toys", { collection := some none, extras := Dict.ofList [("note", .int 1)] })])
      extras := Dict.ofList [("table_name", .text "animals"), ("color", .text "brown")] }),
    ("user", { identity := some (some "user"), table := some (some "user") })]

/-- Whether or not the definition of the pets is read beforehand, one catalog is built, and it is
built again from its entities. -/
theorem ofSchema_beforehand_pets :
    (Value.ofDict petFields).fields? = some petFields ∧
      (∀ entry ∈ petFields.toList, ∃ given, entry.2.fields? = some given) ∧
      ofSchema [] (.ofDict petFields) = .ok petCatalog ∧
      ofSchema ["pet"] (.ofDict petFields) = .ok petCatalog ∧
      ofDefinitions (petCatalog.entities.toList.map fun entry =>
        (.text entry.1, .entity entry.2)) = .ok petCatalog := by
  have object := Value.fields?_ofDict petFields
  have objects : ∀ entry ∈ petFields.toList, ∃ given, entry.2.fields? = some given := by
    intro entry member
    rcases List.mem_cons.1 member with rfl | member
    · exact ⟨_, rfl⟩
    · rw [List.mem_singleton.1 member]
      exact ⟨_, rfl⟩
  have read : ofSchema [] (.ofDict petFields) = .ok petCatalog := rfl
  obtain ⟨-, -, built⟩ := ofSchema_beforehand object objects
  obtain ⟨beforehand, again⟩ := built petCatalog read
  exact ⟨object, objects, read, beforehand ["pet"], again⟩

end Catalog

end SelectClause

import SelectClause.Catalog.Resolution
import SelectClause.Proofs.Validation.Spelling
import SelectClause.Proofs.Validation.Traversal

/-! # What the entities of a catalog are read from

A catalog is read definition by definition and keeps the keys in their order
(`ofDefinitions_eq_ok_iff`). Completing a definition and reading it comes to reading it and naming
the entity after its key where it has no name (`ofFields_completed`). So the table of an entity can
be told from its definition alone (`Definition.StoredIn`), and with it the entities that a table
holds (`mem_entriesOf_iff`).
-/

namespace SelectClause

namespace Entity

variable {entity : Entity} {fields : Dict Value}

/-- What each field of an entity is read from. -/
structure ReadFrom (fields : Dict Value) (entity : Entity) : Prop where
  identity : identityField.given (Check.nullable Check.text) fields = .ok entity.identity
  table : tableField.given (Check.nullable Check.text) fields = .ok entity.table
  declared : attributesField.given (Check.dictionary Attribute.check) fields = .ok entity.declared
  extras : entity.extras = FieldName.others fieldNames fields

/-- An entity is read just if each of its fields is. -/
theorem ofFields_eq_ok_iff : ofFields fields = .ok entity ↔ entity.ReadFrom fields := by
  rw [ofFields]
  simp only [Checked.seq_eq_ok_iff, Checked.map_eq_ok_iff]
  constructor
  · rintro ⟨_, _, ⟨_, _, ⟨_, identity, rfl⟩, table, rfl⟩, declared, rfl⟩
    exact ⟨identity, table, declared, rfl⟩
  · rintro ⟨identity, table, declared, extras⟩
    refine ⟨_, _, ⟨_, _, ⟨_, identity, rfl⟩, table, rfl⟩, declared, ?_⟩
    rw [← extras]

/-- An entity with the name of its key wherever it does not name itself or its table. -/
def named (key : String) (entity : Entity) : Entity :=
  { entity with
    identity := some (entity.identity.getD (some key))
    table := some (entity.table.getD (some key)) }

end Entity

/-- A definition is that of an entity under a key. -/
def Definition.Defines (definition : Definition) (key : String) (entity : Entity) : Prop :=
  ∃ mapping, definition.mapping = .ok mapping ∧
    Catalog.checkEntity (.text key) mapping = .ok entity

/-- The table that a definition gives the entity of a key: the one that it names, in the preferred
spelling rather than the plain one, or else that of the key's name. -/
inductive StoredIn (key : String) (definition : Value) : Value → Prop where
  | preferred {mapping : Mapping} {table : Value} (read : Mapping.ofValue definition = .ok mapping)
      (given : mapping.fields.get? "tableName" = some table) : StoredIn key definition table
  | plain {mapping : Mapping} {table : Value} (read : Mapping.ofValue definition = .ok mapping)
      (absent : mapping.fields.get? "tableName" = none)
      (given : mapping.fields.get? "table_name" = some table) : StoredIn key definition table
  | unnamed {mapping : Mapping} (read : Mapping.ofValue definition = .ok mapping)
      (absent : mapping.fields.get? "tableName" = none)
      (absentPlain : mapping.fields.get? "table_name" = none) :
      StoredIn key definition (.text key)

/-- A definition is stored in one table. -/
theorem StoredIn.unique {key : String} {definition table other : Value}
    (first : StoredIn key definition table) (second : StoredIn key definition other) :
    table = other := by
  cases first <;> cases second <;> simp_all

/-- The value that a reference is given as. -/
def Reference.value : Reference → Value
  | .absent => .null
  | .name content => .text content
  | .number value => .int value

/-- A table is the one that the definition of a key gives the key's entity. -/
def TableOf (fields : Dict Value) (key : String) (table : Reference) : Prop :=
  ∃ definition, fields.get? key = some definition ∧ StoredIn key definition table.value

/-- A reference is given as a name that may be absent just if it is the reference by this name. -/
theorem Reference.value_eq_ofText?_iff {reference : Reference} {name : Option String} :
    reference.value = .ofText? name ↔ ofName? name = reference := by
  cases reference <;> cases name <;> simp [value, Value.ofText?, ofName?, eq_comm]

namespace Catalog

open Entity

/-- Completing a definition supplies its identity and then its table, each where it is missing. -/
theorem completed_eq_supply (key : Value) (fields : Dict Value) :
    completed key fields = tableField.supply key (identityField.supply key fields) := by
  have named : fields.insertIfNew identityField.plain key = identityField.supply key fields := by
    rw [FieldName.supply, Dict.insertIfNew, Dict.contains]
    cases held : fields.get? identityField.plain with
    | none =>
      have absent : identityField.find fields = none := FieldName.find_eq_none.2 ⟨held, held⟩
      rw [absent]
      rfl
    | some value =>
      have found : identityField.find fields = some (identityField.preferred, value) :=
        FieldName.find_of_preferred held
      rw [found]
      rfl
  rw [completed, named]
  rfl

/-- Reading completed fields is reading the fields and naming the entity. -/
theorem ofFields_completed (key : String) (fields : Dict Value) :
    ofFields (completed (.text key) fields) = named key <$> ofFields fields := by
  have apart : fieldNames.Pairwise FieldName.Apart := by decide
  have supplied : ∀ {name : FieldName} {others : Dict Value},
      name.find others = some ((name.find fields).getD (name.preferred, .text key)) →
        name.given (Check.nullable Check.text) others =
          (fun held => some (held.getD (some key))) <$>
            name.given (Check.nullable Check.text) fields := by
    intro name others found
    rw [FieldName.given, FieldName.given, found]
    cases name.find fields with
    | none => rfl
    | some field => cases Check.nullable Check.text field.2 <;> simp
  have identity : identityField.given (Check.nullable Check.text) (completed (.text key) fields) =
      (fun held => some (held.getD (some key))) <$>
        identityField.given (Check.nullable Check.text) fields := by
    apply supplied
    rw [completed_eq_supply, FieldName.find_supply_of_apart (by decide), FieldName.find_supply]
  have table : tableField.given (Check.nullable Check.text) (completed (.text key) fields) =
      (fun held => some (held.getD (some key))) <$>
        tableField.given (Check.nullable Check.text) fields := by
    apply supplied
    rw [completed_eq_supply, FieldName.find_supply, FieldName.find_supply_of_apart (by decide)]
  have declared : attributesField.given (Check.dictionary Attribute.check)
      (completed (.text key) fields) =
        attributesField.given (Check.dictionary Attribute.check) fields := by
    apply FieldName.given_congr
    rw [completed_eq_supply, FieldName.find_supply_of_apart (by decide),
      FieldName.find_supply_of_apart (by decide)]
  have extras : FieldName.others fieldNames (completed (.text key) fields) =
      FieldName.others fieldNames fields := by
    rw [completed_eq_supply, FieldName.others_supply apart (by simp [fieldNames]),
      FieldName.others_supply apart (by simp [fieldNames])]
  rw [ofFields, ofFields, identity, table, declared, extras]
  cases identityField.given (Check.nullable Check.text) fields <;>
    cases tableField.given (Check.nullable Check.text) fields <;>
    cases attributesField.given (Check.dictionary Attribute.check) fields <;> rfl

/-- The entity of a key and a mapping is that of the fields of the mapping, with its names. -/
theorem exists_readFrom_of_checkEntity {key : String} {mapping : Mapping} {entity : Entity}
    (checked : checkEntity (.text key) mapping = .ok entity) :
    ∃ read : Entity, read.ReadFrom mapping.fields ∧ entity = read.named key := by
  rw [checkEntity, seqLeft_eq, ofFields_completed] at checked
  simp only [Checked.seq_eq_ok_iff, Checked.map_eq_ok_iff] at checked
  obtain ⟨_, stray, ⟨_, ⟨read, passed, rfl⟩, rfl⟩, -, rfl⟩ := checked
  exact ⟨read, ofFields_eq_ok_iff.1 passed, rfl⟩

/-- The mapping of a definition, under the definition's key. -/
def MapsTo (given : String × Definition) (mapping : Value × Mapping) : Prop :=
  mapping.1 = .text given.1 ∧ given.2.mapping = .ok mapping.2

/-- The entity of a mapping, under the mapping's key. -/
def EntityOf (mapping : Value × Mapping) (held : String × Entity) : Prop :=
  mapping.1 = .text held.1 ∧ checkEntity mapping.1 mapping.2 = .ok held.2

/-- Definitions are read as mappings just if each of them is. -/
theorem mapM_mapping_eq_ok_iff {definitions : List (String × Definition)}
    {mappings : List (Value × Mapping)} :
    ((definitions.map fun entry => (Value.text entry.1, entry.2)).mapM fun entry =>
        (entry.1, ·) <$> entry.2.mapping) = .ok mappings ↔
      List.Forall₂ MapsTo definitions mappings := by
  rw [mapM_eq_ok_iff, List.forall₂_map_left_iff]
  refine iff_of_eq (congrArg (List.Forall₂ · definitions mappings) ?_)
  funext ⟨key, definition⟩ ⟨mappingKey, mapping⟩
  cases read : definition.mapping <;> simp [MapsTo, read, Functor.map, Except.map, eq_comm]

/-- Entities are read just if each mapping gives one, under a key that is a text. -/
theorem checkEntities_eq_ok_iff {mappings : List (Value × Mapping)} {entities : Dict Entity} :
    checkEntities mappings = .ok entities ↔
      ∃ held, List.Forall₂ EntityOf mappings held ∧ Dict.ofList held = entities := by
  have entry : ∀ (mapping : Value × Mapping) (held : String × Entity),
      (Prod.mk <$> checkKey mapping.1 <*> checkEntity mapping.1 mapping.2).under
          (.ofKey mapping.1) = .ok held ↔ EntityOf mapping held := by
    rintro ⟨key, mapping⟩ ⟨heldKey, entity⟩
    simp only [Checked.under_eq_ok_iff, Checked.seq_eq_ok_iff, Checked.map_eq_ok_iff, checkKey]
    constructor
    · rintro ⟨_, _, ⟨content, text, rfl⟩, read, same⟩
      cases same
      cases key <;> cases text
      exact ⟨rfl, read⟩
    · rintro ⟨text, read⟩
      cases text
      exact ⟨_, _, ⟨_, rfl, rfl⟩, read, rfl⟩
  simp only [checkEntities, Checked.map_eq_ok_iff, Checked.mapA_eq_ok_iff, entry]

/-- A definition stands for its entity by way of its mapping. -/
theorem exists_entityOf_iff {definitions : List (String × Definition)}
    {held : List (String × Entity)} :
    (∃ mappings, List.Forall₂ MapsTo definitions mappings ∧ List.Forall₂ EntityOf mappings held) ↔
      List.Forall₂ (fun given held => held.1 = given.1 ∧ given.2.Defines given.1 held.2) definitions
        held := by
  rw [exists_forall₂_iff]
  refine iff_of_eq (congrArg (List.Forall₂ · definitions held) ?_)
  funext given entry
  refine propext ⟨?_, ?_⟩
  · rintro ⟨⟨key, mapping⟩, ⟨same, read⟩, text, entity⟩
    cases same
    injection text with keys
    exact ⟨keys.symm, mapping, read, entity⟩
  · rintro ⟨same, mapping, read, entity⟩
    exact ⟨(.text given.1, mapping), ⟨rfl, read⟩, by rw [same], entity⟩

/-- A catalog is read just if its definitions are those of its entities, key by key. -/
theorem ofDefinitions_eq_ok_iff {definitions : List (String × Definition)} {catalog : Catalog}
    (distinct : (definitions.map Prod.fst).Nodup) :
    ofDefinitions (definitions.map fun entry => (.text entry.1, entry.2)) = .ok catalog ↔
      List.Forall₂ (fun given held => held.1 = given.1 ∧ given.2.Defines given.1 held.2) definitions
        catalog.entities.toList := by
  have passes : ofDefinitions (definitions.map fun entry => (.text entry.1, entry.2)) =
      .ok catalog ↔
        ∃ mappings, List.Forall₂ MapsTo definitions mappings ∧
          checkEntities mappings = .ok catalog.entities := by
    obtain ⟨entities⟩ := catalog
    simp only [← mapM_mapping_eq_ok_iff]
    rw [ofDefinitions]
    split
    · rename_i mappings passed
      rw [passed]
      cases read : checkEntities mappings <;> simp [read, Checked.orInvalid]
    · rename_i failed
      simp [failed]
    · rename_i failed
      simp [failed]
  simp only [passes, checkEntities_eq_ok_iff, ← exists_entityOf_iff]
  constructor
  · rintro ⟨mappings, read, held, checked, same⟩
    have keys := map_fst_of_forall₂ (exists_entityOf_iff.1 ⟨mappings, read, checked⟩)
    rw [← same, Dict.toList_ofList (keys ▸ distinct)]
    exact ⟨mappings, read, checked⟩
  · rintro ⟨mappings, read, checked⟩
    exact ⟨mappings, read, _, checked, Dict.ofList_toList _⟩

/-- What an entry of a schema is handed over as: an entity where it is read beforehand. -/
def HandedOver (beforehand : List String) (entry : String × Value) (given : String × Definition) :
    Prop :=
  given.1 = entry.1 ∧
    if entry.1 ∈ beforehand then ∃ read, Entity.check entry.2 = .ok read ∧ given.2 = .entity read
    else given.2 = .raw entry.2

/-- A schema is read beforehand just if each entry is handed over, under its key. -/
theorem readBeforehand_eq_ok_iff {beforehand : List String} {fields : Dict Value}
    {definitions : List (Value × Definition)} :
    readBeforehand beforehand fields = .ok definitions ↔
      ∃ handed, List.Forall₂ (HandedOver beforehand) fields.toList handed ∧
        handed.map (fun entry => (.text entry.1, entry.2)) = definitions := by
  have entry : ∀ (entry : String × Value) (given : Value × Definition),
      ((Value.text entry.1, ·) <$> (if entry.1 ∈ beforehand then
        Definition.entity <$> (Entity.check entry.2).orInvalid .entityDefinition
        else .ok (.raw entry.2)) : Except Failure (Value × Definition)) = .ok given ↔
      ∃ handed, HandedOver beforehand entry handed ∧ (.text handed.1, handed.2) = given := by
    rintro ⟨key, value⟩ given
    by_cases early : key ∈ beforehand
    · cases read : Entity.check value <;>
        simp [HandedOver, early, read, Checked.orInvalid, Functor.map, Except.map]
    · simp [HandedOver, early, Functor.map, Except.map]
  rw [readBeforehand, mapM_eq_ok_iff]
  simp only [entry, ← exists_forall₂_iff]
  refine exists_congr fun handed => and_congr_right fun _ => ?_
  rw [← List.forall₂_eq_eq_eq, List.forall₂_map_left_iff]

/-- A catalog is read from a record just if what its entries are handed over as defines the
entities, key by key. -/
theorem ofSchema_eq_ok_iff_handedOver {beforehand : List String} {schema : Value}
    {fields : Dict Value} {catalog : Catalog} (object : schema.fields? = some fields) :
    ofSchema beforehand schema = .ok catalog ↔
      List.Forall₂ (fun entry held => ∃ handed, HandedOver beforehand entry handed ∧
          held.1 = handed.1 ∧ handed.2.Defines handed.1 held.2) fields.toList
        catalog.entities.toList := by
  have steps : ofSchema beforehand schema =
      readBeforehand beforehand fields >>= ofDefinitions := by
    rw [ofSchema, object]
  rw [steps, bind_eq_ok_iff, ← exists_forall₂_iff]
  simp only [readBeforehand_eq_ok_iff]
  constructor
  · rintro ⟨_, ⟨handed, related, rfl⟩, built⟩
    have distinct : (handed.map Prod.fst).Nodup := map_fst_of_forall₂ related ▸ fields.distinct
    exact ⟨handed, related, (ofDefinitions_eq_ok_iff distinct).1 built⟩
  · rintro ⟨handed, related, defines⟩
    have distinct : (handed.map Prod.fst).Nodup := map_fst_of_forall₂ related ▸ fields.distinct
    exact ⟨_, ⟨handed, related, rfl⟩, (ofDefinitions_eq_ok_iff distinct).2 defines⟩

/-- A catalog is read from a record just if the record's values define its entities, key by key. -/
theorem ofSchema_eq_ok_iff {schema : Value} {fields : Dict Value} {catalog : Catalog}
    (object : schema.fields? = some fields) :
    ofSchema [] schema = .ok catalog ↔
      List.Forall₂ (fun given held =>
          held.1 = given.1 ∧ (Definition.raw given.2).Defines given.1 held.2) fields.toList
        catalog.entities.toList := by
  rw [ofSchema_eq_ok_iff_handedOver object]
  refine iff_of_eq (congrArg (List.Forall₂ · fields.toList catalog.entities.toList) ?_)
  funext entry held
  refine propext ⟨?_, ?_⟩
  · rintro ⟨⟨_, _⟩, ⟨rfl, rfl⟩, same, defines⟩
    exact ⟨same, defines⟩
  · rintro ⟨same, defines⟩
    exact ⟨(entry.1, .raw entry.2), ⟨rfl, rfl⟩, same, defines⟩

variable {key : String} {definition : Value} {entity : Entity} {catalog : Catalog}

/-- The table of an entity is the one that its definition gives it. -/
theorem storedIn_iff (defines : (Definition.raw definition).Defines key entity) {table : Value} :
    StoredIn key definition table ↔ table = .ofText? entity.tableName := by
  obtain ⟨mapping, read, checked⟩ := defines
  obtain ⟨given, readFrom, rfl⟩ := exists_readFrom_of_checkEntity checked
  have named : (given.named key).tableName = given.table.getD (some key) := rfl
  -- A field that was found is read as the text that it holds, or as no name.
  have written : ∀ {held : Value} {name : Option String},
      Check.nullable Check.text held = .ok name → held = .ofText? name := by
    intro held name passed
    cases held <;> cases passed <;> rfl
  have stored : StoredIn key definition (.ofText? (given.table.getD (some key))) := by
    rcases FieldName.given_eq_ok_iff_find.1 readFrom.table with
      ⟨missing, unnamed⟩ | ⟨spelling, held, name, found, passed, named⟩
    · obtain ⟨absent, absentPlain⟩ := FieldName.find_eq_none.1 missing
      rw [unnamed]
      exact .unnamed read absent absentPlain
    · rw [named, Option.getD_some, ← written passed]
      rcases FieldName.find_eq_some_iff.1 found with ⟨-, preferred⟩ | ⟨absent, -, plain⟩
      · exact .preferred read preferred
      · exact .plain read absent plain
  rw [named]
  constructor
  · intro other
    exact other.unique stored
  · rintro rfl
    exact stored

section Schema

variable {schema : Value} {fields : Dict Value}

/-- A catalog has the keys of the record that it is read from, in their order. -/
theorem keys_of_ofSchema (object : schema.fields? = some fields)
    (read : ofSchema [] schema = .ok catalog) : catalog.entities.keys = fields.keys :=
  map_fst_of_forall₂ ((ofSchema_eq_ok_iff object).1 read)

/-- The entities of a catalog are those that its definitions stand for. -/
theorem mem_entities_iff (object : schema.fields? = some fields)
    (read : ofSchema [] schema = .ok catalog) :
    (key, entity) ∈ catalog.entities.toList ↔
      ∃ definition, fields.get? key = some definition ∧
        (Definition.raw definition).Defines key entity := by
  have related := (ofSchema_eq_ok_iff object).1 read
  constructor
  · intro member
    obtain ⟨⟨given, definition⟩, among, rfl, defines⟩ := exists_of_forall₂ related member
    exact ⟨definition, Dict.get?_eq_some_iff.2 among, defines⟩
  · rintro ⟨definition, given, mapping, read, checked⟩
    obtain ⟨⟨held, other⟩, among, rfl, otherMapping, otherRead, otherChecked⟩ :=
      exists_of_forall₂ related.flip (Dict.get?_eq_some_iff.1 given)
    rw [read] at otherRead
    cases otherRead
    rw [checked] at otherChecked
    cases otherChecked
    exact among

/-- An entity is held by a table just if its definition gives it the table. -/
theorem mem_entriesOf_iff (object : schema.fields? = some fields)
    (read : ofSchema [] schema = .ok catalog) {table : Reference} :
    (key, entity) ∈ catalog.entriesOf table ↔
      ∃ definition, fields.get? key = some definition ∧
        (Definition.raw definition).Defines key entity ∧
        StoredIn key definition table.value := by
  rw [entriesOf, List.mem_filter, mem_entities_iff object read, decide_eq_true_iff,
    ← Reference.value_eq_ofText?_iff]
  constructor
  · rintro ⟨⟨definition, given, defines⟩, stored⟩
    exact ⟨definition, given, defines, (storedIn_iff defines).2 stored⟩
  · rintro ⟨definition, given, defines, stored⟩
    exact ⟨⟨definition, given, defines⟩, (storedIn_iff defines).1 stored⟩

/-- The candidates for a table are the keys whose definitions give it, in the order of the keys. -/
theorem mem_identitiesOf_iff (object : schema.fields? = some fields)
    (read : ofSchema [] schema = .ok catalog) {table : Reference} :
    key ∈ catalog.identitiesOf table ↔ TableOf fields key table := by
  rw [identitiesOf, List.mem_map]
  constructor
  · rintro ⟨⟨held, entity⟩, member, rfl⟩
    obtain ⟨definition, given, -, stored⟩ := (mem_entriesOf_iff object read).1 member
    exact ⟨definition, given, stored⟩
  · rintro ⟨definition, given, stored⟩
    obtain ⟨⟨held, entity⟩, among, rfl, defines⟩ :=
      exists_of_forall₂ ((ofSchema_eq_ok_iff object).1 read).flip (Dict.get?_eq_some_iff.1 given)
    exact ⟨_, (mem_entriesOf_iff object read).2 ⟨definition, given, defines, stored⟩, rfl⟩

/-- The candidates for a table stand in the order of the schema. -/
theorem identitiesOf_sublist (object : schema.fields? = some fields)
    (read : ofSchema [] schema = .ok catalog) (table : Reference) :
    (catalog.identitiesOf table).Sublist fields.keys := by
  rw [← keys_of_ofSchema object read]
  exact List.filter_sublist.map _

end Schema

end Catalog

end SelectClause

import SelectClause.Catalog.Entity
import SelectClause.Failure

/-! # Catalogs of entities

A catalog holds the entities of a schema by identity, in the order of the schema. An entity that
does not name itself or its table takes the missing name from its key. Definitions may be handed
over as values or as entities that were read before; the latter are written back and read like
the others.

`find_completed` says that a completed definition names its table.
-/

namespace SelectClause

/-- The definition of an entity as a caller hands it over. -/
inductive Definition where
  /-- A value that is still to be read. -/
  | raw (value : Value)
  | entity (definition : Entity)
  deriving Inhabited

/-- The mapping that a definition is read from, where an entity is written back first. -/
def Definition.mapping : Definition → Except MappingFault Mapping
  | .raw value => Mapping.ofValue value
  | .entity definition => .ok (Mapping.ofDict definition.written.toDict)

/-- The entities of a schema. -/
structure Catalog where
  entities : Dict Entity
  deriving Repr

namespace Catalog

instance : Inhabited Catalog := ⟨⟨∅⟩⟩

/-- The field that holds the entities, where a catalog is read from a record. -/
def entitiesField : FieldName := ⟨"entities", "entities"⟩

/-- The fields of a definition, where the identity and the table are named by the key unless they
are given. A table is given under either spelling. -/
def completed (key : Value) (fields : Dict Value) : Dict Value :=
  let named := fields.insertIfNew Entity.identityField.plain key
  if (Entity.tableField.find named).isSome then named
  else named.insert Entity.tableField.preferred key

/-- A completed definition names its table. -/
theorem find_completed (key : Value) (fields : Dict Value) :
    (Entity.tableField.find (completed key fields)).isSome := by
  rw [completed]
  split
  · assumption
  · simp [FieldName.find, Dict.get?_insert]

/-- A key that is a text. -/
def checkKey (key : Value) : Checked String :=
  (Check.text key).under (.key "[key]")

/-- The entity of a key and a mapping. Fields whose keys are no texts are refused. -/
def checkEntity (key : Value) (mapping : Mapping) : Checked Entity :=
  Entity.ofFields (completed key mapping.fields) <*
    mapping.strayKeys.mapA fun stray =>
      (Checked.fault .keyNotText : Checked Unit).under (.ofKey stray)

/-- The entities of all definitions by key. Issues are told apart by the key they stand behind. -/
def checkEntities (mappings : List (Value × Mapping)) : Checked (Dict Entity) :=
  Dict.ofList <$> mappings.mapA fun entry =>
    (Prod.mk <$> checkKey entry.1 <*> checkEntity entry.1 entry.2).under (.ofKey entry.1)

/-- The catalog of definitions by key. The first definition that is no mapping is refused: as an
issue of the entities where an element has a wrong length, and as no mapping at all else. -/
def ofDefinitions (definitions : List (Value × Definition)) : Except Failure Catalog :=
  match definitions.mapM fun entry => (entry.1, ·) <$> entry.2.mapping with
  | .ok mappings =>
      (Catalog.mk <$> (checkEntities mappings).under (.key entitiesField.plain)).orInvalid .catalog
  | .error .unsuited => .error (.noMapping .unsuited)
  | .error fault =>
      .error (.invalid .catalog [⟨[.key entitiesField.plain], .definitionMalformed fault⟩])

/-- Reads a catalog from a mapping of keys to definitions. -/
def ofValue (value : Value) : Except Failure Catalog :=
  match Mapping.ofValue value with
  | .ok mapping => ofDefinitions (mapping.entries.map fun entry => (entry.1, .raw entry.2))
  | .error fault => .error (.noMapping fault)

/-- The definitions of a schema in order, where those of the given identities are read
beforehand. -/
def readBeforehand (identities : List String) (schema : Dict Value) :
    Except Failure (List (Value × Definition)) :=
  schema.toList.mapM fun entry =>
    (.text entry.1, ·) <$>
      if entry.1 ∈ identities then
        .entity <$> (Entity.check entry.2).orInvalid .entityDefinition
      else .ok (.raw entry.2)

/-- Reads a catalog whose definitions of the given identities are read beforehand. -/
def ofSchema (identities : List String) (schema : Value) : Except Failure Catalog :=
  match schema.fields? with
  | some fields => readBeforehand identities fields >>= ofDefinitions
  | none => ofValue schema

/-- Reads a catalog from a record that holds the entities in a field. -/
def ofRecord (value : Value) : Except Failure Catalog :=
  match value.fields? with
  | none => .error (.invalid .catalog [⟨[], .notRecord .catalog⟩])
  | some fields =>
      match entitiesField.find fields with
      | none => .ok default
      | some (key, held) =>
          match held.fields? with
          | none => .error (.invalid .catalog [⟨[.key key], .notDictionary⟩])
          | some entities => ofValue (.ofDict entities)

end Catalog

end SelectClause

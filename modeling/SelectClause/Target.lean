import SelectClause.Catalog.Resolution
import SelectClause.Clause.Aggregate
import SelectClause.Compiled
import SelectClause.Query

/-! # Compiling queries against a target

A target is one entity of a catalog, and queries are compiled against it. A query that calculates
becomes an aggregate clause, in which joins and selections play no part. Any other query becomes a
projection of three parts: the columns of the requested attributes, the column for all columns if
the entity may have others, and the columns of the children that are inlined.

`Target.ofSchema` finds the target, `Target.columns` collects the projection, `Target.compile`
chooses between the two clauses, and `Target.compileSelect` is the whole way from a schema to a
clause. `outcome_joinColumns_of_inline` says what a join adds.
-/

namespace SelectClause

/-- An entity of a catalog that queries are compiled against. -/
structure Target where
  /-- The catalog that joins look up their children in. -/
  catalog : Catalog
  options : Options
  identity : String
  entity : Entity

namespace Target

/-- The target that a table of a catalog holds. -/
def ofTable (catalog : Catalog) (options : Options) (table : Reference) : Traced Target := do
  let entry ← catalog.locate table
  return { catalog, options, identity := entry.1, entity := entry.2 }

/-- The target that a table holds, where the schema and then the options are read first. The
definitions of some identities may be read before the schema is. -/
def ofSchema (beforehand : List String) (schema options : Value) (table : Reference) :
    Traced Target := do
  let catalog ← Catalog.ofSchema beforehand schema
  let options ← Options.ofValue options
  ofTable catalog options table

/-- The target of an identity, for which no table is looked up. -/
def ofIdentity (catalog : Catalog) (options : Options) (identity : Reference) :
    Except Failure Target := do
  let entity ← catalog.entity identity
  return { catalog, options, identity := identity.shown, entity }

/-- The table that clauses select from: that of the entity, or its identity where the entity has
no table or one of the empty name. -/
def tableName (target : Target) : String :=
  (target.entity.tableName.filter (· ≠ "")).getD target.identity

/-- The requested attributes, each once: the selection, or all declared attributes where there is
none, and then those of the fetch plan. -/
def requestedNames (target : Target) (query : Query) : List String :=
  let selected := query.select.getD target.entity.attributes.keys
  (selected ++ (query.fetchPlan.map FetchPlan.select).getD []).eraseDups

/-- The column that holds an attribute: the one that its definition names, or else the one that
stands for the attribute's name. -/
def columnOf (target : Target) (name : String) : Column where
  table := target.identity
  name := (target.entity.definitionOf name).declaredColumn.getD (target.options.identityColumn name)

/-- The column of a requested attribute. Collections have none. -/
def column? (target : Target) (name : String) : Traced (Option Column) :=
  if (target.entity.definitionOf name).isCollection then do
    Traced.log (.collectionSkipped name target.identity)
    return none
  else pure (some (target.columnOf name))

/-- The column for all columns, where the entity may have undeclared attributes and none are
selected. -/
def wildcardColumns (target : Target) (query : Query) : List Column :=
  if query.schemaless && !query.hasSelection then
    [{ table := target.identity, name := target.options.wildcard }]
  else []

/-- The table of the columns of an inlined child: the marked alias, or the child's own table where
there is no alias. -/
def childTable (options : Options) (population : Population) : String :=
  match population.aliasName.filter (· ≠ "") with
  | some aliasName => options.aliasTableMark ++ aliasName
  | none => population.child

/-- The columns of an inlined child, with the key of the parent for each. -/
def childColumns (options : Options) (population : Population) (child : Entity) : List Column :=
  child.projectable.map fun entry => {
    table := childTable options population
    name := entry.2.physicalName entry.1
    key := population.parentKey }

/-- The columns of the child of a population, inlined under the name of the join. -/
def inlineColumns (target : Target) (name : String) (population : Population) :
    Traced (List Column) := do
  let child ← target.catalog.locate (.name population.child)
  Traced.log (.joinInlined child.1 name (childTable target.options population))
  return childColumns target.options population child.2

/-- The columns that a join adds: those of its first child, if the join is inlined. -/
def joinColumns (target : Target) (name : String) (join : Join) : Traced (List Column) :=
  if join.isInline then
    match join.populations with
    | [] => pure []
    | population :: _ => target.inlineColumns name population
  else do
    Traced.log (.joinLeft name join.strategy)
    return []

/-- The columns of a projection: those of the requested attributes, the one for all columns and
those of the joins. -/
def collected (target : Target) (query : Query) : Traced (List Column) := do
  let own ← (target.requestedNames query).mapM target.column?
  let joined ← query.joins.toList.mapM fun entry => target.joinColumns entry.1 entry.2
  return own.filterMap id ++ target.wildcardColumns query ++ joined.flatten

/-- The columns of a projection, for the entity that the catalog has under the target's
identity. -/
def columns (target : Target) (query : Query) : Traced (List Column) := do
  let entity ← target.catalog.entity (.name target.identity)
  { target with entity }.collected query

/-- Compiles a query into an aggregate clause if it asks for one, and into a projection else. -/
def compile (target : Target) (query : Query) : Traced Compiled := do
  let aggregate ← (query.aggregation.map some).clause? target.options (some target.tableName)
  match aggregate with
  | some clause =>
      Traced.log (.aggregateCompiled target.identity)
      return Compiled.aggregate clause
  | none =>
      let columns ← target.columns query
      Traced.log (.projectionCompiled columns.length target.identity)
      return Compiled.projection target.options columns target.tableName

/-- Reads a query and compiles it. -/
def build (target : Target) (query : Value) : Traced Compiled := do
  let query ← Query.ofValue query
  target.compile query

/-- Compiles one query: reads the schema and the options, finds the target and builds. -/
def compileSelect (schema options : Value) (table : Reference) (query : Value) :
    Traced Compiled := do
  let target ← ofSchema [] schema options table
  target.build query

/-- An inlined join adds the columns of its first child. -/
theorem outcome_joinColumns_of_inline (target : Target) (name : String) {join : Join}
    {population : Population} {rest : List Population} {child : String × Entity}
    (inlined : join.isInline = true) (populated : join.populations = population :: rest)
    (held : target.catalog.entriesOf (.name population.child) = [child]) :
    (target.joinColumns name join).outcome =
      .ok (childColumns target.options population child.2) := by
  have located : (target.catalog.locate (.name population.child)).outcome = .ok child := by
    rw [Catalog.outcome_locate, Catalog.resolve_eq_ok_iff.2 held]
  simp only [joinColumns, inlined, populated, ↓reduceIte, inlineColumns]
  rw [Traced.outcome_bind_ok located, Traced.outcome_bind_ok rfl]
  rfl

end Target

end SelectClause

import SelectClause.Proofs.Target.Projecting

/-! # Aliases of inlined columns

The columns of an inlined child stand together in a projection (`exists_inlined`). Each is to have a
composite alias of the parent's key for the child, so that it is not taken for a column of the
target. It has one just if the population gives that key and the key is not empty
(`item_eq_aliasedItem_iff`); without the key, the columns of the child are written like those of the
target (`inlined_without_key`).
-/

namespace SelectClause

/-- The item that keeps an inlined column apart from those of the target. -/
def aliasedItem (options : Options) (key column : String) : String :=
  options.escape (some column) ++ " AS " ++
    options.quoteAlias (key ++ options.aliasSeparator ++ column)

/-- A column has the item that keeps it apart just if it has a key that is not empty. -/
theorem item_eq_aliasedItem_iff {options : Options} {column : String} {key : Option String} :
    Projection.item options (some column) key = aliasedItem options (key.getD "") column ↔
      ∃ name, key = some name ∧ name ≠ "" := by
  have shorter : options.escape (some column) ≠ aliasedItem options (key.getD "") column := by
    intro same
    have lengths := congrArg (fun text => text.toList.length) same
    simp [aliasedItem] at lengths
  rcases key with _ | name
  · have plain : Projection.effectiveKey none = none := rfl
    simpa [Projection.item_of_no_key options (some column) plain] using shorter
  · by_cases empty : name = ""
    · subst empty
      have plain : Projection.effectiveKey (some "") = none := rfl
      simpa [Projection.item_of_no_key options (some column) plain] using shorter
    · rw [Projection.item_of_key options column empty]
      simp [aliasedItem, empty]

/-- A related list has a value for every item of the other. -/
theorem exists_append_of_forall₂ {α β : Type} {related : α → β → Prop} {items : List α}
    {values : List β} (relates : List.Forall₂ related items values) {item : α}
    (member : item ∈ items) :
    ∃ front value back, related item value ∧ values = front ++ value :: back := by
  induction relates with
  | nil => cases member
  | @cons first firstValue items values head tail ih =>
    rcases List.mem_cons.1 member with rfl | member
    · exact ⟨[], firstValue, values, head, rfl⟩
    · obtain ⟨front, value, back, relates, rfl⟩ := ih member
      exact ⟨firstValue :: front, value, back, relates, rfl⟩

namespace Target

variable {target : Target} {query : Query} {compiled : Compiled}

/-- The columns of an inlined child stand together in a projection. -/
theorem exists_inlined (held : target.Held)
    (succeeds : (target.compile query).outcome = .ok compiled)
    (projects : compiled.mode = .projection) {name : String} {join : Join}
    {population : Population} {rest : List Population}
    (joined : (name, join) ∈ query.joins.toList) (inlined : join.strategy = .hasForeignKey)
    (populated : join.populations = population :: rest) :
    ∃ (child : String × Entity) (front back : List Column),
      target.catalog.entriesOf (.name population.child) = [child] ∧
      compiled.columns =
        front ++ childColumns target.options population child.2 ++ back := by
  obtain ⟨groups, adds, collects⟩ := columns_of_mode held succeeds projects
  obtain ⟨front, added, back, addsJoin, split⟩ := exists_append_of_forall₂ adds joined
  cases addsJoin with
  | left elsewhere => exact absurd inlined elsewhere
  | unpopulated none =>
    rw [populated] at none
    cases none
  | inlined _ first single placed =>
    rw [populated] at first
    cases first
    refine ⟨_, target.ownColumns query ++ target.wildcardColumns query ++ front.flatten,
      back.flatten, single, ?_⟩
    rw [collects, split, placed_inlines_iff.1 placed]
    simp [List.append_assoc]

/-- **Inlined columns have composite aliases just if the parent's key is given.** The columns of the
first child of an inlined join stand in the projection, in the order of declaration and without
collections, and are written into the statement. They all have a composite alias of the parent's key
just if this key is given and not empty, or if there are none of them. -/
theorem inlined_aliased_iff {beforehand : List String} {schema given : Value} {table : Reference}
    (found : (ofSchema beforehand schema given table).outcome = .ok target)
    (succeeds : (target.compile query).outcome = .ok compiled)
    (projects : compiled.mode = .projection) {name : String} {join : Join}
    {population : Population} {rest : List Population}
    (joined : (name, join) ∈ query.joins.toList) (inlined : join.strategy = .hasForeignKey)
    (populated : join.populations = population :: rest) :
    ∃ (child : String × Entity) (front inner back : List Column),
      target.catalog.entriesOf (.name population.child) = [child] ∧
      Placed (fun entry => entry.2.collection ≠ none) (Inlines target.options population)
        child.2.attributes.toList inner ∧
      compiled.columns = front ++ inner ++ back ∧
      compiled.select = [Clause.select
        (compiled.columns.map fun column =>
          Projection.item target.options (some column.name) column.key)
        (target.options.escape (some target.tableName))] ∧
      ((∀ column ∈ inner, Projection.item target.options (some column.name) column.key =
          aliasedItem target.options (population.parentKey.getD "") column.name) ↔
        (∃ key, population.parentKey = some key ∧ key ≠ "") ∨ inner = []) := by
  obtain ⟨child, front, back, single, collects⟩ :=
    exists_inlined (held_of_ofSchema found) succeeds projects joined inlined populated
  obtain ⟨-, projection⟩ := eq_projection_of_mode succeeds projects
  refine ⟨child, front, _, back, single, placed_inlines_iff.2 rfl, collects, ?_, ?_⟩
  · rw [projection]
    simp only [Compiled.projection, Projection.clause, List.map_map, Function.comp_def]
  · have keyed : ∀ column ∈ childColumns target.options population child.2,
        column.key = population.parentKey := by
      intro column member
      obtain ⟨entry, -, rfl⟩ := List.mem_map.1 member
      rfl
    constructor
    · intro aliased
      cases columns : childColumns target.options population child.2 with
      | nil => exact .inr rfl
      | cons column others =>
        have member : column ∈ childColumns target.options population child.2 := by simp [columns]
        have item := aliased column member
        rw [keyed column member, item_eq_aliasedItem_iff] at item
        exact .inl item
    · rintro (key | none) column member
      · rw [keyed column member, item_eq_aliasedItem_iff]
        exact key
      · rw [none] at member
        cases member

/-- The owners are inlined with their key, and their columns are aliased. -/
theorem inlined_aliased_iff_shelter :
    (ofSchema [] shelterSchema .null (.name "pets")).outcome = .ok shelterTarget ∧
      (shelterTarget.compile shelterQuery).outcome = .ok shelterProjection ∧
      shelterProjection.mode = .projection ∧
      ∃ join population, ("owner", join) ∈ shelterQuery.joins.toList ∧
        join.strategy = .hasForeignKey ∧ join.populations = [population] ∧
        ∃ front inner back, shelterProjection.columns = front ++ inner ++ back ∧
          ∀ column ∈ inner, Projection.item {} (some column.name) column.key =
            aliasedItem {} "owner" column.name := by
  have found : (ofSchema [] shelterSchema .null (.name "pets")).outcome = .ok shelterTarget := rfl
  have succeeds : (shelterTarget.compile shelterQuery).outcome = .ok shelterProjection := rfl
  have joined : ("owner", Join.mk .hasForeignKey
      [{ child := "users", parentKey := some "owner", aliasName := some "keeper" }]) ∈
        shelterQuery.joins.toList := List.mem_singleton.2 rfl
  obtain ⟨-, front, inner, back, -, -, collects, -, aliased⟩ :=
    inlined_aliased_iff found succeeds rfl joined rfl rfl
  exact ⟨found, succeeds, rfl, _, _, joined, rfl, rfl, front, inner, back, collects,
    aliased.2 (.inl ⟨"owner", rfl, by decide⟩)⟩

/-- Pets that have a name like their owners. -/
def kennelSchema : Value := .record [
  ("pet", .record [("tableName", .text "pets"), ("attributes", .record [
    ("name", .text "string"), ("owner", .record [("model", .text "user")])])]),
  ("user", .record [("tableName", .text "users"), ("attributes", .record [
    ("name", .text "string")])])]

/-- The names of pets with the names of their owners, where the join may give further fields. -/
def kennelQuery (more : List (String × Value)) : Value := .record [
  ("select", .list [.text "name"]),
  ("instructions", .record [("owner", .record [("strategy", .int 1), ("instructions", .list [
    .record (("child", .text "users") :: more)])])])]

/-- The names of pets and of their owners, both as columns of the row. -/
def kennelProjection (key : Option String) : Compiled := Compiled.projection {} [
  { table := "pet", name := "name" }, { table := "users", name := "name", key }] "pets"

/-- Without a key that counts, the owners' names are written like those of the pets, and the item
that would keep them apart is not in the statement. -/
theorem statement_kennelProjection {key : Option String}
    (plain : Projection.effectiveKey key = none) :
    (kennelProjection key).statement = "SELECT \"name\", \"name\" FROM \"pets\" " ∧
      ¬ (aliasedItem {} "" "name").toList <:+: (kennelProjection key).statement.toList := by
  have statement : (kennelProjection key).statement =
      "SELECT \"name\", \"name\" FROM \"pets\" " := by
    simp only [kennelProjection, Compiled.projection, Compiled.statement, Projection.clause,
      List.map_cons, List.map_nil, Projection.item, plain]
    rfl
  refine ⟨statement, ?_⟩
  -- The item has the word between a column and its alias, and the statement has no such letter.
  intro inside
  rw [statement] at inside
  have letter : 'A' ∈ (aliasedItem {} "" "name").toList := by decide
  exact absurd (inside.subset letter) (by decide)

/-- The owners' names pass for those of the pets where the parent's key is empty, and likewise where
it is left out. -/
theorem inlined_without_key :
    (∃ compiled, (compileSelect kennelSchema .null (.name "pets")
          (kennelQuery [("parentKey", .text "")])).outcome = .ok compiled ∧
        compiled.mode = .projection ∧ compiled.columns.map Column.table = ["pet", "users"] ∧
        compiled.statement = "SELECT \"name\", \"name\" FROM \"pets\" " ∧
        ¬ (aliasedItem {} "" "name").toList <:+: compiled.statement.toList) ∧
      ∃ compiled, (compileSelect kennelSchema .null (.name "pets") (kennelQuery [])).outcome =
          .ok compiled ∧
        compiled.mode = .projection ∧ compiled.columns.map Column.table = ["pet", "users"] ∧
        compiled.statement = "SELECT \"name\", \"name\" FROM \"pets\" " :=
  ⟨⟨kennelProjection (some ""), rfl, rfl, rfl, statement_kennelProjection rfl⟩,
    ⟨kennelProjection none, rfl, rfl, rfl, (statement_kennelProjection rfl).1⟩⟩

end Target

end SelectClause

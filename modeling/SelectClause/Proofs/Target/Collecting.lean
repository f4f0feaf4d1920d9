import Mathlib.Data.List.Forall2
import SelectClause.Proofs.Catalog.ColumnName
import SelectClause.Proofs.Target.Refusal

/-! # What the columns of a projection are collected from

The columns of a projection are those of the target, the one for all columns, and those that the
joins add, join after join (`collected_eq_ok_iff`). What a join adds is stated as a relation between
the join and its columns (`Join.Adds`): nothing, or one column for every attribute of the first
child that is no collection, in the order of declaration (`Placed`). Collecting follows the relation
(`joinColumns_eq_ok_iff`).
-/

namespace SelectClause

/-- A traversal succeeds just if all its steps do, with the values of the steps in order. -/
theorem Traced.outcome_mapM_eq_ok_iff {α β : Type} {step : α → Traced β} {items : List α}
    {values : List β} :
    (items.mapM step).outcome = .ok values ↔
      List.Forall₂ (fun item value => (step item).outcome = .ok value) items values := by
  induction items generalizing values with
  | nil =>
    rw [List.forall₂_nil_left_iff]
    constructor
    · intro same
      cases same
      rfl
    · rintro rfl
      rfl
  | cons item items ih =>
    rw [List.mapM_cons, List.forall₂_cons_left_iff]
    cases ran : (step item).outcome with
    | error failure =>
      rw [outcome_bind_error ran]
      simp
    | ok value =>
      rw [outcome_bind_ok ran, outcome_bind]
      cases rest : (items.mapM step).outcome with
      | error failure => simp [Except.bind, ← ih, rest]
      | ok others => simp [Except.bind, ← ih, rest, eq_comm]

/-- Every item gives one column in its place, apart from those that are passed over. -/
inductive Placed {α : Type} (passed : α → Prop) (gives : α → Column → Prop) :
    List α → List Column → Prop where
  | nil : Placed passed gives [] []
  | pass {item : α} {items : List α} {columns : List Column} (passes : passed item)
      (rest : Placed passed gives items columns) : Placed passed gives (item :: items) columns
  | give {item : α} {items : List α} {column : Column} {columns : List Column}
      (kept : ¬ passed item) (given : gives item column)
      (rest : Placed passed gives items columns) :
      Placed passed gives (item :: items) (column :: columns)

/-- Passing over and giving by functions is filtering and mapping. -/
theorem placed_iff {α : Type} {passed : α → Prop} {gives : α → Column → Prop} {skips : α → Bool}
    {columnOf : α → Column} (skipped : ∀ item, passed item ↔ skips item = true)
    (given : ∀ item column, gives item column ↔ column = columnOf item) {items : List α}
    {columns : List Column} :
    Placed passed gives items columns ↔
      columns = (items.filter fun item => !skips item).map columnOf := by
  constructor
  · intro placed
    induction placed with
    | nil => rfl
    | pass passes _ ih => simp [(skipped _).1 passes, ih]
    | give kept gave _ ih =>
      have stays := Bool.eq_false_iff.2 ((skipped _).not.1 kept)
      simp [stays, (given _ _).1 gave, ih]
  · rintro rfl
    induction items with
    | nil => exact .nil
    | cons item items ih =>
      cases skip : skips item with
      | true =>
        rw [List.filter_cons_of_neg (by simp [skip])]
        exact .pass ((skipped item).2 skip) ih
      | false =>
        rw [List.filter_cons_of_pos (by simp [skip]), List.map_cons]
        refine .give ?_ ((given _ _).2 rfl) ih
        rw [skipped, skip]
        exact Bool.false_ne_true

/-- The column of an attribute of an inlined child: it is said to come from the marked alias of the
child, or from its table where it has no alias, and has the parent's key for the child. -/
structure Inlines (options : Options) (population : Population) (entry : String × Attribute)
    (column : Column) : Prop where
  table : (∃ aliasName, population.aliasName = some aliasName ∧ aliasName ≠ "" ∧
      column.table = options.aliasTableMark ++ aliasName) ∨
    ((population.aliasName = none ∨ population.aliasName = some "") ∧
      column.table = population.child)
  name : entry.2.StoredAs (· = entry.1) column.name
  key : column.key = population.parentKey

/-- The columns that a join adds. -/
inductive Join.Adds (catalog : Catalog) (options : Options) (join : Join) :
    List Column → Prop where
  /-- The join is left to later stages. -/
  | left (elsewhere : join.strategy ≠ .hasForeignKey) : Adds catalog options join []
  | unpopulated (none : join.populations = []) : Adds catalog options join []
  /-- The first child is inlined, without its collections. -/
  | inlined {population : Population} {rest : List Population} {child : String × Entity}
      {columns : List Column} (strategy : join.strategy = .hasForeignKey)
      (populated : join.populations = population :: rest)
      (held : catalog.entriesOf (.name population.child) = [child])
      (placed : Placed (fun entry => entry.2.collection ≠ none) (Inlines options population)
        child.2.attributes.toList columns) :
      Adds catalog options join columns

/-- An attribute is a collection just if the field is given. -/
theorem Attribute.isCollection_iff {definition : Attribute} :
    definition.isCollection = true ↔ definition.collection ≠ none := by
  rw [isCollection, Option.isSome_iff_ne_none]

namespace Target

variable {target : Target} {query : Query} {columns : List Column}

/-- The table of a child is the marked alias, or its own where the alias is absent or empty. -/
theorem childTable_eq_iff {options : Options} {population : Population} {table : String} :
    ((∃ aliasName, population.aliasName = some aliasName ∧ aliasName ≠ "" ∧
        table = options.aliasTableMark ++ aliasName) ∨
      ((population.aliasName = none ∨ population.aliasName = some "") ∧
        table = population.child)) ↔ table = childTable options population := by
  rw [childTable]
  rcases population.aliasName with _ | aliasName
  · simp
  · by_cases empty : aliasName = "" <;> simp [Option.filter, empty]

/-- An attribute of a child is inlined as one column. -/
theorem inlines_iff {options : Options} {population : Population} {entry : String × Attribute}
    {column : Column} :
    Inlines options population entry column ↔
      column = {
        table := childTable options population
        name := entry.2.physicalName entry.1
        key := population.parentKey } := by
  have named : entry.2.StoredAs (· = entry.1) column.name ↔
      column.name = entry.2.physicalName entry.1 :=
    Attribute.storedAs_iff_eq_getD fun _ => Iff.rfl
  constructor
  · rintro ⟨table, name, key⟩
    obtain ⟨columnTable, columnName, columnKey⟩ := column
    rw [Column.mk.injEq]
    exact ⟨childTable_eq_iff.1 table, named.1 name, key⟩
  · rintro rfl
    exact ⟨childTable_eq_iff.2 rfl, named.2 rfl, rfl⟩

/-- The columns of an inlined child are those of its attributes that are no collections. -/
theorem placed_inlines_iff {options : Options} {population : Population} {child : Entity} :
    Placed (fun entry => entry.2.collection ≠ none) (Inlines options population)
        child.attributes.toList columns ↔
      columns = childColumns options population child := by
  refine placed_iff (fun entry => Attribute.isCollection_iff.symm) ?_
  intro entry column
  exact inlines_iff

/-- A join that is left to later stages adds nothing. -/
theorem outcome_joinColumns_of_left (target : Target) (name : String) {join : Join}
    (elsewhere : join.strategy ≠ .hasForeignKey) :
    (target.joinColumns name join).outcome = .ok [] := by
  have left : join.isInline = false := by simpa [Join.isInline] using elsewhere
  rw [joinColumns, left]
  rfl

/-- A join without populations adds nothing. -/
theorem outcome_joinColumns_of_unpopulated (target : Target) (name : String) {join : Join}
    (none : join.populations = []) : (target.joinColumns name join).outcome = .ok [] := by
  rw [joinColumns, none]
  split <;> rfl

/-- Expanding a join gives the columns that it adds. -/
theorem joinColumns_eq_ok_iff {name : String} {join : Join} :
    (target.joinColumns name join).outcome = .ok columns ↔
      join.Adds target.catalog target.options columns := by
  constructor
  · intro added
    by_cases strategy : join.strategy = .hasForeignKey
    · cases populations : join.populations with
      | nil =>
        rw [outcome_joinColumns_of_unpopulated target name populations] at added
        cases added
        exact .unpopulated populations
      | cons population rest =>
        have inlined : join.isInline = true := by simp [Join.isInline, strategy]
        -- The child was found, or else nothing would have been added.
        cases resolved : target.catalog.resolve (.name population.child) with
        | ok child =>
          have held := Catalog.resolve_eq_ok_iff.1 resolved
          rw [outcome_joinColumns_of_inline target name inlined populations held] at added
          cases added
          exact .inlined strategy populations held (placed_inlines_iff.2 rfl)
        | error failure =>
          obtain ⟨several, -⟩ := Catalog.resolve_eq_error_iff.1 resolved
          have unresolved : join.Unresolved target.catalog population.child :=
            ⟨strategy, ⟨population, rest, populations, rfl⟩, several⟩
          rw [joinColumns_eq_error_iff.2 ⟨_, unresolved, rfl⟩] at added
          cases added
    · rw [outcome_joinColumns_of_left target name strategy] at added
      cases added
      exact .left strategy
  · intro adds
    cases adds with
    | left elsewhere => exact outcome_joinColumns_of_left target name elsewhere
    | unpopulated none => exact outcome_joinColumns_of_unpopulated target name none
    | inlined strategy populated held placed =>
      have inlined : join.isInline = true := by simp [Join.isInline, strategy]
      rw [outcome_joinColumns_of_inline target name inlined populated held,
        placed_inlines_iff.1 placed]

/-- The columns of the requested attributes that are no collections. -/
def ownColumns (target : Target) (query : Query) : List Column :=
  ((target.requestedNames query).filter fun name =>
    !(target.entity.definitionOf name).isCollection).map target.columnOf

/-- Collecting the columns of the requested attributes never fails. -/
theorem outcome_mapM_column? (target : Target) (names : List String) :
    (names.mapM target.column?).outcome =
      .ok (names.map fun name =>
        if (target.entity.definitionOf name).isCollection then none
        else some (target.columnOf name)) := by
  rw [Traced.outcome_mapM_eq_ok_iff, List.forall₂_map_right_iff, List.forall₂_same]
  intro name _
  rw [column?]
  split <;> rfl

/-- What is collected are the columns of the target, the one for all columns and those that the
joins add, in the order of the joins. -/
theorem collected_eq_ok_iff :
    (target.collected query).outcome = .ok columns ↔
      ∃ joined, List.Forall₂ (fun entry added =>
          Join.Adds target.catalog target.options entry.2 added) query.joins.toList joined ∧
        columns = target.ownColumns query ++ target.wildcardColumns query ++ joined.flatten := by
  have own : ∀ names : List String, (names.map fun name =>
      if (target.entity.definitionOf name).isCollection then none
      else some (target.columnOf name)).filterMap id =
        (names.filter fun name => !(target.entity.definitionOf name).isCollection).map
          target.columnOf := by
    intro names
    rw [List.filterMap_map, Function.id_comp]
    induction names with
    | nil => rfl
    | cons name names ih =>
      cases collection : (target.entity.definitionOf name).isCollection <;> simp [collection, ih]
  have expanded : ∀ joined, List.Forall₂ (fun entry added =>
      Join.Adds target.catalog target.options entry.2 added) query.joins.toList joined ↔
        (query.joins.toList.mapM fun entry => target.joinColumns entry.1 entry.2).outcome =
          .ok joined := by
    intro joined
    rw [Traced.outcome_mapM_eq_ok_iff]
    simp only [joinColumns_eq_ok_iff]
  rw [collected, Traced.outcome_bind_ok (outcome_mapM_column? target _), own, ← ownColumns,
    Traced.outcome_bind]
  simp only [expanded]
  cases (query.joins.toList.mapM fun entry => target.joinColumns entry.1 entry.2).outcome with
  | error failure => simp [Except.bind]
  | ok joined => simp [Except.bind, eq_comm]

/-- A target is found in a schema just if the schema and the options are valid and the table holds
one entity, which is the target's. -/
theorem ofSchema_eq_ok_iff {beforehand : List String} {schema given : Value} {table : Reference} :
    (ofSchema beforehand schema given table).outcome = .ok target ↔
      Catalog.ofSchema beforehand schema = .ok target.catalog ∧
        Options.ofValue given = .ok target.options ∧
        target.catalog.entriesOf table = [(target.identity, target.entity)] := by
  cases read : Catalog.ofSchema beforehand schema with
  | error failure =>
    rw [ofSchema, read, Traced.liftM_eq, Traced.ofExcept_error_bind]
    simp
  | ok catalog =>
    cases chosen : Options.ofValue given with
    | error failure =>
      rw [ofSchema, read, chosen, Traced.liftM_eq, Traced.ofExcept_ok_bind, Traced.liftM_eq,
        Traced.ofExcept_error_bind]
      simp
    | ok options =>
      rw [ofSchema_eq_ofTable read chosen, outcome_ofTable, ← Catalog.resolve_eq_ok_iff]
      constructor
      · intro found
        cases resolved : catalog.resolve table with
        | error failure =>
          rw [resolved] at found
          cases found
        | ok entry =>
          rw [resolved] at found
          cases found
          exact ⟨rfl, rfl, resolved⟩
      · rintro ⟨sameCatalog, sameOptions, resolved⟩
        cases sameCatalog
        cases sameOptions
        rw [resolved]
        rfl

/-- A target that is found in a schema is held by its catalog. -/
theorem held_of_ofSchema {beforehand : List String} {schema given : Value} {table : Reference}
    (found : (ofSchema beforehand schema given table).outcome = .ok target) : target.Held := by
  obtain ⟨-, -, single⟩ := ofSchema_eq_ok_iff.1 found
  exact Catalog.entity_of_resolve_eq_ok (Catalog.resolve_eq_ok_iff.2 single)

/-- The columns of a result in projection mode, for a target that a schema has. -/
theorem columns_of_mode {compiled : Compiled} (held : target.Held)
    (succeeds : (target.compile query).outcome = .ok compiled)
    (projects : compiled.mode = .projection) :
    ∃ joined, List.Forall₂ (fun entry added =>
        Join.Adds target.catalog target.options entry.2 added) query.joins.toList joined ∧
      compiled.columns =
        target.ownColumns query ++ target.wildcardColumns query ++ joined.flatten := by
  obtain ⟨collects, -⟩ := eq_projection_of_mode succeeds projects
  rw [columns_of_held held, collected_eq_ok_iff] at collects
  exact collects

end Target

end SelectClause

import SelectClause.Target

/-! # What compiling comes to

Compiling a query has three ends: the projection of the collected columns where nothing is
aggregated, a refusal where columns are grouped and nothing is calculated, and the aggregate clause
(`outcome_compile`). A result in projection mode therefore is the projection of the columns that
were collected (`eq_projection_of_mode`).
-/

namespace SelectClause

namespace Target

variable {target : Target} {query : Query} {compiled : Compiled}

/-- A query is projected unless it asks for an aggregation, which fails if nothing is calculated. -/
theorem outcome_compile (target : Target) (query : Query) :
    (target.compile query).outcome =
      if !query.aggregation.requested then
        (target.columns query).outcome.map fun columns =>
          Compiled.projection target.options columns target.tableName
      else if !query.aggregation.hasCalculation then .error .noCalculation
      else .ok (Compiled.aggregate (Clause.select
        ((query.aggregation.map some).items target.options)
        (target.options.escape (some target.tableName)))) := by
  rw [compile, Traced.outcome_bind, Aggregation.outcome_clause?, Aggregation.requested_map,
    Aggregation.hasCalculation_map]
  cases requested : query.aggregation.requested with
  | false =>
    simp only [Bool.not_false, ↓reduceIte, Except.bind, Traced.outcome_bind, Except.map]
    cases (target.columns query).outcome <;> rfl
  | true =>
    cases calculates : query.aggregation.hasCalculation with
    | false =>
      simp only [Bool.not_true, Bool.not_false, Bool.false_eq_true, ↓reduceIte, Except.bind]
    | true => rfl

/-- A result in projection mode is the projection of the collected columns. -/
theorem eq_projection_of_mode (succeeds : (target.compile query).outcome = .ok compiled)
    (projects : compiled.mode = .projection) :
    (target.columns query).outcome = .ok compiled.columns ∧
      compiled = Compiled.projection target.options compiled.columns target.tableName := by
  rw [outcome_compile] at succeeds
  split at succeeds
  · cases collected : (target.columns query).outcome with
    | error failure => simp [collected, Except.map] at succeeds
    | ok columns =>
      rw [collected] at succeeds
      obtain rfl : Compiled.projection target.options columns target.tableName = compiled := by
        simpa [Except.map] using succeeds
      exact ⟨rfl, rfl⟩
  · split at succeeds
    · cases succeeds
    · cases succeeds
      cases projects

end Target

/-- Pets in a table with delimiters in its name, and their owners. -/
def petTarget : Target where
  catalog := ⟨Dict.ofList [
    ("pet", {
      table := some (some "pets \"all\", FROM")
      declared := some (Dict.ofList [
        ("na\"me", {}), ("owner", { columnName := some (some "owner\" AS") })]) }),
    ("user", { table := some (some "users"), declared := some (Dict.ofList [("name", {})]) })]⟩
  options := {}
  identity := "pet"
  entity := {
    table := some (some "pets \"all\", FROM")
    declared := some (Dict.ofList [
      ("na\"me", {}), ("owner", { columnName := some (some "owner\" AS") })]) }

/-- Pets with their owners. -/
def petQuery : Query where
  joins := Dict.ofList [("owner", {
    strategy := .hasForeignKey
    populations := [{ child := "users", parentKey := some "owner" }] })]

/-- Pets with their owners, compiled. -/
def petProjection : Compiled where
  select := ["SELECT \"na\"\"me\", \"owner\"\" AS\", \"name\" AS \"owner___name\" " ++
    "FROM \"pets \"\"all\"\", FROM\" "]
  mode := .projection
  selectionConsumed := true
  columns := [
    { table := "pet", name := "na\"me" },
    { table := "pet", name := "owner\" AS" },
    { table := "users", name := "name", key := some "owner" }]

example : (petTarget.compile petQuery).outcome = .ok petProjection := rfl

end SelectClause

import SelectClause.Proofs.Target.Projecting

/-! # The two modes of a result

A query that calculates becomes an aggregate clause, and any other query a projection. The clause is
made from the aggregation, the name of the table, the delimiter and the option to cast
(`Aggregation.items_congr`), and so two runs that agree in these have one result, whatever else is
asked of them. A projection in turn leaves the option to cast unread (`outcome_compile_withCast`).
Both are put together in `modes_separate`.
-/

namespace SelectClause

namespace Aggregation

/-- Something is to be calculated. -/
def Calculates {Name : Type} (aggregation : Aggregation Name) : Prop :=
  aggregation.sum ≠ [] ∨ aggregation.average ≠ [] ∨ aggregation.minimum ≠ [] ∨
    aggregation.maximum ≠ []

/-- The test for a calculation holds just if something is to be calculated. -/
theorem hasCalculation_eq_true_iff {Name : Type} {aggregation : Aggregation Name} :
    aggregation.hasCalculation = true ↔ aggregation.Calculates := by
  obtain ⟨groupBy, sum, average, minimum, maximum⟩ := aggregation
  cases sum <;> cases average <;> cases minimum <;> cases maximum <;>
    simp [hasCalculation, Calculates]

/-- Of the options, the items of an aggregate clause read the delimiter and the casts. -/
theorem items_congr {first second : Options} (aggregation : Aggregation (Option String))
    (delimiter : first.escapeCharacter = second.escapeCharacter)
    (casts : first.cast = second.cast) : aggregation.items first = aggregation.items second := by
  have escape : first.escape = second.escape := by
    funext name
    rw [Options.escape, Options.escape, delimiter]
  have sums : sumItem first = sumItem second := by
    funext column
    rw [sumItem, sumItem, escape, casts]
  have averages : averageItem first = averageItem second := by
    funext column
    rw [averageItem, averageItem, escape, casts]
  have greatest : maximumItem first = maximumItem second := by
    funext column
    rw [maximumItem, maximumItem, escape]
  have least : minimumItem first = minimumItem second := by
    funext column
    rw [minimumItem, minimumItem, escape]
  rw [items, items, escape, sums, averages, greatest, least]

end Aggregation

namespace Target

variable {target : Target} {query : Query} {compiled : Compiled}

/-- A query that calculates becomes the aggregate clause of its aggregation. -/
theorem outcome_compile_of_calculates (calculates : query.aggregation.Calculates) :
    (target.compile query).outcome =
      .ok (Compiled.aggregate (Clause.select ((query.aggregation.map some).items target.options)
        (target.options.escape (some target.tableName)))) := by
  rw [← Aggregation.hasCalculation_eq_true_iff] at calculates
  simp [outcome_compile, Aggregation.requested, calculates]

/-- A query that does not calculate becomes a projection, or is refused for grouping alone. -/
theorem outcome_compile_of_not_calculates (plain : ¬ query.aggregation.Calculates) :
    (target.compile query).outcome =
      if !query.aggregation.requested then
        (target.columns query).outcome.map fun columns =>
          Compiled.projection target.options columns target.tableName
      else .error .noCalculation := by
  rw [← Aggregation.hasCalculation_eq_true_iff, Bool.not_eq_true] at plain
  simp only [outcome_compile, plain, Bool.not_false, ↓reduceIte]

/-- The result of a query that calculates is a clause, and that of any other a projection. -/
theorem mode_of_compile (succeeds : (target.compile query).outcome = .ok compiled) :
    (query.aggregation.Calculates ∧ ∃ clause, compiled = Compiled.aggregate clause) ∨
      (¬ query.aggregation.Calculates ∧
        ∃ columns, compiled = Compiled.projection target.options columns target.tableName) := by
  by_cases calculates : query.aggregation.Calculates
  · rw [outcome_compile_of_calculates calculates] at succeeds
    cases succeeds
    exact .inl ⟨calculates, _, rfl⟩
  · refine .inr ⟨calculates, ?_⟩
    rw [outcome_compile_of_not_calculates calculates] at succeeds
    split at succeeds
    · cases collected : (target.columns query).outcome with
      | error failure => simp [collected, Except.map] at succeeds
      | ok columns =>
        rw [collected] at succeeds
        cases succeeds
        exact ⟨columns, rfl⟩
    · cases succeeds

/-- The target with another choice of casts. -/
def withCast (target : Target) (cast : Bool) : Target :=
  { target with options := { target.options with cast } }

/-- Casts play no part in collecting columns. -/
theorem collected_withCast (target : Target) (query : Query) (cast : Bool) :
    (target.withCast cast).collected query = target.collected query := by
  have own : (target.withCast cast).column? = target.column? := rfl
  have joined : (target.withCast cast).joinColumns = target.joinColumns := rfl
  rw [collected, collected, own, joined]
  rfl

/-- Casts play no part in the columns of a projection. -/
theorem columns_withCast (target : Target) (query : Query) (cast : Bool) :
    (target.withCast cast).columns query = target.columns query := by
  rw [columns, columns]
  exact bind_congr fun entity => collected_withCast { target with entity } query cast

/-- A query that does not calculate comes out alike with and without casts. -/
theorem outcome_compile_withCast (cast : Bool) (plain : ¬ query.aggregation.Calculates) :
    ((target.withCast cast).compile query).outcome = (target.compile query).outcome := by
  have projects : ∀ columns, Compiled.projection (target.withCast cast).options columns
      (target.withCast cast).tableName =
        Compiled.projection target.options columns target.tableName := fun columns => rfl
  rw [outcome_compile_of_not_calculates plain, outcome_compile_of_not_calculates plain,
    columns_withCast]
  simp only [projects]

/-- The clauses for an entity that a table of a name holds are clauses for that name. -/
theorem tableName_of_entriesOf {table : String}
    (held : target.catalog.entriesOf (.name table) = [(target.identity, target.entity)])
    (named : table ≠ "") : target.tableName = table := by
  have member : (target.identity, target.entity) ∈ target.catalog.entriesOf (.name table) := by
    rw [held]
    exact List.mem_singleton.2 rfl
  have stored := of_decide_eq_true (List.mem_filter.1 member).2
  have name : target.entity.tableName = some table := Reference.ofName?_injective stored
  simp [tableName, name, Option.filter, named]

end Target

/-- A query that is built for a table of a schema. -/
structure Run where
  /-- The identities whose definitions are read before the schema is. -/
  beforehand : List String := []
  schema : Value
  options : Value := .null
  table : Reference
  given : Value
  target : Target
  query : Query
  found : (Target.ofSchema beforehand schema options table).outcome = .ok target
  read : Query.ofValue given = .ok query

namespace Run

/-- What comes of a run. -/
def result (run : Run) : Except Failure Compiled :=
  (Target.ofSchema run.beforehand run.schema run.options run.table >>= fun target =>
    target.build run.given).outcome

variable {run other : Run}

/-- The result of a run is what its target makes of its query. -/
theorem result_eq (run : Run) : run.result = (run.target.compile run.query).outcome := by
  rw [result, Traced.outcome_bind_ok run.found, Target.build, run.read, Traced.liftM_eq,
    Traced.ofExcept_ok_bind]

/-- The runs build one query for one table of one schema, and their options differ in the casts
alone. -/
structure SameButCast (run other : Run) : Prop where
  beforehand : run.beforehand = other.beforehand
  schema : run.schema = other.schema
  table : run.table = other.table
  given : run.given = other.given
  options : other.target.options =
    { run.target.options with cast := other.target.options.cast }

/-- Runs that differ in the cast alone have one query. -/
theorem SameButCast.query_eq (same : run.SameButCast other) : other.query = run.query := by
  have read := other.read
  rw [← same.given, run.read] at read
  exact (Except.ok.inj read).symm

/-- Runs that differ in the cast alone have targets that differ in nothing else. -/
theorem SameButCast.target_eq (same : run.SameButCast other) :
    other.target = run.target.withCast other.target.options.cast := by
  obtain ⟨catalog, -, held⟩ := Target.ofSchema_eq_ok_iff.1 run.found
  obtain ⟨otherCatalog, -, otherHeld⟩ := Target.ofSchema_eq_ok_iff.1 other.found
  rw [← same.beforehand, ← same.schema, catalog] at otherCatalog
  injection otherCatalog with catalogs
  rw [← same.table, ← catalogs, held] at otherHeld
  injection otherHeld with entries
  injection entries with identities entities
  calc other.target
      = ⟨other.target.catalog, other.target.options, other.target.identity,
          other.target.entity⟩ := rfl
    _ = run.target.withCast other.target.options.cast := by
      rw [← catalogs, ← identities, ← entities, same.options]
      rfl

/-- The runs ask for one calculation on one table, in one way of writing it. -/
structure SameCalculation (name : String) (run other : Run) : Prop where
  table : run.table = .name name
  otherTable : other.table = .name name
  aggregation : run.query.aggregation = other.query.aggregation
  delimiter : run.target.options.escapeCharacter = other.target.options.escapeCharacter
  casts : run.target.options.cast = other.target.options.cast

/-- **The modes are exclusive and leave each other alone.** A result is in aggregate mode just if
the query calculates, and then it has no columns and leaves the selection to others. Two runs that
ask for one calculation on one table of a name have one result, and so have two that differ in the
casts alone and project columns. -/
theorem modes_separate :
    (∀ (run : Run) (compiled : Compiled), run.result = .ok compiled →
      (compiled.mode = .aggregate ↔ run.query.aggregation.Calculates) ∧
        (compiled.mode = .aggregate →
          compiled.columns = [] ∧ compiled.selectionConsumed = false) ∧
        (compiled.mode ≠ .aggregate →
          compiled.mode = .projection ∧ compiled.selectionConsumed = true) ∧
        compiled.select.length = 1) ∧
      (∀ (table : String) (run other : Run), table ≠ "" → SameCalculation table run other →
        run.query.aggregation.Calculates →
          ∃ compiled, run.result = .ok compiled ∧ other.result = .ok compiled) ∧
      ∀ (run other : Run) (compiled : Compiled), run.SameButCast other →
        run.result = .ok compiled → compiled.mode = .projection → other.result = .ok compiled := by
  refine ⟨?_, ?_, ?_⟩
  · intro run compiled succeeds
    rw [result_eq] at succeeds
    rcases Target.mode_of_compile succeeds with
      ⟨calculates, clause, rfl⟩ | ⟨plain, columns, rfl⟩
    · simp [Compiled.aggregate, calculates]
    · simp [Compiled.projection, plain]
  · intro table run other named same calculates
    have otherCalculates : other.query.aggregation.Calculates := same.aggregation ▸ calculates
    obtain ⟨-, -, held⟩ := Target.ofSchema_eq_ok_iff.1 run.found
    obtain ⟨-, -, otherHeld⟩ := Target.ofSchema_eq_ok_iff.1 other.found
    rw [same.table] at held
    rw [same.otherTable] at otherHeld
    refine ⟨_, by rw [result_eq, Target.outcome_compile_of_calculates calculates], ?_⟩
    rw [result_eq, Target.outcome_compile_of_calculates otherCalculates, ← same.aggregation,
      Aggregation.items_congr _ same.delimiter same.casts, Options.escape, Options.escape,
      same.delimiter, Target.tableName_of_entriesOf held named,
      Target.tableName_of_entriesOf otherHeld named]
  · intro run other compiled same succeeds projects
    rw [result_eq] at succeeds
    rcases Target.mode_of_compile succeeds with ⟨-, clause, rfl⟩ | ⟨plain, -⟩
    · cases projects
    · rw [result_eq, same.target_eq, same.query_eq, Target.outcome_compile_withCast _ plain,
        succeeds]

/-- The weight of all pets in the shelter, where the joins lead nowhere. -/
def weights : Run where
  schema := Target.shelterSchema
  table := .name "pets"
  given := .record [("sum", .text "weight"), ("select", .text "name"),
    ("instructions", .record [("owner", .record [("strategy", .int 1),
      ("instructions", .list [.record [("child", .text "nowhere")]])])])]
  target := Target.shelterTarget
  query := {
    select := some ["name"]
    joins := Dict.ofList [("owner", {
      strategy := .hasForeignKey, populations := [{ child := "nowhere" }] })]
    aggregation := { sum := ["weight"] } }
  found := rfl
  read := rfl

/-- The weight of all pets, which another schema has as animals. -/
def animalWeights : Run where
  schema := .record [("animal", .record [("tableName", .text "pets")])]
  options := .record [("wildcard", .text "?")]
  table := .name "pets"
  given := .record [("sum", .list [.text "weight"])]
  target := {
    catalog := ⟨Dict.ofList [
      ("animal", { identity := some (some "animal"), table := some (some "pets") })]⟩
    options := { wildcard := "?" }
    identity := "animal"
    entity := { identity := some (some "animal"), table := some (some "pets") } }
  query := { aggregation := { sum := ["weight"] } }
  found := rfl
  read := rfl

/-- The names of the pets in the shelter, with or without casts. -/
def names (cast : Bool) : Run where
  schema := Target.shelterSchema
  options := .record [("cast", .bool cast)]
  table := .name "pets"
  given := .record [("select", .text "name")]
  target := Target.shelterTarget.withCast cast
  query := { select := some ["name"] }
  found := by cases cast <;> rfl
  read := rfl

/-- Weights are calculated alike in two schemas, and names are projected alike with and without
casts. -/
theorem modes_separate_shelter :
    "pets" ≠ "" ∧ SameCalculation "pets" weights animalWeights ∧
      weights.query.aggregation.Calculates ∧
      (∃ compiled, weights.result = .ok compiled ∧ animalWeights.result = .ok compiled ∧
        compiled.mode = .aggregate) ∧
      (names false).SameButCast (names true) ∧
      ∃ compiled, (names false).result = .ok compiled ∧ compiled.mode = .projection ∧
        (names true).result = .ok compiled := by
  obtain ⟨exclusive, calculation, casts⟩ := modes_separate
  have same : SameCalculation "pets" weights animalWeights := ⟨rfl, rfl, rfl, rfl, rfl⟩
  have calculates : weights.query.aggregation.Calculates := .inl (by decide)
  have alike : (names false).SameButCast (names true) := ⟨rfl, rfl, rfl, rfl, rfl⟩
  obtain ⟨compiled, succeeds, otherSucceeds⟩ :=
    calculation "pets" weights animalWeights (by decide) same calculates
  have projects : (names false).result =
      .ok (Compiled.projection {} [{ table := "pet", name := "pet_name" }] "pets") := rfl
  exact ⟨by decide, same, calculates,
    ⟨compiled, succeeds, otherSucceeds, (exclusive _ _ succeeds).1.2 calculates⟩,
    alike, _, projects, rfl, casts _ _ _ alike projects rfl⟩

end Run

end SelectClause

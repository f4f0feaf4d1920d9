import SelectClause.Proofs.Target.Compilation

/-! # When a build is refused

Building has four causes of failure in three places, and the order of evaluation decides which one
counts. A target is found just if its table holds one entity. A query is refused if it is no query,
if it groups without calculating, or if a join cannot be inlined; of several such joins the first
one counts, since joins are expanded in their order (`outcome_mapM_eq_error_iff`). Identities are
looked up in the catalog only after a table was resolved to them, and a target keeps the identity
that its own table was resolved to (`Held`), so no identity is ever unknown. `Refuses` lists the
causes and `outcome_build_eq_error_iff` says that they are all.
-/

namespace SelectClause

/-- A traversal fails just if it fails at some item and at none before. -/
theorem Traced.outcome_mapM_eq_error_iff {α β : Type} {step : α → Traced β} {items : List α}
    {failure : Failure} :
    (items.mapM step).outcome = .error failure ↔
      ∃ before item after, items = before ++ item :: after ∧
        (∀ earlier ∈ before, ∃ value, (step earlier).outcome = .ok value) ∧
        (step item).outcome = .error failure := by
  induction items with
  | nil =>
    constructor
    · intro impossible
      cases impossible
    · rintro ⟨before, item, after, empty, -⟩
      simp at empty
  | cons first items ih =>
    rw [List.mapM_cons]
    cases passed : (step first).outcome with
    | error cause =>
      rw [Traced.outcome_bind_error passed]
      constructor
      · intro same
        cases same
        exact ⟨[], first, items, rfl, by simp, passed⟩
      · rintro ⟨before, item, after, split, earlier, failed⟩
        cases before with
        | nil =>
          obtain ⟨rfl, -⟩ : first = item ∧ items = after := by simpa using split
          rw [passed] at failed
          cases failed
          rfl
        | cons other before =>
          obtain ⟨rfl, -⟩ : first = other ∧ items = before ++ item :: after := by simpa using split
          obtain ⟨value, succeeded⟩ := earlier first (by simp)
          rw [passed] at succeeded
          cases succeeded
    | ok value =>
      -- Once the first item has passed, the rest decides.
      have rest : ((items.mapM step >>= fun values => pure (value :: values)).outcome =
          .error failure) ↔ (items.mapM step).outcome = .error failure := by
        rw [Traced.outcome_bind_eq_error_iff]
        simp
      rw [Traced.outcome_bind_ok passed, rest, ih]
      constructor
      · rintro ⟨before, item, after, rfl, earlier, failed⟩
        refine ⟨first :: before, item, after, rfl, ?_, failed⟩
        intro other member
        rcases List.mem_cons.1 member with rfl | member
        · exact ⟨value, passed⟩
        · exact earlier other member
      · rintro ⟨before, item, after, split, earlier, failed⟩
        cases before with
        | nil =>
          obtain ⟨rfl, -⟩ : first = item ∧ items = after := by simpa using split
          rw [passed] at failed
          cases failed
        | cons other before =>
          obtain ⟨-, rfl⟩ : first = other ∧ items = before ++ item :: after := by simpa using split
          exact ⟨before, item, after, rfl,
            fun other member => earlier other (List.mem_cons_of_mem _ member), failed⟩

/-- A join cannot be inlined: the parent has the key of the child, and the table of the first
population is not that of one entity. -/
def Join.Unresolved (catalog : Catalog) (join : Join) (table : String) : Prop :=
  join.strategy = .hasForeignKey ∧
    (∃ population rest, join.populations = population :: rest ∧ population.child = table) ∧
    (catalog.identitiesOf (.name table)).length ≠ 1

namespace Target

/-- Why a query is refused. -/
inductive Refuses (catalog : Catalog) (fields : Dict Value) : Failure → Prop where
  /-- The fields are those of no query. -/
  | invalid {issues : List Issue} (failed : Query.check (.ofDict fields) = .failed issues) :
      Refuses catalog fields (.invalidQuery issues)
  /-- The query groups and does not calculate. -/
  | grouping {query : Query} (valid : Query.check (.ofDict fields) = .ok query)
      (grouped : query.aggregation.groupBy ≠ []) (noSum : query.aggregation.sum = [])
      (noAverage : query.aggregation.average = []) (noMinimum : query.aggregation.minimum = [])
      (noMaximum : query.aggregation.maximum = []) :
      Refuses catalog fields .noCalculation
  /-- The query aggregates nothing, and a join cannot be inlined while those before it can. -/
  | joining {query : Query} {before after : List (String × Join)} {name table : String}
      {join : Join} (valid : Query.check (.ofDict fields) = .ok query)
      (plain : query.aggregation = {})
      (split : query.joins.toList = before ++ (name, join) :: after)
      (unresolved : join.Unresolved catalog table)
      (first : ∀ earlier ∈ before, ∀ other, ¬ earlier.2.Unresolved catalog other) :
      Refuses catalog fields (.tableMismatch (.name table) (catalog.identitiesOf (.name table)))

/-- The catalog has the target's entity under the target's identity. -/
def Held (target : Target) : Prop :=
  target.catalog.entity (.name target.identity) = .ok target.entity

variable {target : Target} {query : Query} {failure : Failure}

/-- The target of a table is the one entity that the table holds. -/
theorem outcome_ofTable (catalog : Catalog) (options : Options) (table : Reference) :
    (ofTable catalog options table).outcome =
      (catalog.resolve table).map fun entry =>
        { catalog, options, identity := entry.1, entity := entry.2 } := by
  rw [ofTable, Traced.outcome_bind, Catalog.outcome_locate]
  cases catalog.resolve table <;> rfl

/-- A target that was found by its table is held by the catalog that was searched. -/
theorem held_of_ofTable {catalog : Catalog} {options : Options} {table : Reference}
    (found : (ofTable catalog options table).outcome = .ok target) :
    target.catalog = catalog ∧ target.Held := by
  rw [outcome_ofTable] at found
  cases resolved : catalog.resolve table with
  | error failure =>
    rw [resolved] at found
    cases found
  | ok entry =>
    rw [resolved] at found
    cases found
    exact ⟨rfl, Catalog.entity_of_resolve_eq_ok resolved⟩

/-- Looking up the entity of a held target finds its own. -/
theorem columns_of_held (held : target.Held) (query : Query) :
    target.columns query = target.collected query := by
  rw [columns, held, Traced.liftM_eq, Traced.ofExcept_ok_bind]

/-- A join fails just if it cannot be inlined, with the candidates for its table. -/
theorem joinColumns_eq_error_iff {name : String} {join : Join} :
    (target.joinColumns name join).outcome = .error failure ↔
      ∃ table, join.Unresolved target.catalog table ∧
        failure = .tableMismatch (.name table) (target.catalog.identitiesOf (.name table)) := by
  have inlines : join.isInline = true ↔ join.strategy = .hasForeignKey := by
    simp [Join.isInline]
  rw [joinColumns]
  by_cases inlined : join.isInline = true
  · rw [if_pos inlined]
    cases populations : join.populations with
    | nil =>
      constructor
      · intro impossible
        cases impossible
      · rintro ⟨table, ⟨-, ⟨population, rest, populated, -⟩, -⟩, -⟩
        rw [populations] at populated
        cases populated
    | cons population rest =>
      have located : (target.inlineColumns name population).outcome = .error failure ↔
          target.catalog.resolve (.name population.child) = .error failure := by
        rw [inlineColumns, Traced.outcome_bind_eq_error_iff, Catalog.outcome_locate]
        constructor
        · rintro (failed | ⟨child, -, impossible⟩)
          · exact failed
          · cases impossible
        · exact .inl
      simp only
      rw [located, Catalog.resolve_eq_error_iff]
      constructor
      · rintro ⟨several, rfl⟩
        exact ⟨population.child,
          ⟨inlines.1 inlined, ⟨population, rest, populations, rfl⟩, several⟩, rfl⟩
      · rintro ⟨table, ⟨-, ⟨first, others, populated, rfl⟩, several⟩, rfl⟩
        rw [populations] at populated
        cases populated
        exact ⟨several, rfl⟩
  · rw [if_neg inlined]
    constructor
    · intro impossible
      cases impossible
    · rintro ⟨table, ⟨strategy, -⟩, -⟩
      exact absurd (inlines.2 strategy) inlined

/-- Columns cannot be collected just if a join cannot be inlined, and the first such join
counts. -/
theorem collected_eq_error_iff :
    (target.collected query).outcome = .error failure ↔
      ∃ before name join after table, query.joins.toList = before ++ (name, join) :: after ∧
        join.Unresolved target.catalog table ∧
        (∀ earlier ∈ before, ∀ other, ¬ earlier.2.Unresolved target.catalog other) ∧
        failure = .tableMismatch (.name table) (target.catalog.identitiesOf (.name table)) := by
  -- The target's own columns never fail, which leaves the joins.
  have ownPass : ∃ own, ((target.requestedNames query).mapM target.column?).outcome = .ok own := by
    cases own : ((target.requestedNames query).mapM target.column?).outcome with
    | ok columns => exact ⟨columns, rfl⟩
    | error cause =>
      obtain ⟨before, name, after, -, -, failed⟩ := Traced.outcome_mapM_eq_error_iff.1 own
      rw [column?] at failed
      split at failed <;> cases failed
  obtain ⟨own, owned⟩ := ownPass
  have joined : (target.collected query).outcome = .error failure ↔
      (query.joins.toList.mapM fun entry => target.joinColumns entry.1 entry.2).outcome =
        .error failure := by
    rw [collected, Traced.outcome_bind_ok owned, Traced.outcome_bind_eq_error_iff]
    simp
  have passes : ∀ entry : String × Join,
      (∃ columns, (target.joinColumns entry.1 entry.2).outcome = .ok columns) ↔
        ∀ other, ¬ entry.2.Unresolved target.catalog other := by
    intro entry
    constructor
    · rintro ⟨columns, passed⟩ other unresolved
      rw [joinColumns_eq_error_iff.2 ⟨other, unresolved, rfl⟩] at passed
      cases passed
    · intro resolved
      cases outcome : (target.joinColumns entry.1 entry.2).outcome with
      | ok columns => exact ⟨columns, rfl⟩
      | error cause =>
        obtain ⟨other, unresolved, -⟩ := joinColumns_eq_error_iff.1 outcome
        exact absurd unresolved (resolved other)
  rw [joined, Traced.outcome_mapM_eq_error_iff]
  constructor
  · rintro ⟨before, ⟨name, join⟩, after, split, passed, failed⟩
    obtain ⟨table, unresolved, rfl⟩ := joinColumns_eq_error_iff.1 failed
    exact ⟨before, name, join, after, table, split, unresolved,
      fun earlier member => (passes earlier).1 (passed earlier member), rfl⟩
  · rintro ⟨before, name, join, after, table, split, unresolved, first, rfl⟩
    exact ⟨before, (name, join), after, split,
      fun earlier member => (passes earlier).2 (first earlier member),
      joinColumns_eq_error_iff.2 ⟨table, unresolved, rfl⟩⟩

/-- Compiling fails just if nothing is aggregated and the columns cannot be collected, or if columns
are grouped and nothing is calculated. -/
theorem compile_eq_error_iff :
    (target.compile query).outcome = .error failure ↔
      (query.aggregation = {} ∧ (target.columns query).outcome = .error failure) ∨
        (query.aggregation.groupBy ≠ [] ∧ query.aggregation.hasCalculation = false ∧
          failure = .noCalculation) := by
  rw [outcome_compile]
  cases requested : query.aggregation.requested with
  | false =>
    have plain := Aggregation.requested_eq_false_iff.1 requested
    rw [plain, Bool.not_false, if_pos rfl]
    cases (target.columns query).outcome <;> simp [Except.map]
  | true =>
    have asked : query.aggregation ≠ {} := by
      intro plain
      rw [Aggregation.requested_eq_false_iff.2 plain] at requested
      cases requested
    cases calculates : query.aggregation.hasCalculation with
    | false =>
      have grouped : query.aggregation.groupBy ≠ [] := by
        simpa [Aggregation.requested, calculates] using requested
      simp [asked, grouped, eq_comm]
    | true => simp [asked]

/-- A held target refuses a query just for one of the listed causes. -/
theorem outcome_build_eq_error_iff (held : target.Held) {fields : Dict Value} :
    (target.build (.ofDict fields)).outcome = .error failure ↔
      Refuses target.catalog fields failure := by
  have checked : Query.check (.ofDict fields) = Query.ofFields fields :=
    Check.record_ofDict .query Query.ofFields fields
  rw [build, Query.ofValue_ofDict, ← checked, Traced.liftM_eq]
  cases valid : Query.check (.ofDict fields) with
  | failed issues =>
    rw [Traced.ofExcept_error_bind, Traced.outcome_ofExcept]
    constructor
    · intro same
      cases same
      exact .invalid valid
    · rintro (⟨failed⟩ | ⟨passed⟩ | ⟨passed⟩)
      · rw [valid] at failed
        cases failed
        rfl
      all_goals
        rw [valid] at passed
        cases passed
  | ok query =>
    -- A held target finds its own entity, so that only joins can keep columns from being collected.
    rw [Traced.ofExcept_ok_bind, compile_eq_error_iff, columns_of_held held,
      collected_eq_error_iff]
    constructor
    · rintro (⟨plain, before, name, join, after, table, split, unresolved, first, rfl⟩ |
        ⟨grouped, calculates, rfl⟩)
      · exact .joining valid plain split unresolved first
      · obtain ⟨⟨⟨noSum, noAverage⟩, noMaximum⟩, noMinimum⟩ :
            ((query.aggregation.sum = [] ∧ query.aggregation.average = []) ∧
              query.aggregation.maximum = []) ∧ query.aggregation.minimum = [] := by
          simpa [Aggregation.hasCalculation] using calculates
        exact .grouping valid grouped noSum noAverage noMinimum noMaximum
    · rintro (⟨failed⟩ | ⟨passed, grouped, noSum, noAverage, noMinimum, noMaximum⟩ |
        ⟨passed, plain, split, unresolved, first⟩)
      · rw [valid] at failed
        cases failed
      · rw [valid] at passed
        cases passed
        refine .inr ⟨grouped, ?_, rfl⟩
        simp [Aggregation.hasCalculation, noSum, noAverage, noMinimum, noMaximum]
      · rw [valid] at passed
        cases passed
        exact .inl ⟨plain, _, _, _, _, _, split, unresolved, first, rfl⟩

/-- Reading valid values adds nothing to finding the target of a table. -/
theorem ofSchema_eq_ofTable {beforehand : List String} {schema given : Value} {catalog : Catalog}
    {options : Options} (read : Catalog.ofSchema beforehand schema = .ok catalog)
    (chosen : Options.ofValue given = .ok options) (table : Reference) :
    ofSchema beforehand schema given table = ofTable catalog options table := by
  rw [ofSchema, read, chosen, Traced.liftM_eq, Traced.ofExcept_ok_bind, Traced.liftM_eq,
    Traced.ofExcept_ok_bind]

/-- From a valid schema and valid options a target is found just if its table holds one entity. The
target then builds a query just if none of the causes refuses it, and it fails with what the one
cause says; no identity is unknown. -/
theorem build_fails_iff_refuses {beforehand : List String} {schema given : Value}
    {catalog : Catalog} {options : Options}
    (read : Catalog.ofSchema beforehand schema = .ok catalog)
    (chosen : Options.ofValue given = .ok options) (table : Reference) :
    (∀ failure, (ofSchema beforehand schema given table).outcome = .error failure ↔
      (catalog.identitiesOf table).length ≠ 1 ∧
        failure = .tableMismatch table (catalog.identitiesOf table)) ∧
    ∀ target, (ofSchema beforehand schema given table).outcome = .ok target →
      ∀ fields : Dict Value,
        (∀ failure, (target.build (.ofDict fields)).outcome = .error failure ↔
          Refuses catalog fields failure) ∧
        ((∃ compiled, (target.build (.ofDict fields)).outcome = .ok compiled) ↔
          ∀ failure, ¬ Refuses catalog fields failure) ∧
        ∀ identity, (target.build (.ofDict fields)).outcome ≠ .error (.unknownEntity identity) := by
  rw [ofSchema_eq_ofTable read chosen]
  constructor
  · intro failure
    rw [outcome_ofTable, ← Catalog.resolve_eq_error_iff]
    cases catalog.resolve table <;> simp [Except.map]
  · intro target found fields
    obtain ⟨rfl, held⟩ := held_of_ofTable found
    refine ⟨fun failure => outcome_build_eq_error_iff held, ?_, ?_⟩
    · constructor
      · rintro ⟨compiled, built⟩ failure refused
        rw [(outcome_build_eq_error_iff held).2 refused] at built
        cases built
      · intro accepted
        cases built : (target.build (.ofDict fields)).outcome with
        | ok compiled => exact ⟨compiled, rfl⟩
        | error failure =>
          exact absurd ((outcome_build_eq_error_iff held).1 built) (accepted failure)
    · intro identity failed
      cases (outcome_build_eq_error_iff held).1 failed

/-- A catalog of pets alone. -/
def loneCatalog : Catalog :=
  ⟨Dict.ofList [("pet", { identity := some (some "pet"), table := some (some "pet") })]⟩

/-- Pets in a catalog of pets alone. -/
def loneTarget : Target where
  catalog := loneCatalog
  options := {}
  identity := "pet"
  entity := { identity := some (some "pet"), table := some (some "pet") }

/-- The fields of a query with joins to tables that hold nothing, where only the last is to be
inlined. -/
def strayFields : Dict Value := Dict.ofList [
  ("instructions", .record [
    ("toys", .record [("strategy", .int 3), ("instructions", .list [
      .record [("child", .text "attic")]])]),
    ("owner", .record [("strategy", .int 1), ("instructions", .list [
      .record [("child", .text "nowhere")], .record [("child", .text "pet")]])])])]

/-- Pets are found, and joining them to what cannot be found refuses the query. -/
theorem build_fails_iff_refuses_nowhere :
    Catalog.ofSchema [] (.record [("pet", .record [])]) = .ok loneCatalog ∧
      Options.ofValue .null = .ok {} ∧
      (ofSchema [] (.record [("pet", .record [])]) .null (.name "pet")).outcome =
        .ok loneTarget ∧
      (loneTarget.build (.ofDict strayFields)).outcome =
        .error (.tableMismatch (.name "nowhere") []) ∧
      Refuses loneCatalog strayFields (.tableMismatch (.name "nowhere") []) := by
  have read : Catalog.ofSchema [] (.record [("pet", .record [])]) = .ok loneCatalog := rfl
  have chosen : Options.ofValue .null = .ok {} := rfl
  have found : (ofSchema [] (.record [("pet", .record [])]) .null (.name "pet")).outcome =
      .ok loneTarget := rfl
  have failed : (loneTarget.build (.ofDict strayFields)).outcome =
      .error (.tableMismatch (.name "nowhere") []) := rfl
  have causes := (build_fails_iff_refuses read chosen (.name "pet")).2 loneTarget found strayFields
  exact ⟨read, chosen, found, failed, (causes.1 _).1 failed⟩

end Target

end SelectClause

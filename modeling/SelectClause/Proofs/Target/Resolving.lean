import SelectClause.Proofs.Catalog.Definitions
import SelectClause.Proofs.Clause.ProjectionReading
import SelectClause.Proofs.Target.Modes

/-! # Tables in terms of the schema

Whether a table is resolved, and to what, can be told from the schema as it was handed over: it is
resolved to the one key whose definition gives the table (`TableOf`), and to none where several
definitions give it or none does. The clauses for the target then select from the table of this
name, or from that of the key's name where the table is absent or has the empty name
(`selectsFrom_of_compile`).
-/

namespace SelectClause

/-- The items of a clause as they stand before the table. -/
def Clause.listed (items : List String) : String :=
  if ", ".intercalate items = "" then "" else ", ".intercalate items ++ " "

/-- A clause lists its items and then names its table. -/
theorem Clause.select_eq_listed (items : List String) {table : String} (named : table ≠ "") :
    select items table = "SELECT " ++ listed items ++ "FROM " ++ table ++ " " := by
  rw [listed]
  split
  · rename_i empty
    apply String.toList_injective
    simp [select, empty, named]
  · rename_i items
    rw [select_of_items items named]
    apply String.toList_injective
    simp

namespace Compiled

/-- The items that a query was compiled into. -/
def items (options : Options) (query : Query) (compiled : Compiled) : List String :=
  match compiled.mode with
  | .aggregate => (query.aggregation.map some).items options
  | .projection => compiled.columns.map fun column =>
      Projection.item options (some column.name) column.key

/-- Every statement that a result begins selects its items from the table of a name. -/
def SelectsFrom (options : Options) (query : Query) (compiled : Compiled) (table : String) : Prop :=
  ∀ clauses : List String, (clauses.foldl withClause compiled).statement =
    "SELECT " ++ Clause.listed (compiled.items options query) ++ "FROM " ++
      options.escape (some table) ++ " " ++ String.join clauses

end Compiled

/-- A key is the only one whose definition gives a table. -/
structure SoleIn (fields : Dict Value) (table : Reference) (key : String) : Prop where
  holds : TableOf fields key table
  sole : ∀ other, TableOf fields other table → other = key

namespace Catalog

variable {schema : Value} {fields : Dict Value} {catalog : Catalog} {table : Reference}
  {key : String}

/-- No identity is listed twice for a table. -/
theorem identitiesOf_nodup (catalog : Catalog) (table : Reference) :
    (catalog.identitiesOf table).Nodup :=
  (List.filter_sublist.map _).nodup catalog.entities.distinct

/-- A table has one candidate just if one key's definition gives it. -/
theorem identitiesOf_eq_singleton_iff (object : schema.fields? = some fields)
    (read : ofSchema [] schema = .ok catalog) :
    catalog.identitiesOf table = [key] ↔ SoleIn fields table key := by
  constructor
  · intro single
    refine ⟨(mem_identitiesOf_iff object read).1 (by simp [single]), fun other stored => ?_⟩
    have member := (mem_identitiesOf_iff object read).2 stored
    rwa [single, List.mem_singleton] at member
  · rintro ⟨holds, sole⟩
    have same : (catalog.identitiesOf table).Perm [key] := by
      rw [List.perm_ext_iff_of_nodup (identitiesOf_nodup catalog table) (by simp)]
      intro other
      rw [mem_identitiesOf_iff object read, List.mem_singleton]
      exact ⟨sole other, fun same => same ▸ holds⟩
    exact List.perm_singleton.1 same

end Catalog

namespace Target

variable {target : Target} {query : Query} {compiled : Compiled} {table : Reference}

/-- What a query is compiled into selects from the table of the target. -/
theorem selectsFrom_of_compile (succeeds : (target.compile query).outcome = .ok compiled) :
    compiled.SelectsFrom target.options query target.tableName := by
  intro clauses
  have named : target.options.escape (some target.tableName) ≠ "" := by
    intro empty
    have spelled := congrArg String.toList empty
    simp [Options.toList_escape, Text.enclosed] at spelled
  have statement : compiled.statement = Clause.select (compiled.items target.options query)
      (target.options.escape (some target.tableName)) := by
    rcases mode_of_compile succeeds with ⟨calculates, -⟩ | ⟨-, columns, rfl⟩
    · rw [outcome_compile_of_calculates calculates] at succeeds
      cases succeeds
      simp [Compiled.statement, Compiled.aggregate, Compiled.items]
    · simp [Compiled.statement, Compiled.projection, Compiled.items, Projection.clause,
        Function.comp_def]
  rw [Projection.statement_foldl_withClause, statement, Clause.select_eq_listed _ named]

/-- A target that was found by an absent name or by the empty one has its identity for a table. -/
theorem tableName_of_nameless
    (held : target.catalog.entriesOf table = [(target.identity, target.entity)])
    (nameless : table = .absent ∨ table = .name "") : target.tableName = target.identity := by
  have member : (target.identity, target.entity) ∈ target.catalog.entriesOf table := by
    rw [held]
    exact List.mem_singleton.2 rfl
  have stored : Reference.ofName? target.entity.tableName = table :=
    of_decide_eq_true (List.mem_filter.1 member).2
  have name : target.entity.tableName = none ∨ target.entity.tableName = some "" := by
    rcases nameless with rfl | rfl
    · rw [← Reference.ofName?] at stored
      exact .inl (Reference.ofName?_injective stored)
    · rw [← Reference.ofName?] at stored
      exact .inr (Reference.ofName?_injective stored)
  rcases name with name | name <;> simp [tableName, name, Option.filter]

/-- **A table is resolved by the schema's definitions.** From a valid schema a target is found for a
table just if one key's definition gives the table, and the target has the identity of this key;
otherwise the failure names all keys whose definitions give it, in the order of the schema, which
are never exactly one. All statements for the target select from the table of the given name, or
from that of the key's name where the table is absent or has the empty name. -/
theorem found_iff_sole {schema given : Value} {fields : Dict Value} {catalog : Catalog}
    {options : Options} (object : schema.fields? = some fields)
    (read : Catalog.ofSchema [] schema = .ok catalog) (chosen : Options.ofValue given = .ok options)
    (table : Reference) :
    (∀ key, (∃ target, (ofSchema [] schema given table).outcome = .ok target ∧
        target.identity = key) ↔ SoleIn fields table key) ∧
      ((∀ key, ¬ SoleIn fields table key) → ∃ candidates,
        (ofSchema [] schema given table).outcome = .error (.tableMismatch table candidates) ∧
          candidates.Sublist fields.keys ∧
          (∀ key, key ∈ candidates ↔ TableOf fields key table) ∧ candidates.length ≠ 1) ∧
      ∀ target, (ofSchema [] schema given table).outcome = .ok target →
        ∀ (query : Query) (compiled : Compiled), (target.compile query).outcome = .ok compiled →
          (∀ name, table = .name name → name ≠ "" → compiled.SelectsFrom options query name) ∧
            (table = .absent ∨ table = .name "" →
              compiled.SelectsFrom options query target.identity) := by
  have resolved : (ofSchema [] schema given table).outcome =
      (catalog.resolve table).map fun entry =>
        { catalog, options, identity := entry.1, entity := entry.2 } := by
    rw [ofSchema_eq_ofTable read chosen, outcome_ofTable]
  refine ⟨?_, ?_, ?_⟩
  · intro key
    rw [← Catalog.identitiesOf_eq_singleton_iff object read, Catalog.identitiesOf,
      List.map_eq_singleton_iff]
    simp only [← Catalog.resolve_eq_ok_iff, resolved]
    cases catalog.resolve table with
    | error failure => simp [Except.map]
    | ok entry => simp [Except.map]
  · intro none
    have several : (catalog.identitiesOf table).length ≠ 1 := by
      intro single
      obtain ⟨key, only⟩ := List.length_eq_one_iff.1 single
      exact none key ((Catalog.identitiesOf_eq_singleton_iff object read).1 only)
    refine ⟨catalog.identitiesOf table, ?_, Catalog.identitiesOf_sublist object read table,
      fun key => Catalog.mem_identitiesOf_iff object read, several⟩
    rw [resolved, Catalog.resolve_eq_error_iff.2 ⟨several, rfl⟩]
    rfl
  · intro target found query compiled succeeds
    obtain ⟨-, sameOptions, held⟩ := ofSchema_eq_ok_iff.1 found
    rw [chosen] at sameOptions
    cases sameOptions
    have selects := selectsFrom_of_compile succeeds
    constructor
    · rintro name rfl named
      rwa [tableName_of_entriesOf held named] at selects
    · intro nameless
      rwa [tableName_of_nameless held nameless] at selects

/-- Pets in no table, toys in the table of their key, and two kinds of people in one table. -/
def householdFields : Dict Value := Dict.ofList [
  ("pet", .record [("table_name", .text "pets"), ("tableName", .null)]),
  ("user", .record [("table_name", .text "people")]),
  ("toy", .record [("identity", .text "thing")]),
  ("vet", .record [("tableName", .text "people")])]

/-- The household as it is read, each key with the table that counts. -/
def householdCatalog : Catalog where
  entities := Dict.ofList [
    ("pet", {
      identity := some (some "pet"), table := some none
      extras := Dict.ofList [("table_name", .text "pets")] }),
    ("user", { identity := some (some "user"), table := some (some "people") }),
    ("toy", { identity := some (some "thing"), table := some (some "toy") }),
    ("vet", { identity := some (some "vet"), table := some (some "people") })]

/-- The pets of the household. -/
def householdTarget : Target where
  catalog := householdCatalog
  options := {}
  identity := "pet"
  entity := {
    identity := some (some "pet"), table := some none
    extras := Dict.ofList [("table_name", .text "pets")] }

/-- Pets are found without a table, under the name of their key, and the people's table is refused
for its two keys. -/
theorem found_iff_sole_household :
    (Value.ofDict householdFields).fields? = some householdFields ∧
      Catalog.ofSchema [] (.ofDict householdFields) = .ok householdCatalog ∧
      Options.ofValue .null = .ok {} ∧
      (ofSchema [] (.ofDict householdFields) .null .absent).outcome = .ok householdTarget ∧
      SoleIn householdFields .absent "pet" ∧
      (Compiled.projection {} [] "pet").SelectsFrom {} {} "pet" ∧
      (ofSchema [] (.ofDict householdFields) .null (.name "people")).outcome =
        .error (.tableMismatch (.name "people") ["user", "vet"]) ∧
      ∀ key, ¬ SoleIn householdFields (.name "people") key := by
  have object := Value.fields?_ofDict householdFields
  have read : Catalog.ofSchema [] (.ofDict householdFields) = .ok householdCatalog := rfl
  have chosen : Options.ofValue .null = .ok {} := rfl
  have found : (ofSchema [] (.ofDict householdFields) .null .absent).outcome =
      .ok householdTarget := rfl
  have failed : (ofSchema [] (.ofDict householdFields) .null (.name "people")).outcome =
      .error (.tableMismatch (.name "people") ["user", "vet"]) := rfl
  obtain ⟨sole, -, selects⟩ := found_iff_sole object read chosen .absent
  obtain ⟨people, -, -⟩ := found_iff_sole object read chosen (.name "people")
  refine ⟨object, read, chosen, found, (sole "pet").1 ⟨_, found, rfl⟩,
    (selects _ found {} _ rfl).2 (.inl rfl), failed, ?_⟩
  intro key alone
  obtain ⟨target, other, -⟩ := (people key).2 alone
  rw [failed] at other
  cases other

end Target

end SelectClause

import Mathlib.Data.List.Nodup
import SelectClause.Proofs.Catalog.Definitions
import SelectClause.Proofs.Target.Collecting

/-! # What a compilation looks up

Compiling looks up the entities of the target's table and of the tables of inlined children, and no
others (`LooksUp`). Two catalogs that have the same entities under these tables, in whatever order,
resolve each of them alike (`agree_resolve`), and so every step of a compilation comes out alike in
both (`agree_collected`, `agree_compile`). Schemas may therefore differ in the order of their
entities and in all entities that none of these tables holds (`compileSelect_unrelated`).
-/

namespace SelectClause

/-- The tables that are looked up to compile a query for a table: the table itself, and those of the
children that are inlined. -/
inductive LooksUp (table : Reference) (given : Value) : Reference → Prop where
  | target : LooksUp table given table
  | child {query : Query} {name : String} {join : Join} {population : Population}
      {rest : List Population} (read : Query.ofValue given = .ok query)
      (member : (name, join) ∈ query.joins.toList) (strategy : join.strategy = .hasForeignKey)
      (populated : join.populations = population :: rest) :
      LooksUp table given (.name population.child)

/-- A schema has no definition for a key, or one that gives none of the looked-up tables. -/
def Unrelated (table : Reference) (given : Value) (fields : Dict Value) (key : String) : Prop :=
  ∀ looked, LooksUp table given looked → ¬ TableOf fields key looked

/-- Two outcomes with related values, or with one failure up to the order of the candidates. -/
inductive Agree {α β : Type} (related : α → β → Prop) :
    Except Failure α → Except Failure β → Prop where
  | ok {value : α} {other : β} (same : related value other) : Agree related (.ok value) (.ok other)
  | mismatch {table : Reference} {candidates others : List String}
      (same : candidates.Perm others) :
      Agree related (.error (.tableMismatch table candidates))
        (.error (.tableMismatch table others))
  | failure (cause : Failure) : Agree related (.error cause) (.error cause)

namespace Agree

variable {α β γ δ : Type} {related : α → β → Prop} {after : γ → δ → Prop}

theorem refl (outcome : Except Failure α) : Agree (· = ·) outcome outcome := by
  cases outcome with
  | ok value => exact .ok rfl
  | error cause => exact .failure cause

theorem map {outcome : Except Failure α} {other : Except Failure β} {change : α → γ}
    {otherChange : β → δ} (agree : Agree related outcome other)
    (changed : ∀ value otherValue, related value otherValue →
      after (change value) (otherChange otherValue)) :
    Agree after (outcome.map change) (other.map otherChange) := by
  cases agree with
  | ok same => exact .ok (changed _ _ same)
  | mismatch same => exact .mismatch same
  | failure cause => exact .failure cause

/-- Related values are those that the outcomes have. -/
theorem reached {outcome : Except Failure α} {other : Except Failure β}
    (agree : Agree related outcome other) :
    Agree (fun value otherValue => related value otherValue ∧ outcome = .ok value ∧
      other = .ok otherValue) outcome other := by
  cases agree with
  | ok same => exact .ok ⟨same, rfl, rfl⟩
  | mismatch same => exact .mismatch same
  | failure cause => exact .failure cause

/-- Computations in two steps come out alike if both steps do. -/
theorem bind {first : Traced α} {second : Traced β} {next : α → Traced γ} {otherNext : β → Traced δ}
    (agree : Agree related first.outcome second.outcome)
    (goesOn : ∀ value other, related value other →
      Agree after (next value).outcome (otherNext other).outcome) :
    Agree after (first >>= next).outcome (second >>= otherNext).outcome := by
  rw [Traced.outcome_bind, Traced.outcome_bind]
  generalize first.outcome = outcome at agree
  generalize second.outcome = other at agree
  cases agree with
  | ok same => exact goesOn _ _ same
  | mismatch same => exact .mismatch same
  | failure cause => exact .failure cause

/-- Traversals come out alike if they do at every item. -/
theorem mapM {step otherStep : α → Traced β} {items : List α}
    (agree : ∀ item ∈ items, Agree (· = ·) (step item).outcome (otherStep item).outcome) :
    Agree (· = ·) (items.mapM step).outcome (items.mapM otherStep).outcome := by
  induction items with
  | nil => exact refl _
  | cons item items ih =>
    rw [List.mapM_cons, List.mapM_cons]
    refine (agree item (by simp)).bind fun value other same => ?_
    refine (ih fun later member => agree later (by simp [member])).bind fun values others rest => ?_
    rw [same, rest]
    exact refl _

end Agree

/-- Options are never refused for a table. -/
theorem Options.ofValue_ne_tableMismatch (given : Value) (table : Reference)
    (candidates : List String) : ofValue given ≠ .error (.tableMismatch table candidates) := by
  rw [ofValue]
  split
  · exact nofun
  · cases Mapping.ofValue given with
    | error fault => exact nofun
    | ok mapping => cases read : ofFields mapping.fields <;> simp [read, Checked.orInvalid]

/-- A query is never refused for a table before it is compiled. -/
theorem Query.ofValue_ne_tableMismatch (given : Value) (table : Reference)
    (candidates : List String) : ofValue given ≠ .error (.tableMismatch table candidates) := by
  intro same
  rw [ofValue] at same
  split at same
  · cases same
  · split at same
    · cases same
    · cases same

namespace Catalog

variable {catalog other : Catalog} {table : Reference}

/-- A table with the same entities in both catalogs is resolved alike. -/
theorem agree_resolve (same : (catalog.entriesOf table).Perm (other.entriesOf table)) :
    Agree (· = ·) (catalog.resolve table) (other.resolve table) := by
  cases resolved : catalog.resolve table with
  | ok entry =>
    rw [resolve_eq_ok_iff.1 resolved] at same
    rw [resolve_eq_ok_iff.2 (List.singleton_perm.1 same).symm]
    exact .ok rfl
  | error failure =>
    obtain ⟨several, rfl⟩ := resolve_eq_error_iff.1 resolved
    have candidates : (catalog.identitiesOf table).Perm (other.identitiesOf table) :=
      same.map Prod.fst
    have otherSeveral : (other.identitiesOf table).length ≠ 1 := candidates.length_eq ▸ several
    rw [resolve_eq_error_iff.2 ⟨otherSeveral, rfl⟩]
    exact .mismatch candidates

/-- Schemas that define the same entities but for unrelated ones have the same entities under each
table that is looked up. -/
theorem entriesOf_perm {schema otherSchema given : Value} {fields otherFields : Dict Value}
    {target : Reference} (object : schema.fields? = some fields)
    (otherObject : otherSchema.fields? = some otherFields)
    (read : ofSchema [] schema = .ok catalog) (otherRead : ofSchema [] otherSchema = .ok other)
    (unrelated : ∀ key, fields.get? key = otherFields.get? key ∨
      Unrelated target given fields key ∧ Unrelated target given otherFields key)
    (looked : LooksUp target given table) :
    (catalog.entriesOf table).Perm (other.entriesOf table) := by
  have distinct : ∀ catalog : Catalog, (catalog.entriesOf table).Nodup := fun catalog =>
    List.filter_sublist.nodup (List.Nodup.of_map _ catalog.entities.distinct)
  rw [List.perm_ext_iff_of_nodup (distinct catalog) (distinct other)]
  rintro ⟨key, entity⟩
  rw [mem_entriesOf_iff object read, mem_entriesOf_iff otherObject otherRead]
  rcases unrelated key with same | ⟨absent, otherAbsent⟩
  · rw [same]
  · constructor
    · rintro ⟨definition, held, -, stored⟩
      exact absurd ⟨definition, held, stored⟩ (absent table looked)
    · rintro ⟨definition, held, -, stored⟩
      exact absurd ⟨definition, held, stored⟩ (otherAbsent table looked)

end Catalog

namespace Target

variable {target : Target} {query : Query} {other : Catalog}

/-- The same entity as the target of another catalog. -/
def within (target : Target) (catalog : Catalog) : Target := { target with catalog }

/-- Columns are collected alike in catalogs that have the same entities under the tables of the
children that are inlined. -/
theorem agree_collected
    (children : ∀ entry ∈ query.joins.toList, entry.2.strategy = .hasForeignKey →
      ∀ population rest, entry.2.populations = population :: rest →
        (target.catalog.entriesOf (.name population.child)).Perm
          (other.entriesOf (.name population.child))) :
    Agree (· = ·) (target.collected query).outcome
      ((target.within other).collected query).outcome := by
  rw [collected, collected]
  have own : (target.within other).column? = target.column? := rfl
  rw [own]
  refine (Agree.refl _).bind fun own otherOwn same => ?_
  have joined : ∀ entry ∈ query.joins.toList,
      Agree (· = ·) (target.joinColumns entry.1 entry.2).outcome
        ((target.within other).joinColumns entry.1 entry.2).outcome := by
    intro entry member
    rw [joinColumns, joinColumns]
    split
    · rename_i inline
      have strategy : entry.2.strategy = .hasForeignKey := by simpa [Join.isInline] using inline
      split
      · exact Agree.refl _
      · rename_i population rest populated
        rw [inlineColumns, inlineColumns]
        have located : Agree (· = ·) (target.catalog.locate (.name population.child)).outcome
            ((target.within other).catalog.locate (.name population.child)).outcome := by
          rw [Catalog.outcome_locate, Catalog.outcome_locate]
          exact Catalog.agree_resolve (children entry member strategy population rest populated)
        refine located.bind fun child otherChild sameChild => ?_
        rw [sameChild]
        exact Agree.refl _
    · exact Agree.refl _
  refine (Agree.mapM joined).bind fun columns others sameColumns => ?_
  rw [same, sameColumns]
  exact Agree.refl _

/-- A query is compiled alike for a target that both catalogs hold. -/
theorem agree_compile (held : target.Held) (otherHeld : (target.within other).Held)
    (children : ∀ entry ∈ query.joins.toList, entry.2.strategy = .hasForeignKey →
      ∀ population rest, entry.2.populations = population :: rest →
        (target.catalog.entriesOf (.name population.child)).Perm
          (other.entriesOf (.name population.child))) :
    Agree (· = ·) (target.compile query).outcome ((target.within other).compile query).outcome := by
  rw [outcome_compile, outcome_compile]
  split
  · rw [columns_of_held held, columns_of_held otherHeld]
    refine (agree_collected children).map ?_
    rintro columns _ rfl
    rfl
  · split
    · exact .failure _
    · exact .ok rfl

/-- Where the options are refused, there is no target. -/
theorem outcome_ofSchema_of_error {schema given : Value} {catalog : Catalog} {failure : Failure}
    (read : Catalog.ofSchema [] schema = .ok catalog)
    (failed : Options.ofValue given = .error failure) (table : Reference) :
    (ofSchema [] schema given table).outcome = .error failure := by
  rw [ofSchema, read, failed]
  rfl

/-- A target is found alike in schemas that have the same entities under its table. -/
theorem agree_ofSchema {schema otherSchema options : Value} {catalog : Catalog} {table : Reference}
    (read : Catalog.ofSchema [] schema = .ok catalog)
    (otherRead : Catalog.ofSchema [] otherSchema = .ok other)
    (same : (catalog.entriesOf table).Perm (other.entriesOf table)) :
    Agree (fun target otherTarget => otherTarget = target.within other)
      (ofSchema [] schema options table).outcome
      (ofSchema [] otherSchema options table).outcome := by
  cases chosen : Options.ofValue options with
  | error failure =>
    rw [outcome_ofSchema_of_error read chosen, outcome_ofSchema_of_error otherRead chosen]
    exact .failure failure
  | ok options =>
    rw [ofSchema_eq_ofTable read chosen, ofSchema_eq_ofTable otherRead chosen, outcome_ofTable,
      outcome_ofTable]
    refine (Catalog.agree_resolve same).map ?_
    rintro entry _ rfl
    rfl

/-- The candidates of a failure are the identities of the catalog's entities under its table. -/
theorem candidates_of_compileSelect {schema options given : Value} {catalog : Catalog}
    {table mismatched : Reference} {candidates : List String}
    (read : Catalog.ofSchema [] schema = .ok catalog)
    (failed : (compileSelect schema options table given).outcome =
      .error (.tableMismatch mismatched candidates)) :
    candidates = catalog.identitiesOf mismatched := by
  rw [compileSelect, Traced.outcome_bind_eq_error_iff] at failed
  rcases failed with failed | ⟨target, found, failed⟩
  · cases chosen : Options.ofValue options with
    | error failure =>
      rw [outcome_ofSchema_of_error read chosen] at failed
      cases failed
      exact absurd chosen (Options.ofValue_ne_tableMismatch _ _ _)
    | ok options =>
      rw [ofSchema_eq_ofTable read chosen, outcome_ofTable] at failed
      cases resolved : catalog.resolve table with
      | ok entry =>
        rw [resolved] at failed
        cases failed
      | error failure =>
        rw [resolved] at failed
        cases failed
        obtain ⟨-, same⟩ := Catalog.resolve_eq_error_iff.1 resolved
        cases same
        rfl
  · have held := held_of_ofSchema found
    obtain ⟨sameCatalog, -, -⟩ := ofSchema_eq_ok_iff.1 found
    rw [read] at sameCatalog
    cases sameCatalog
    rw [build, Traced.outcome_bind_eq_error_iff] at failed
    rcases failed with failed | ⟨query, -, failed⟩
    · exact absurd failed (Query.ofValue_ne_tableMismatch _ _ _)
    · rcases compile_eq_error_iff.1 failed with ⟨-, failed⟩ | ⟨-, -, same⟩
      · rw [columns_of_held held, collected_eq_error_iff] at failed
        obtain ⟨_, _, _, _, _, _, _, _, same⟩ := failed
        cases same
        rfl
      · cases same

/-- **Unrelated entities cannot change a compilation.** Two valid schemas may have their entities in
another order, and any entities that none of the looked-up tables holds in either: one query for one
table has the same result in both, or fails in both alike, where the candidates for a table are the
same up to their order. This order is that of each schema. -/
theorem compileSelect_unrelated {schema otherSchema options given : Value} {table : Reference}
    {fields otherFields : Dict Value} {catalog other : Catalog}
    (object : schema.fields? = some fields) (otherObject : otherSchema.fields? = some otherFields)
    (read : Catalog.ofSchema [] schema = .ok catalog)
    (otherRead : Catalog.ofSchema [] otherSchema = .ok other)
    (unrelated : ∀ key, fields.get? key = otherFields.get? key ∨
      Unrelated table given fields key ∧ Unrelated table given otherFields key) :
    Agree (· = ·) (compileSelect schema options table given).outcome
        (compileSelect otherSchema options table given).outcome ∧
      ∀ mismatched candidates,
        ((compileSelect schema options table given).outcome =
            .error (.tableMismatch mismatched candidates) → candidates.Sublist fields.keys) ∧
          ((compileSelect otherSchema options table given).outcome =
            .error (.tableMismatch mismatched candidates) →
              candidates.Sublist otherFields.keys) := by
  refine ⟨?_, fun mismatched candidates => ⟨fun failed => ?_, fun failed => ?_⟩⟩
  · have perm : ∀ looked, LooksUp table given looked →
        (catalog.entriesOf looked).Perm (other.entriesOf looked) := fun looked =>
      Catalog.entriesOf_perm object otherObject read otherRead unrelated
    refine (agree_ofSchema read otherRead (perm table .target)).reached.bind ?_
    rintro target _ ⟨rfl, found, otherFound⟩
    obtain ⟨sameCatalog, -, -⟩ := ofSchema_eq_ok_iff.1 found
    rw [read] at sameCatalog
    cases sameCatalog
    rw [build, build]
    have queries : Agree (· = ·) (Traced.ofExcept (Query.ofValue given)).outcome
      (Traced.ofExcept (Query.ofValue given)).outcome := Agree.refl _
    refine queries.reached.bind ?_
    rintro query _ ⟨rfl, valid, -⟩
    refine agree_compile (held_of_ofSchema found) (held_of_ofSchema otherFound) ?_
    rintro ⟨name, join⟩ member strategy population rest populated
    exact perm _ (.child valid member strategy populated)
  · rw [candidates_of_compileSelect read failed]
    exact Catalog.identitiesOf_sublist object read mismatched
  · rw [candidates_of_compileSelect otherRead failed]
    exact Catalog.identitiesOf_sublist otherObject otherRead mismatched

/-- A clinic for pets, with its staff, where visits and calls are in one table. -/
def clinicFields : Dict Value := Dict.ofList [
  ("pet", .record [("tableName", .text "pets"), ("attributes", .record [
    ("name", .record [("columnName", .text "pet_name")])])]),
  ("visit", .record [("tableName", .text "visits")]),
  ("call", .record [("table_name", .text "visits")]),
  ("vet", .record [("tableName", .text "staff")]),
  ("nurse", .record [("table_name", .text "staff")]),
  ("user", .record [("tableName", .text "users"), ("attributes", .record [
    ("city", .text "string")])])]

/-- The clinic in another order, where visits are stays, calls are gone and bills are in no
table. -/
def revisedFields : Dict Value := Dict.ofList [
  ("user", .record [("tableName", .text "users"), ("attributes", .record [
    ("city", .text "string")])]),
  ("nurse", .record [("table_name", .text "staff")]),
  ("visit", .record [("tableName", .text "stays"), ("identity", .text "stay")]),
  ("vet", .record [("tableName", .text "staff")]),
  ("bill", .record [("tableName", .null), ("table_name", .text "pets")]),
  ("pet", .record [("tableName", .text "pets"), ("attributes", .record [
    ("name", .record [("columnName", .text "pet_name")])])])]

/-- The names of pets with their owners. -/
def ownersQuery : Value := .record [
  ("select", .text "name"),
  ("instructions", .record [("owner", .record [
    ("strategy", .int 1),
    ("instructions", .list [
      .record [("child", .text "users"), ("parentKey", .text "owner")],
      .record [("child", .text "visits")]])])])]

/-- The names of pets with the cities of their owners. -/
def ownersProjection : Compiled := Compiled.projection {} [
  { table := "pet", name := "pet_name" },
  { table := "users", name := "city", key := some "owner" }] "pets"

/-- The owners of pets are found alike in both clinics, and staff in neither. -/
theorem compileSelect_unrelated_clinic :
    ∃ catalog other,
      Catalog.ofSchema [] (.ofDict clinicFields) = .ok catalog ∧
      Catalog.ofSchema [] (.ofDict revisedFields) = .ok other ∧
      (∀ key, clinicFields.get? key = revisedFields.get? key ∨
        Unrelated (.name "pets") ownersQuery clinicFields key ∧
          Unrelated (.name "pets") ownersQuery revisedFields key) ∧
      Agree (· = ·)
        (compileSelect (.ofDict clinicFields) .null (.name "pets") ownersQuery).outcome
        (compileSelect (.ofDict revisedFields) .null (.name "pets") ownersQuery).outcome ∧
      (compileSelect (.ofDict clinicFields) .null (.name "pets") ownersQuery).outcome =
        .ok ownersProjection ∧
      (compileSelect (.ofDict revisedFields) .null (.name "pets") ownersQuery).outcome =
        .ok ownersProjection ∧
      (∀ key, clinicFields.get? key = revisedFields.get? key ∨
        Unrelated (.name "staff") .null clinicFields key ∧
          Unrelated (.name "staff") .null revisedFields key) ∧
      Agree (· = ·) (compileSelect (.ofDict clinicFields) .null (.name "staff") .null).outcome
        (compileSelect (.ofDict revisedFields) .null (.name "staff") .null).outcome ∧
      (compileSelect (.ofDict clinicFields) .null (.name "staff") .null).outcome =
        .error (.tableMismatch (.name "staff") ["vet", "nurse"]) ∧
      (compileSelect (.ofDict revisedFields) .null (.name "staff") .null).outcome =
        .error (.tableMismatch (.name "staff") ["nurse", "vet"]) := by
  have object := Value.fields?_ofDict clinicFields
  have otherObject := Value.fields?_ofDict revisedFields
  obtain ⟨catalog, read, pets, users, staff⟩ : ∃ catalog,
      Catalog.ofSchema [] (.ofDict clinicFields) = .ok catalog ∧
        catalog.identitiesOf (.name "pets") = ["pet"] ∧
        catalog.identitiesOf (.name "users") = ["user"] ∧
        catalog.identitiesOf (.name "staff") = ["vet", "nurse"] := ⟨_, rfl, rfl, rfl, rfl⟩
  obtain ⟨other, otherRead, otherPets, otherUsers, otherStaff⟩ : ∃ other,
      Catalog.ofSchema [] (.ofDict revisedFields) = .ok other ∧
        other.identitiesOf (.name "pets") = ["pet"] ∧
        other.identitiesOf (.name "users") = ["user"] ∧
        other.identitiesOf (.name "staff") = ["nurse", "vet"] := ⟨_, rfl, rfl, rfl, rfl⟩
  -- All keys that have one of these tables have the same definition in both clinics.
  have apart : ∀ key, clinicFields.get? key = revisedFields.get? key ∨
      ∀ looked, looked = .name "pets" ∨ looked = .name "users" ∨ looked = .name "staff" →
        ¬ TableOf clinicFields key looked ∧ ¬ TableOf revisedFields key looked := by
    intro key
    by_cases shared : key ∈ ["pet", "user", "vet", "nurse"]
    · simp only [List.mem_cons, List.not_mem_nil, or_false] at shared
      rcases shared with rfl | rfl | rfl | rfl <;> exact .inl rfl
    · simp only [List.mem_cons, List.not_mem_nil, or_false, not_or] at shared
      refine .inr fun looked known => ?_
      rw [← Catalog.mem_identitiesOf_iff object read,
        ← Catalog.mem_identitiesOf_iff otherObject otherRead]
      rcases known with rfl | rfl | rfl
      · simp [pets, otherPets, shared]
      · simp [users, otherUsers, shared]
      · simp [staff, otherStaff, shared]
  have unrelated : ∀ key, clinicFields.get? key = revisedFields.get? key ∨
      Unrelated (.name "pets") ownersQuery clinicFields key ∧
        Unrelated (.name "pets") ownersQuery revisedFields key := by
    have known : ∀ looked, LooksUp (.name "pets") ownersQuery looked →
        looked = .name "pets" ∨ looked = .name "users" ∨ looked = .name "staff" := by
      intro looked looksUp
      cases looksUp with
      | target => exact .inl rfl
      | child valid member strategy populated =>
        cases valid
        cases List.mem_singleton.1 member
        cases populated
        exact .inr (.inl rfl)
    exact fun key => (apart key).imp_right fun absent =>
      ⟨fun looked looksUp => (absent looked (known looked looksUp)).1,
        fun looked looksUp => (absent looked (known looked looksUp)).2⟩
  have unrelatedStaff : ∀ key, clinicFields.get? key = revisedFields.get? key ∨
      Unrelated (.name "staff") .null clinicFields key ∧
        Unrelated (.name "staff") .null revisedFields key := by
    have known : ∀ looked, LooksUp (.name "staff") .null looked → looked = .name "staff" := by
      intro looked looksUp
      cases looksUp with
      | target => rfl
      | child valid member strategy populated =>
        cases valid
        cases member
    exact fun key => (apart key).imp_right fun absent =>
      ⟨fun looked looksUp => (absent looked (.inr (.inr (known looked looksUp)))).1,
        fun looked looksUp => (absent looked (.inr (.inr (known looked looksUp)))).2⟩
  exact ⟨catalog, other, read, otherRead, unrelated,
    (compileSelect_unrelated object otherObject read otherRead unrelated).1, rfl, rfl,
    unrelatedStaff, (compileSelect_unrelated object otherObject read otherRead unrelatedStaff).1,
    rfl, rfl⟩

end Target

end SelectClause

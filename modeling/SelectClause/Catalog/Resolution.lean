import SelectClause.Catalog
import SelectClause.Trace

/-! # Resolving tables and identities

A table is resolved to the one entity that it holds. A table of several entities, or of none,
cannot be resolved, and the failure names the candidates in the order of the catalog.

`resolve_eq_ok_iff` and `resolve_eq_error_iff` say when each of the two happens, and
`entity_of_resolve_eq_ok` that a resolved identity is one of the catalog's.
-/

namespace SelectClause.Catalog

/-- The entity of an identity. References that are no names match none. -/
def entity (catalog : Catalog) (identity : Reference) : Except Failure Entity :=
  match identity with
  | .name content =>
      match catalog.entities.get? content with
      | some definition => .ok definition
      | none => .error (.unknownEntity identity)
  | _ => .error (.unknownEntity identity)

/-- The entities that a table holds, with their identities. -/
def entriesOf (catalog : Catalog) (table : Reference) : List (String × Entity) :=
  catalog.entities.toList.filter fun entry => Reference.ofName? entry.2.tableName = table

/-- The identities of the entities that a table holds. -/
def identitiesOf (catalog : Catalog) (table : Reference) : List String :=
  (catalog.entriesOf table).map Prod.fst

/-- The one entity that a table holds, with its identity. -/
def resolve (catalog : Catalog) (table : Reference) : Except Failure (String × Entity) :=
  match catalog.entriesOf table with
  | [entry] => .ok entry
  | entries => .error (.tableMismatch table (entries.map Prod.fst))

/-- The one entity that a table holds, with its identity. The table is resolved to the identity,
which is an event, and the entity is looked up by it. -/
def locate (catalog : Catalog) (table : Reference) : Traced (String × Entity) := do
  let resolved ← catalog.resolve table
  Traced.log (.tableResolved table resolved.1)
  let entity ← catalog.entity (.name resolved.1)
  return (resolved.1, entity)

variable {catalog : Catalog} {table : Reference}

/-- A table is resolved just if it holds one entity. -/
theorem resolve_eq_ok_iff {entry : String × Entity} :
    catalog.resolve table = .ok entry ↔ catalog.entriesOf table = [entry] := by
  rw [resolve]
  split
  · rename_i single found
    simp [found]
  · rename_i other
    constructor
    · intro impossible
      cases impossible
    · intro found
      exact absurd found (other entry)

/-- A table is not resolved just if it holds no entity or several. -/
theorem resolve_eq_error_iff {failure : Failure} :
    catalog.resolve table = .error failure ↔
      (catalog.identitiesOf table).length ≠ 1 ∧
        failure = .tableMismatch table (catalog.identitiesOf table) := by
  rw [resolve, identitiesOf]
  split
  · rename_i single found
    simp [found]
  · rename_i other
    have several : (catalog.entriesOf table).length ≠ 1 := by
      intro single
      obtain ⟨entry, found⟩ := List.length_eq_one_iff.1 single
      exact other entry found
    simp [several, eq_comm]

/-- A resolved identity is one of the catalog's, and has the resolved entity. -/
theorem entity_of_resolve_eq_ok {entry : String × Entity}
    (resolved : catalog.resolve table = .ok entry) :
    catalog.entity (.name entry.1) = .ok entry.2 := by
  have member : entry ∈ catalog.entriesOf table := by simp [resolve_eq_ok_iff.1 resolved]
  have held : catalog.entities.get? entry.1 = some entry.2 :=
    Dict.get?_eq_some_iff.2 (List.mem_filter.1 member).1
  simp [entity, held]

/-- A table that is resolved is located, which is the one event. -/
theorem locate_of_resolve {entry : String × Entity}
    (resolved : catalog.resolve table = .ok entry) :
    catalog.locate table = ⟨[.tableResolved table entry.1], .ok entry⟩ := by
  rw [locate, resolved, Traced.liftM_eq, Traced.ofExcept_ok_bind]
  simp only [entity_of_resolve_eq_ok resolved]
  rfl

/-- Locating a table comes out as resolving it does. -/
theorem outcome_locate (catalog : Catalog) (table : Reference) :
    (catalog.locate table).outcome = catalog.resolve table := by
  cases resolved : catalog.resolve table with
  | error failure => simp [locate, resolved]
  | ok entry => rw [locate_of_resolve resolved]

end SelectClause.Catalog

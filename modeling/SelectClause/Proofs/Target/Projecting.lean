import Mathlib.Data.List.Induction
import SelectClause.Proofs.Target.Collecting
import SelectClause.Proofs.Validation.Given

/-! # A projection is what was asked for

What a query asks of a target is stated without the functions that collect it (`Target.Asked`): the
requested names are those of the selection, or all declared ones, and those of the fetch plan, each
once and in the order of their first occurrence (`FirstOccurrences`). Every requested name that is
no collection gives one column of the target, then comes the column for all columns if the query
allows for undeclared attributes and selects none, and then the columns that each join adds. A
compiled projection has these columns and no others (`columns_iff_asked`).
-/

namespace SelectClause

/-- The names of a list, each once, in the order in which they first occur. -/
structure FirstOccurrences (names firsts : List String) : Prop where
  mem_iff : ∀ name, name ∈ firsts ↔ name ∈ names
  ascending : firsts.Pairwise fun earlier later => names.idxOf earlier < names.idxOf later

/-- No name occurs first at two places. -/
theorem FirstOccurrences.nodup {names firsts : List String}
    (first : FirstOccurrences names firsts) : firsts.Nodup := by
  refine first.ascending.imp ?_
  rintro earlier later below rfl
  exact Nat.lt_irrefl _ below

/-- Erasing repeated names leaves each at its first place. -/
theorem firstOccurrences_eraseDups (names : List String) :
    FirstOccurrences names names.eraseDups := by
  refine ⟨fun name => List.mem_eraseDups, ?_⟩
  -- By induction from the end, since a name at the end changes no place of an earlier one.
  induction names using List.reverseRecOn with
  | nil => simp
  | append_singleton names last ih =>
    have kept : ∀ name ∈ names.eraseDups, (names ++ [last]).idxOf name = names.idxOf name :=
      fun name member => List.idxOf_append_of_mem (List.mem_eraseDups.1 member)
    have before : names.eraseDups.Pairwise fun earlier later =>
        (names ++ [last]).idxOf earlier < (names ++ [last]).idxOf later := by
      refine ih.imp_of_mem ?_
      intro earlier later earlierMember laterMember below
      rwa [kept earlier earlierMember, kept later laterMember]
    rw [List.eraseDups_append]
    by_cases repeated : last ∈ names
    · simpa [List.removeAll, repeated] using before
    · have new : (List.removeAll [last] names).eraseDups = [last] := by
        simp [List.removeAll, repeated, List.eraseDups_cons]
      rw [new, List.pairwise_append]
      refine ⟨before, by simp, ?_⟩
      intro earlier member later single
      rw [List.mem_singleton.1 single, kept earlier member, List.idxOf_append_of_notMem repeated]
      have within := List.idxOf_lt_length_of_mem (List.mem_eraseDups.1 member)
      omega

/-- The first occurrences of names are what is left when later ones are erased. -/
theorem firstOccurrences_iff {names firsts : List String} :
    FirstOccurrences names firsts ↔ firsts = names.eraseDups := by
  constructor
  · intro first
    have own := firstOccurrences_eraseDups names
    have same : firsts.Perm names.eraseDups := by
      rw [List.perm_ext_iff_of_nodup first.nodup own.nodup]
      intro name
      rw [first.mem_iff, own.mem_iff]
    refine List.Perm.eq_of_pairwise ?_ first.ascending own.ascending same
    intro earlier later _ _ below above
    omega
  · rintro rfl
    exact firstOccurrences_eraseDups names

namespace Target

/-- The column of a requested attribute. A name that is not declared has the empty definition. -/
structure Holds (target : Target) (name : String) (column : Column) : Prop where
  table : column.table = target.identity
  name : (target.entity.definitionOf name).StoredAs (target.options.Renames name) column.name
  key : column.key = none

/-- What a query asks a target to project. -/
inductive Asked (target : Target) (query : Query) : List Column → Prop where
  | intro {names : List String} {own wildcard : List Column} {joined : List (List Column)}
      (requested : FirstOccurrences (query.select.getD target.entity.attributes.keys ++
        (query.fetchPlan.map FetchPlan.select).getD []) names)
      (held : Placed (fun name => (target.entity.definitionOf name).collection ≠ none)
        target.Holds names own)
      (others : wildcard = if query.schemaless = true ∧ query.select = none then
        [{ table := target.identity, name := target.options.wildcard }] else [])
      (added : List.Forall₂ (fun entry columns =>
        Join.Adds target.catalog target.options entry.2 columns) query.joins.toList joined) :
      Asked target query (own ++ wildcard ++ joined.flatten)

variable {target : Target} {query : Query} {columns : List Column}

/-- An attribute is held by one column. -/
theorem holds_iff {name : String} {column : Column} :
    target.Holds name column ↔ column = target.columnOf name := by
  have named : (target.entity.definitionOf name).StoredAs (target.options.Renames name)
      column.name ↔ column.name = (target.columnOf name).name :=
    Attribute.storedAs_iff_eq_getD fun _ => Options.renames_iff_eq_identityColumn
  constructor
  · rintro ⟨table, name, key⟩
    obtain ⟨columnTable, columnName, columnKey⟩ := column
    rw [columnOf, Column.mk.injEq]
    exact ⟨table, named.1 name, key⟩
  · rintro rfl
    exact ⟨rfl, named.2 rfl, rfl⟩

/-- The columns of the target are those of the requested attributes that are no collections. -/
theorem placed_holds_iff {names : List String} :
    Placed (fun name => (target.entity.definitionOf name).collection ≠ none) target.Holds names
        columns ↔
      columns = (names.filter fun name => !(target.entity.definitionOf name).isCollection).map
        target.columnOf := by
  refine placed_iff (fun name => Attribute.isCollection_iff.symm) ?_
  intro name column
  exact holds_iff

/-- What a query asks for is what is collected for it. -/
theorem asked_iff_collected :
    Asked target query columns ↔ (target.collected query).outcome = .ok columns := by
  have wildcard : target.wildcardColumns query =
      if query.schemaless = true ∧ query.select = none then
        [{ table := target.identity, name := target.options.wildcard }] else [] := by
    rw [wildcardColumns, Query.hasSelection]
    cases query.schemaless <;> cases query.select <;> simp
  rw [collected_eq_ok_iff, wildcard]
  constructor
  · rintro ⟨requested, held, others, added⟩
    rw [firstOccurrences_iff] at requested
    rw [placed_holds_iff, requested] at held
    exact ⟨_, added, by rw [held, others]; rfl⟩
  · rintro ⟨joined, added, rfl⟩
    exact .intro (firstOccurrences_iff.2 rfl) (placed_holds_iff.2 rfl) rfl added

/-- **A compiled projection has the columns that were asked for, and no others.** An attribute is a
collection as soon as its definition has the field, and an empty list of names is a selection. -/
theorem columns_iff_asked {beforehand : List String} {schema given : Value} {table : Reference}
    {compiled : Compiled}
    (found : (ofSchema beforehand schema given table).outcome = .ok target)
    (succeeds : (target.compile query).outcome = .ok compiled)
    (projects : compiled.mode = .projection) :
    (∀ columns, Asked target query columns ↔ columns = compiled.columns) ∧
      (∀ (fields : Dict Value) (definition : Attribute),
        Attribute.check (.ofDict fields) = .ok definition →
          (definition.collection = none ↔ "collection" ∉ fields.keys)) ∧
      ∀ (fields : Dict Value) (query : Query), Query.ofValue (.ofDict fields) = .ok query →
        (query.select = none ↔
          fields.get? "select" = none ∨ fields.get? "select" = some .null) := by
  refine ⟨?_, fun _ _ => Attribute.collection_eq_none_iff, fun _ _ => Query.select_eq_none_iff⟩
  intro columns
  obtain ⟨collects, -⟩ := eq_projection_of_mode succeeds projects
  rw [columns_of_held (held_of_ofSchema found)] at collects
  rw [asked_iff_collected, collects]
  simp [eq_comm]

/-- Pets, whose toys are a collection of nothing, and their owners. -/
def shelterSchema : Value := .record [
  ("pet", .record [("tableName", .text "pets"), ("attributes", .record [
    ("id", .text "string"), ("name", .record [("columnName", .text "pet_name")]),
    ("toys", .record [("collection", .null)])])]),
  ("user", .record [("tableName", .text "users"), ("attributes", .record [
    ("id", .record [("columnName", .text "")]), ("pets", .record [("collection", .text "pet")])])])]

/-- Pets as the schema has them. -/
def shelterTarget : Target where
  catalog := ⟨Dict.ofList [
    ("pet", {
      identity := some (some "pet"), table := some (some "pets")
      declared := some (Dict.ofList [
        ("id", { type := some (some "string") }),
        ("name", { columnName := some (some "pet_name") }),
        ("toys", { collection := some none })]) }),
    ("user", {
      identity := some (some "user"), table := some (some "users")
      declared := some (Dict.ofList [
        ("id", { columnName := some (some "") }),
        ("pets", { collection := some (some "pet") })]) })]⟩
  options := {}
  identity := "pet"
  entity := {
    identity := some (some "pet"), table := some (some "pets")
    declared := some (Dict.ofList [
      ("id", { type := some (some "string") }), ("name", { columnName := some (some "pet_name") }),
      ("toys", { collection := some none })]) }

/-- Everything about pets with their owners, where some attributes are asked for twice. -/
def shelterQuery : Query where
  fetchPlan := some { select := ["nick", "name", "toys"] }
  schemaless := true
  joins := Dict.ofList [("owner", {
    strategy := .hasForeignKey
    populations := [{ child := "users", parentKey := some "owner", aliasName := some "keeper" }] })]

/-- The columns that are asked for, without collections and with the owners' table named by the
alias. -/
def shelterProjection : Compiled := Compiled.projection {} [
  { table := "pet", name := "@rid" }, { table := "pet", name := "pet_name" },
  { table := "pet", name := "nick" }, { table := "pet", name := "*" },
  { table := "__keeper", name := "id", key := some "owner" }] "pets"

/-- The columns for pets with their owners are those that the query asks for. -/
theorem columns_iff_asked_shelter :
    (ofSchema [] shelterSchema .null (.name "pets")).outcome = .ok shelterTarget ∧
      (shelterTarget.compile shelterQuery).outcome = .ok shelterProjection ∧
      shelterProjection.mode = .projection ∧
      Asked shelterTarget shelterQuery shelterProjection.columns := by
  have found : (ofSchema [] shelterSchema .null (.name "pets")).outcome = .ok shelterTarget := rfl
  have succeeds : (shelterTarget.compile shelterQuery).outcome = .ok shelterProjection := rfl
  exact ⟨found, succeeds, rfl, ((columns_iff_asked found succeeds rfl).1 _).2 rfl⟩

end Target

end SelectClause

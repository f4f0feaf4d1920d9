import Mathlib.Data.List.Nodup
import SelectClause.Proofs.Target.Inlining

/-! # When columns of a projection collide

Every column of a projection comes from a source of its own: a requested attribute, the option for
all columns, or an attribute of an inlined child (`Target.accounts_columns`). No source is used
twice, since repeated names are dropped before they are turned into columns. Two sources may yet
give columns of one output name, and then a row of the result has one value for both. With the
parents' keys given, output names are distinct just if no two sources are so related
(`Target.outputNames_nodup_iff`).
-/

namespace SelectClause

/-- What a column of a projection stands for. -/
inductive Source where
  | requested (name : String)
  | everything
  /-- An attribute of the child that a join inlines. -/
  | inlined (join attributeName : String)
  deriving DecidableEq

/-- The columns come from distinct sources, one from each source that gives a column. -/
def Accounts (gives : Source → Column → Prop) (columns : List Column) : Prop :=
  ∃ sources : List (Source × Column), (sources.map Prod.fst).Nodup ∧
    sources.map Prod.snd = columns ∧
    ∀ source column, (source, column) ∈ sources ↔ gives source column

namespace Accounts

variable {gives others : Source → Column → Prop} {columns more : List Column}

/-- Columns may be accounted for by the same sources in other words. -/
theorem of_iff (accounts : Accounts gives columns)
    (same : ∀ source column, gives source column ↔ others source column) :
    Accounts others columns := by
  obtain ⟨sources, distinct, listed, exact⟩ := accounts
  exact ⟨sources, distinct, listed, fun source column => (exact source column).trans (same _ _)⟩

/-- Columns from different sources may be put behind each other. -/
theorem append (accounts : Accounts gives columns) (rest : Accounts others more)
    (apart : ∀ source column other, gives source column → ¬ others source other) :
    Accounts (fun source column => gives source column ∨ others source column)
      (columns ++ more) := by
  obtain ⟨sources, distinct, rfl, exact⟩ := accounts
  obtain ⟨further, furtherDistinct, rfl, furtherExact⟩ := rest
  refine ⟨sources ++ further, ?_, List.map_append, ?_⟩
  · rw [List.map_append, List.nodup_append]
    refine ⟨distinct, furtherDistinct, ?_⟩
    rintro source member _ otherMember rfl
    obtain ⟨⟨_, column⟩, present, rfl⟩ := List.mem_map.1 member
    obtain ⟨⟨_, otherColumn⟩, otherPresent, same⟩ := List.mem_map.1 otherMember
    cases same
    exact apart _ _ _ ((exact _ _).1 present) ((furtherExact _ _).1 otherPresent)
  · intro source column
    rw [List.mem_append, exact, furtherExact]

/-- Items that are placed are sources of their columns. -/
theorem of_placed {α : Type} {passed : α → Prop} {places : α → Column → Prop} {items : List α}
    {sourceOf : α → Source} (distinct : (items.map sourceOf).Nodup)
    (placed : Placed passed places items columns)
    (unique : ∀ item column other, places item column → places item other → column = other) :
    Accounts (fun source column => ∃ item ∈ items, sourceOf item = source ∧ ¬ passed item ∧
      places item column) columns := by
  induction placed with
  | nil => exact ⟨[], .nil, rfl, by simp⟩
  | @pass item items columns passes rest ih =>
    rw [List.map_cons, List.nodup_cons] at distinct
    refine (ih distinct.2).of_iff fun source column => ?_
    simp [passes]
  | @give item items first columns kept given rest ih =>
    rw [List.map_cons, List.nodup_cons] at distinct
    obtain ⟨sources, others, rfl, exact⟩ := ih distinct.2
    refine ⟨(sourceOf item, first) :: sources, ?_, rfl, ?_⟩
    · rw [List.map_cons, List.nodup_cons]
      refine ⟨?_, others⟩
      intro member
      obtain ⟨⟨source, column⟩, present, same⟩ := List.mem_map.1 member
      cases same
      obtain ⟨other, otherMember, same, -⟩ := (exact _ _).1 present
      exact distinct.1 (List.mem_map.2 ⟨other, otherMember, same⟩)
    · intro source column
      rw [List.mem_cons, exact, Prod.mk.injEq]
      constructor
      · rintro (⟨rfl, rfl⟩ | ⟨other, member, same, kept, places⟩)
        · exact ⟨item, by simp, rfl, kept, given⟩
        · exact ⟨other, by simp [member], same, kept, places⟩
      · rintro ⟨other, member, rfl, kept, places⟩
        rcases List.mem_cons.1 member with rfl | member
        · exact .inl ⟨rfl, unique _ _ _ places given⟩
        · exact .inr ⟨other, member, rfl, kept, places⟩

/-- What is said of the columns is distinct just if it tells their sources apart. -/
theorem nodup_map_iff {α : Type} (accounts : Accounts gives columns) (said : Column → α) :
    (columns.map said).Nodup ↔ ∀ source column other otherColumn, gives source column →
      gives other otherColumn → said column = said otherColumn → source = other := by
  obtain ⟨sources, distinct, rfl, exact⟩ := accounts
  rw [List.map_map, List.nodup_map_iff_inj_on (List.Nodup.of_map _ distinct)]
  constructor
  · intro injective source column other otherColumn gave otherGave same
    have pairs := injective _ ((exact _ _).2 gave) _ ((exact _ _).2 otherGave) same
    exact congrArg Prod.fst pairs
  · rintro apart ⟨source, column⟩ member ⟨other, otherColumn⟩ otherMember same
    have sources := apart _ _ _ _ ((exact _ _).1 member) ((exact _ _).1 otherMember) same
    exact List.inj_on_of_nodup_map distinct member otherMember sources

end Accounts

/-- The columns that a join gives, if its first child is inlined. -/
inductive Join.Gives (catalog : Catalog) (options : Options) (name : String) (join : Join) :
    Source → Column → Prop where
  | inlined {population : Population} {rest : List Population} {child : String × Entity}
      {attributeName : String} {definition : Attribute} {column : Column}
      (strategy : join.strategy = .hasForeignKey)
      (populated : join.populations = population :: rest)
      (found : catalog.entriesOf (.name population.child) = [child])
      (declared : (attributeName, definition) ∈ child.2.attributes.toList)
      (single : definition.collection = none)
      (inlines : Inlines options population (attributeName, definition) column) :
      Gives catalog options name join (.inlined name attributeName) column

/-- What a join gives comes from an attribute under its name. -/
theorem Join.Gives.exists_eq {catalog : Catalog} {options : Options} {name : String} {join : Join}
    {source : Source} {column : Column} (gives : join.Gives catalog options name source column) :
    ∃ attributeName, source = .inlined name attributeName := by
  cases gives
  exact ⟨_, rfl⟩

/-- What a join adds comes from the attributes of its first child. -/
theorem Join.accounts_of_adds {catalog : Catalog} {options : Options} {join : Join}
    {columns : List Column} (name : String) (adds : join.Adds catalog options columns) :
    Accounts (join.Gives catalog options name) columns := by
  cases adds with
  | left elsewhere =>
    refine ⟨[], .nil, rfl, fun source column => ⟨fun member => absurd member (by simp), ?_⟩⟩
    rintro ⟨strategy⟩
    exact absurd strategy elsewhere
  | unpopulated none =>
    refine ⟨[], .nil, rfl, fun source column => ⟨fun member => absurd member (by simp), ?_⟩⟩
    rintro ⟨-, populated⟩
    rw [none] at populated
    cases populated
  | @inlined population rest child columns strategy populated found placed =>
    have distinct : (child.2.attributes.toList.map fun entry =>
        Source.inlined name entry.1).Nodup := by
      have injective : Function.Injective (Source.inlined name) := by
        intro first second same
        cases same
        rfl
      simpa [List.map_map, Function.comp_def] using child.2.attributes.distinct.map injective
    refine (Accounts.of_placed distinct placed fun entry column other inlines otherInlines =>
      (Target.inlines_iff.1 inlines).trans (Target.inlines_iff.1 otherInlines).symm).of_iff ?_
    intro source column
    constructor
    · rintro ⟨⟨attributeName, definition⟩, declared, rfl, single, inlines⟩
      exact .inlined strategy populated found declared (not_not.1 single) inlines
    · rintro ⟨-, otherPopulated, otherFound, declared, single, inlines⟩
      rw [populated] at otherPopulated
      cases otherPopulated
      rw [found] at otherFound
      cases otherFound
      exact ⟨_, declared, rfl, not_not.2 single, inlines⟩

/-- What joins under different names add comes from different sources. -/
theorem accounts_flatten {catalog : Catalog} {options : Options} {joins : List (String × Join)}
    {joined : List (List Column)} (distinct : (joins.map Prod.fst).Nodup)
    (adds : List.Forall₂ (fun entry columns => Join.Adds catalog options entry.2 columns)
      joins joined) :
    Accounts (fun source column => ∃ entry ∈ joins,
      entry.2.Gives catalog options entry.1 source column) joined.flatten := by
  induction adds with
  | nil => exact ⟨[], .nil, rfl, by simp⟩
  | @cons entry columns joins joined head tail ih =>
    rw [List.map_cons, List.nodup_cons] at distinct
    refine ((Join.accounts_of_adds entry.1 head).append (ih distinct.2) ?_).of_iff ?_
    · rintro source column other given ⟨later, member, otherGiven⟩
      obtain ⟨attributeName, rfl⟩ := given.exists_eq
      obtain ⟨otherName, same⟩ := otherGiven.exists_eq
      injection same with names
      exact distinct.1 (List.mem_map.2 ⟨later, member, names.symm⟩)
    · intro source column
      simp

namespace Target

/-- The column that a source gives to the projection of a query. -/
inductive Gives (target : Target) (query : Query) : Source → Column → Prop where
  | requested {name : String} {column : Column}
      (asked : name ∈ query.select.getD target.entity.attributes.keys ++
        (query.fetchPlan.map FetchPlan.select).getD [])
      (single : (target.entity.definitionOf name).collection = none)
      (held : target.Holds name column) : Gives target query (.requested name) column
  | everything (schemaless : query.schemaless = true) (unselected : query.select = none) :
      Gives target query .everything
        { table := target.identity, name := target.options.wildcard }
  | inlined {name : String} {join : Join} {source : Source} {column : Column}
      (joined : (name, join) ∈ query.joins.toList)
      (given : join.Gives target.catalog target.options name source column) :
      Gives target query source column

variable {target : Target} {query : Query} {compiled : Compiled}

/-- The columns of the target come from the requested attributes that are no collections. -/
theorem accounts_ownColumns (target : Target) (query : Query) :
    Accounts (fun source column => ∃ name ∈ target.requestedNames query,
      Source.requested name = source ∧ ¬ (target.entity.definitionOf name).collection ≠ none ∧
        target.Holds name column) (target.ownColumns query) := by
  have injective : Function.Injective Source.requested := by
    intro first second same
    cases same
    rfl
  have names := (firstOccurrences_eraseDups (query.select.getD target.entity.attributes.keys ++
    (query.fetchPlan.map FetchPlan.select).getD [])).nodup
  exact .of_placed (names.map injective) (placed_holds_iff.2 rfl)
    fun name column other held otherHeld => (holds_iff.1 held).trans (holds_iff.1 otherHeld).symm

/-- The column for all columns is its own source. -/
theorem accounts_wildcardColumns (target : Target) (query : Query) :
    Accounts (fun source column => source = .everything ∧ query.schemaless = true ∧
      query.select = none ∧ column = { table := target.identity, name := target.options.wildcard })
      (target.wildcardColumns query) := by
  rw [wildcardColumns, Query.hasSelection]
  cases schemaless : query.schemaless with
  | false => exact ⟨[], .nil, rfl, by simp⟩
  | true =>
    cases select : query.select with
    | some names => exact ⟨[], .nil, rfl, by simp⟩
    | none =>
      refine ⟨[(.everything, { table := target.identity, name := target.options.wildcard })],
        by simp, rfl, by simp⟩

/-- Every column of a projection comes from a source of its own. -/
theorem accounts_columns (held : target.Held)
    (succeeds : (target.compile query).outcome = .ok compiled)
    (projects : compiled.mode = .projection) :
    Accounts (target.Gives query) compiled.columns := by
  obtain ⟨joined, adds, collects⟩ := columns_of_mode held succeeds projects
  rw [collects]
  refine (((accounts_ownColumns target query).append (accounts_wildcardColumns target query)
    ?_).append (accounts_flatten query.joins.distinct adds) ?_).of_iff ?_
  · rintro source column other ⟨name, -, rfl, -⟩ ⟨impossible, -⟩
    cases impossible
  · rintro source column other own ⟨entry, -, given⟩
    obtain ⟨attributeName, rfl⟩ := given.exists_eq
    rcases own with ⟨name, -, impossible, -⟩ | ⟨impossible, -⟩ <;> cases impossible
  · intro source column
    constructor
    · rintro ((⟨name, asked, rfl, single, holds⟩ | ⟨rfl, schemaless, unselected, rfl⟩) |
        ⟨entry, joined, given⟩)
      · exact .requested (List.mem_eraseDups.1 asked) (not_not.1 single) holds
      · exact .everything schemaless unselected
      · exact .inlined joined given
    · rintro (⟨asked, single, holds⟩ | ⟨schemaless, unselected⟩ | ⟨joined, given⟩)
      · exact .inl (.inl ⟨_, List.mem_eraseDups.2 asked, rfl, not_not.2 single, holds⟩)
      · exact .inl (.inr ⟨rfl, schemaless, unselected, rfl⟩)
      · exact .inr ⟨_, joined, given⟩

/-- No two sources of a query give columns of one output name. -/
structure Apart (target : Target) (query : Query) : Prop where
  /-- Two requested attributes have two columns. -/
  requested : ∀ name other column otherColumn, target.Gives query (.requested name) column →
    target.Gives query (.requested other) otherColumn → column.name = otherColumn.name →
    name = other
  /-- The column for all columns is not that of a requested attribute. -/
  everything : ∀ name column all, target.Gives query (.requested name) column →
    target.Gives query .everything all → column.name ≠ all.name
  /-- Two attributes of inlined children have two composite aliases. -/
  inlined : ∀ join attributeName otherJoin otherName column other key otherKey,
    target.Gives query (.inlined join attributeName) column →
    target.Gives query (.inlined otherJoin otherName) other →
    column.key = some key → other.key = some otherKey →
    key ++ target.options.aliasSeparator ++ column.name =
      otherKey ++ target.options.aliasSeparator ++ other.name →
    join = otherJoin ∧ attributeName = otherName
  /-- A composite alias is not the name of another column. -/
  composite : ∀ join attributeName column key source other,
    target.Gives query (.inlined join attributeName) column → column.key = some key →
    target.Gives query source other → other.key = none →
    key ++ target.options.aliasSeparator ++ column.name ≠ other.name

/-- The population of every inlined join gives the parent's key for the child. -/
def Keyed (query : Query) : Prop :=
  ∀ name join population rest, (name, join) ∈ query.joins.toList →
    join.strategy = .hasForeignKey → join.populations = population :: rest →
    ∃ key, population.parentKey = some key ∧ key ≠ ""

/-- A column with a key is known by its composite alias. -/
theorem outputName_of_key {options : Options} {column : Column} {key : String}
    (given : column.key = some key) (nonempty : key ≠ "") :
    column.outputName options = key ++ options.aliasSeparator ++ column.name := by
  simp [Column.outputName, given, Projection.effectiveKey_some nonempty,
    Projection.compositeAlias]

/-- A column without a key is known by its name. -/
theorem outputName_of_no_key {options : Options} {column : Column} (plain : column.key = none) :
    column.outputName options = column.name := by
  simp [Column.outputName, plain, Projection.effectiveKey]

/-- A source gives a column of the target, or else one with the parent's key. -/
theorem Gives.key_eq (keyed : Keyed query) {source : Source} {column : Column}
    (gives : target.Gives query source column) :
    (∃ join attributeName key, source = .inlined join attributeName ∧ column.key = some key ∧
        key ≠ "") ∨
      (((∃ name, source = .requested name) ∨ source = .everything) ∧ column.key = none) := by
  rcases gives with ⟨-, -, held⟩ | ⟨-, -⟩ | ⟨joined, strategy, populated, -, -, -, inlines⟩
  · exact .inr ⟨.inl ⟨_, rfl⟩, held.key⟩
  · exact .inr ⟨.inr rfl, rfl⟩
  · obtain ⟨key, given, nonempty⟩ := keyed _ _ _ _ joined strategy populated
    exact .inl ⟨_, _, key, rfl, inlines.key.trans given, nonempty⟩

/-- Columns of one output name come from one source, if the sources are apart. -/
theorem Apart.source_eq (apart : target.Apart query) (keyed : Keyed query)
    {source other : Source} {column otherColumn : Column}
    (gives : target.Gives query source column) (otherGives : target.Gives query other otherColumn)
    (same : column.outputName target.options = otherColumn.outputName target.options) :
    source = other := by
  rcases gives.key_eq keyed with ⟨join, attributeName, key, rfl, given, nonempty⟩ | ⟨own, plain⟩
  · rw [outputName_of_key given nonempty] at same
    rcases otherGives.key_eq keyed with
      ⟨otherJoin, otherName, otherKey, rfl, otherGiven, otherNonempty⟩ | ⟨-, otherPlain⟩
    · rw [outputName_of_key otherGiven otherNonempty] at same
      obtain ⟨rfl, rfl⟩ := apart.inlined _ _ _ _ _ _ _ _ gives otherGives given otherGiven same
      rfl
    · rw [outputName_of_no_key otherPlain] at same
      exact absurd same (apart.composite _ _ _ _ _ _ gives given otherGives otherPlain)
  · rw [outputName_of_no_key plain] at same
    rcases otherGives.key_eq keyed with
      ⟨otherJoin, otherName, otherKey, rfl, otherGiven, otherNonempty⟩ | ⟨otherOwn, otherPlain⟩
    · rw [outputName_of_key otherGiven otherNonempty] at same
      exact absurd same.symm (apart.composite _ _ _ _ _ _ otherGives otherGiven gives plain)
    · rw [outputName_of_no_key otherPlain] at same
      rcases own with ⟨name, rfl⟩ | rfl <;> rcases otherOwn with ⟨otherName, rfl⟩ | rfl
      · rw [apart.requested _ _ _ _ gives otherGives same]
      · exact absurd same (apart.everything _ _ _ gives otherGives)
      · exact absurd same.symm (apart.everything _ _ _ otherGives gives)
      · rfl

/-- Sources that output names tell apart are apart. -/
theorem Apart.of_injective (keyed : Keyed query)
    (injective : ∀ source column other otherColumn, target.Gives query source column →
      target.Gives query other otherColumn →
      column.outputName target.options = otherColumn.outputName target.options →
      source = other) :
    target.Apart query := by
  have plain : ∀ {source column}, target.Gives query source column →
      (∀ join attributeName, source ≠ .inlined join attributeName) →
      column.outputName target.options = column.name := by
    intro source column gives own
    rcases gives.key_eq keyed with ⟨join, attributeName, key, inlined, -⟩ | ⟨-, plain⟩
    · exact absurd inlined (own join attributeName)
    · exact outputName_of_no_key plain
  have composed : ∀ {join attributeName column key},
      target.Gives query (.inlined join attributeName) column → column.key = some key →
      column.outputName target.options =
        key ++ target.options.aliasSeparator ++ column.name := by
    intro join attributeName column key gives given
    rcases gives.key_eq keyed with ⟨-, -, other, -, same, nonempty⟩ | ⟨-, absent⟩
    · rw [given] at same
      cases same
      exact outputName_of_key given nonempty
    · rw [given] at absent
      cases absent
  constructor
  · intro name other column otherColumn gives otherGives same
    have sources := injective _ _ _ _ gives otherGives
      (by rw [plain gives (by simp), plain otherGives (by simp), same])
    simpa using sources
  · intro name column all gives otherGives same
    have sources := injective _ _ _ _ gives otherGives
      (by rw [plain gives (by simp), plain otherGives (by simp), same])
    cases sources
  · intro join attributeName otherJoin otherName column other key otherKey gives otherGives given
      otherGiven same
    have sources := injective _ _ _ _ gives otherGives
      (by rw [composed gives given, composed otherGives otherGiven, same])
    simpa using sources
  · intro join attributeName column key source other gives given otherGives absent same
    have sources := injective _ _ _ _ gives otherGives
      (by rw [composed gives given, outputName_of_no_key absent, same])
    subst sources
    rcases otherGives.key_eq keyed with ⟨-, -, otherKey, -, present, -⟩ | ⟨own, -⟩
    · rw [present] at absent
      cases absent
    · rcases own with ⟨name, impossible⟩ | impossible <;> cases impossible

/-- A row has a value for each column just if the output names of the columns are distinct. -/
theorem row_separates_iff {options : Options} :
    (∀ values : List Value, values.length = compiled.columns.length →
        (compiled.row options values).toList =
          (compiled.columns.map (Column.outputName options)).zip values) ↔
      (compiled.columns.map (Column.outputName options)).Nodup := by
  have keys : ∀ values : List Value, values.length = compiled.columns.length →
      ((compiled.columns.map (Column.outputName options)).zip values).map Prod.fst =
        compiled.columns.map (Column.outputName options) := by
    intro values full
    exact List.map_fst_zip (by simp [full])
  constructor
  · intro separate
    -- The keys of a row are distinct, and here they are the output names.
    have row := separate (List.replicate compiled.columns.length .null) (by simp)
    rw [← keys _ (List.length_replicate), ← row]
    exact Dict.distinct _
  · intro distinct values full
    exact Dict.toList_ofList (by rwa [keys values full])

/-- **Columns collide just where their sources do.** Every column of a projection comes from a
source of its own. Where the keys of the parents are given, the output names are distinct, and every
row has a value for each column, just if no two sources give columns of one output name. -/
theorem outputNames_nodup_iff {beforehand : List String} {schema given : Value} {table : Reference}
    (found : (ofSchema beforehand schema given table).outcome = .ok target)
    (succeeds : (target.compile query).outcome = .ok compiled)
    (projects : compiled.mode = .projection) :
    Accounts (target.Gives query) compiled.columns ∧
      (Keyed query →
        ((compiled.columns.map (Column.outputName target.options)).Nodup ↔ target.Apart query) ∧
        ((∀ values : List Value, values.length = compiled.columns.length →
            (compiled.row target.options values).toList =
              (compiled.columns.map (Column.outputName target.options)).zip values) ↔
          target.Apart query)) := by
  have accounts := accounts_columns (held_of_ofSchema found) succeeds projects
  refine ⟨accounts, fun keyed => ?_⟩
  have names : (compiled.columns.map (Column.outputName target.options)).Nodup ↔
      target.Apart query := by
    rw [accounts.nodup_map_iff]
    exact ⟨.of_injective keyed, fun apart _ _ _ _ gives otherGives =>
      apart.source_eq keyed gives otherGives⟩
  exact ⟨names, row_separates_iff.trans names⟩

/-- Pets that have a name like their owners, as the schema has them. -/
def kennelTarget : Target where
  catalog := ⟨Dict.ofList [
    ("pet", {
      identity := some (some "pet"), table := some (some "pets")
      declared := some (Dict.ofList [
        ("name", { type := some (some "string") }), ("owner", { model := some (some "user") })]) }),
    ("user", {
      identity := some (some "user"), table := some (some "users")
      declared := some (Dict.ofList [("name", { type := some (some "string") })]) })]⟩
  options := {}
  identity := "pet"
  entity := {
    identity := some (some "pet"), table := some (some "pets")
    declared := some (Dict.ofList [
      ("name", { type := some (some "string") }), ("owner", { model := some (some "user") })]) }

/-- The names of pets with those of their owners, where the join has no key for the owners. -/
def keylessQuery : Query where
  select := some ["name"]
  joins := Dict.ofList [("owner", {
    strategy := .hasForeignKey, populations := [{ child := "users" }] })]

/-- The sources of a projection are its own whether or not the join has a key, and with the key they
tell that the output names are distinct. -/
theorem outputNames_nodup_iff_shelter :
    ((ofSchema [] shelterSchema .null (.name "pets")).outcome = .ok shelterTarget ∧
      (shelterTarget.compile shelterQuery).outcome = .ok shelterProjection ∧
      shelterProjection.mode = .projection ∧ Keyed shelterQuery ∧
      shelterTarget.Apart shelterQuery) ∧
    (ofSchema [] kennelSchema .null (.name "pets")).outcome = .ok kennelTarget ∧
      Query.ofValue (kennelQuery []) = .ok keylessQuery ∧
      (kennelTarget.compile keylessQuery).outcome = .ok (kennelProjection none) ∧
      (kennelProjection none).mode = .projection ∧ ¬ Keyed keylessQuery ∧
      Accounts (kennelTarget.Gives keylessQuery) (kennelProjection none).columns := by
  have found : (ofSchema [] shelterSchema .null (.name "pets")).outcome = .ok shelterTarget := rfl
  have succeeds : (shelterTarget.compile shelterQuery).outcome = .ok shelterProjection := rfl
  have keyed : Keyed shelterQuery := by
    intro name join population rest joined _ populated
    cases List.mem_singleton.1 joined
    cases populated
    exact ⟨"owner", rfl, by decide⟩
  have distinct :
      (shelterProjection.columns.map (Column.outputName shelterTarget.options)).Nodup := by decide
  have kennel : (ofSchema [] kennelSchema .null (.name "pets")).outcome = .ok kennelTarget := rfl
  have projection : (kennelTarget.compile keylessQuery).outcome = .ok (kennelProjection none) := rfl
  have keyless : ¬ Keyed keylessQuery := by
    intro keyed
    obtain ⟨key, given, -⟩ := keyed "owner" _ _ [] (List.mem_singleton.2 rfl) rfl rfl
    cases given
  exact ⟨⟨found, succeeds, rfl, keyed,
      ((outputNames_nodup_iff found succeeds rfl).2 keyed).1.1 distinct⟩,
    kennel, rfl, projection, rfl, keyless, (outputNames_nodup_iff kennel projection rfl).1⟩

/-- A pet's identity is asked for by two names, and both are the name of its column. -/
theorem outputNames_of_identity : ∃ compiled,
    (compileSelect (.record [("pet", .record [("attributes", .record [("id", .text "string")])])])
      .null (.name "pet") (.record [("select", .list [.text "id", .text "@rid"])])).outcome =
        .ok compiled ∧
      compiled.mode = .projection ∧
      compiled.columns.map (Column.outputName {}) = ["@rid", "@rid"] ∧
      ¬ (compiled.columns.map (Column.outputName {})).Nodup ∧
      compiled.statement = "SELECT \"@rid\", \"@rid\" FROM \"pet\" " ∧
      (compiled.row {} [.text "first", .text "second"]).toList = [("@rid", .text "second")] := by
  refine ⟨Compiled.projection {} [
    { table := "pet", name := "@rid" }, { table := "pet", name := "@rid" }] "pet", ?_⟩
  exact ⟨rfl, rfl, rfl, by decide, rfl, rfl⟩

end Target

end SelectClause

import SelectClause.Proofs.Target.Projecting
import SelectClause.Proofs.Target.Wording
import SelectClause.Proofs.Validation.Traversal

/-! # The log of a projection

Every step of a projection reports what it does: it records events and adds columns (`Report`). A
requested attribute is recorded as a collection or has one column (`Target.ReportsName`), and a
join is recorded as left to others, or as inlined with the columns of its child (`Join.Reports`).
What a report has of each kind of record is counted beside it (`Join.Reports.countP_leaves` and its
likes). The log of a compilation is made of these reports in order, and so are its columns
(`AccountsFor`). Names and joins are each taken up once, which makes the records of one the only
ones of their kind (`countP_flatMap_of_mem`). Nothing that was asked for is thus left out silently
(`log_accounts_for_query`), and since the message of a record tells its kind (`Event.opens_iff`),
this can be seen in the log as it is written.
-/

namespace SelectClause

/-- What a step of a projection records, and the columns that it adds. -/
structure Report where
  events : List Event
  columns : List Column

namespace Event

/-- An attribute is recorded as a collection. -/
def skips (name : String) : Event → Bool
  | .collectionSkipped other _ => other == name
  | _ => false

/-- A join is recorded as left to later stages. -/
def leaves (name : String) : Event → Bool
  | .joinLeft other _ => other == name
  | _ => false

/-- A join is recorded as inlined. -/
def inlines (name : String) : Event → Bool
  | .joinInlined _ other _ => other == name
  | _ => false

/-- A table is recorded as resolved. -/
def resolves : Event → Bool
  | .tableResolved _ _ => true
  | _ => false

end Event

/-- The items of a clause for some columns, one for each. -/
def Projection.items (options : Options) (columns : List Column) : List String :=
  columns.map fun column => item options (some column.name) column.key

@[simp] theorem Projection.length_items (options : Options) (columns : List Column) :
    (items options columns).length = columns.length := List.length_map _

/-- A traversal that succeeds has the events of its steps, one after the other. -/
theorem Traced.exists_runs {α β : Type} {step : α → Traced β} {items : List α} {values : List β}
    (succeeds : (items.mapM step).outcome = .ok values) :
    ∃ runs : List (List Event × β),
      List.Forall₂ (fun item run => step item = ⟨run.1, .ok run.2⟩) items runs ∧
        values = runs.map Prod.snd ∧ (items.mapM step).events = runs.flatMap Prod.fst := by
  induction items generalizing values with
  | nil =>
    cases succeeds
    exact ⟨[], .nil, rfl, rfl⟩
  | cons item items ih =>
    cases ran : step item with
    | mk events outcome =>
      obtain ⟨value, others, succeeded, rest, rfl⟩ :=
        List.forall₂_cons_left_iff.1 (outcome_mapM_eq_ok_iff.1 succeeds)
      obtain ⟨runs, each, rfl, logged⟩ := ih (outcome_mapM_eq_ok_iff.2 rest)
      have first : step item = ⟨events, .ok value⟩ := by rw [ran, ← succeeded, ran]
      refine ⟨(events, value) :: runs, .cons first each, rfl, ?_⟩
      rw [List.mapM_cons, events_bind_ok succeeded,
        events_bind_ok (outcome_mapM_eq_ok_iff.2 rest), logged, ran]
      simp

/-- What no report on the items records is nowhere in the log. -/
theorem countP_flatMap_eq_zero {α : Type} {reported : α → Report → Prop} {about : Event → Bool}
    {items : List α} {reports : List Report} (relates : List.Forall₂ reported items reports)
    (silent : ∀ item ∈ items, ∀ report, reported item report →
      ∀ event ∈ report.events, about event = false) :
    (reports.flatMap Report.events).countP about = 0 := by
  rw [List.countP_eq_zero]
  intro event among
  obtain ⟨report, listed, inside⟩ := List.mem_flatMap.1 among
  obtain ⟨item, member, related⟩ := exists_of_forall₂ relates listed
  simp [silent item member report related event inside]

/-- What is recorded of one item only is in the log as often as in the report of that item. -/
theorem countP_flatMap_of_mem (about : Event → Bool) {α : Type} {reported : α → Report → Prop}
    {key : α → String} {items : List α} {reports : List Report} {item : α}
    (relates : List.Forall₂ reported items reports) (distinct : (items.map key).Nodup)
    (member : item ∈ items)
    (elsewhere : ∀ other report, reported other report → key other ≠ key item →
      ∀ event ∈ report.events, about event = false) :
    ∃ report, reported item report ∧
      (reports.flatMap Report.events).countP about = report.events.countP about := by
  induction relates with
  | nil => cases member
  | @cons first firstReport items reports head tail ih =>
    rw [List.map_cons, List.nodup_cons] at distinct
    rw [List.flatMap_cons, List.countP_append]
    rcases List.mem_cons.1 member with rfl | later
    · refine ⟨firstReport, head, ?_⟩
      have others : (reports.flatMap Report.events).countP about = 0 := by
        refine countP_flatMap_eq_zero tail fun other otherMember report related => ?_
        have different : key other ≠ key item := fun same =>
          distinct.1 (same ▸ List.mem_map_of_mem otherMember)
        exact elsewhere other report related different
      rw [others, Nat.add_zero]
    · obtain ⟨report, related, counted⟩ := ih distinct.2 later
      have different : key first ≠ key item := fun same =>
        distinct.1 (same ▸ List.mem_map_of_mem later)
      have before : firstReport.events.countP about = 0 := by
        rw [List.countP_eq_zero]
        intro event inside
        simp [elsewhere first firstReport head different event inside]
      exact ⟨report, related, by rw [before, Nat.zero_add, counted]⟩

/-- A join has a child that it inlines. -/
def Join.inlinesChild (join : Join) : Bool := join.isInline && !join.populations.isEmpty

/-- What a join reports. -/
inductive Join.Reports (catalog : Catalog) (options : Options) (name : String) (join : Join) :
    Report → Prop where
  /-- The join is left to later stages. -/
  | left (elsewhere : join.strategy ≠ .hasForeignKey) :
      Reports catalog options name join ⟨[.joinLeft name join.strategy], []⟩
  | unpopulated (strategy : join.strategy = .hasForeignKey) (none : join.populations = []) :
      Reports catalog options name join ⟨[], []⟩
  /-- The table of the first child is resolved, and the child is inlined without its
  collections. -/
  | inlined {population : Population} {rest : List Population} {child : String × Entity}
      {columns : List Column} (strategy : join.strategy = .hasForeignKey)
      (populated : join.populations = population :: rest)
      (held : catalog.entriesOf (.name population.child) = [child])
      (placed : Placed (fun entry => entry.2.collection ≠ none) (Inlines options population)
        child.2.attributes.toList columns) :
      Reports catalog options name join ⟨[.tableResolved (.name population.child) child.1,
        .joinInlined child.1 name (Target.childTable options population)], columns⟩

namespace Join.Reports

variable {catalog : Catalog} {options : Options} {name : String} {join : Join} {report : Report}

/-- A join is recorded as left to others once if it is, and never if it is to be inlined. -/
theorem countP_leaves (reports : join.Reports catalog options name report) :
    report.events.countP (Event.leaves name) = if join.strategy = .hasForeignKey then 0 else 1 := by
  cases reports with
  | left elsewhere => simp [Event.leaves, elsewhere]
  | unpopulated strategy none => simp [strategy]
  | inlined strategy populated held placed => simp [Event.leaves, strategy]

/-- A join is recorded as inlined once if it has a child that it inlines, and never if it has
none. -/
theorem countP_inlines (reports : join.Reports catalog options name report) :
    report.events.countP (Event.inlines name) = if join.inlinesChild then 1 else 0 := by
  cases reports with
  | left elsewhere => simp [Event.inlines, inlinesChild, isInline, elsewhere]
  | unpopulated strategy none => simp [inlinesChild, none]
  | inlined strategy populated held placed =>
    simp [Event.inlines, inlinesChild, isInline, strategy, populated]

/-- A table is resolved for a join just if it has a child that it inlines. -/
theorem countP_resolves (reports : join.Reports catalog options name report) :
    report.events.countP Event.resolves = if join.inlinesChild then 1 else 0 := by
  cases reports with
  | left elsewhere => simp [Event.resolves, inlinesChild, isInline, elsewhere]
  | unpopulated strategy none => simp [inlinesChild, none]
  | inlined strategy populated held placed =>
    simp [List.countP_cons, Event.resolves, inlinesChild, isInline, strategy, populated]

end Join.Reports

/-- Joins resolve as many tables as there are joins among them with a child to inline. -/
theorem Join.countP_flatMap_resolves {catalog : Catalog} {options : Options}
    {joins : List (String × Join)} {reports : List Report}
    (relates : List.Forall₂ (fun entry => entry.2.Reports catalog options entry.1) joins reports) :
    (reports.flatMap Report.events).countP Event.resolves =
      joins.countP fun entry => entry.2.inlinesChild := by
  induction relates with
  | nil => rfl
  | cons reported _ ih =>
    rw [List.flatMap_cons, List.countP_append, ih, List.countP_cons, reported.countP_resolves,
      Nat.add_comm]

namespace Target

/-- What a requested attribute reports: that it is a collection, or its one column. -/
inductive ReportsName (target : Target) (name : String) : Report → Prop where
  | skipped (collection : (target.entity.definitionOf name).collection ≠ none) :
      ReportsName target name ⟨[.collectionSkipped name target.identity], []⟩
  | projected {column : Column} (single : (target.entity.definitionOf name).collection = none)
      (held : target.Holds name column) : ReportsName target name ⟨[], [column]⟩

variable {target : Target} {query : Query} {compiled : Compiled}

/-- A requested attribute is recorded as a collection once if it is one, and never if it is none. -/
theorem ReportsName.countP_skips {name : String} {report : Report}
    (reports : target.ReportsName name report) :
    report.events.countP (Event.skips name) =
      if (target.entity.definitionOf name).collection = none then 0 else 1 := by
  cases reports with
  | skipped collection => simp [Event.skips, collection]
  | projected single held => simp [single]

/-- Turning an attribute into a column reports on it. -/
theorem reportsName_of_column? {name : String} {events : List Event} {column : Option Column}
    (ran : target.column? name = ⟨events, .ok column⟩) :
    target.ReportsName name ⟨events, column.toList⟩ := by
  rw [column?] at ran
  split at ran
  · rename_i collection
    cases ran
    exact .skipped (Attribute.isCollection_iff.1 collection)
  · rename_i single
    cases ran
    exact .projected (not_not.1 (Attribute.isCollection_iff.not.1 single)) (holds_iff.2 rfl)

/-- Adding the columns of a join reports on it. -/
theorem reports_of_joinColumns {name : String} {join : Join} {events : List Event}
    {columns : List Column} (ran : target.joinColumns name join = ⟨events, .ok columns⟩) :
    join.Reports target.catalog target.options name ⟨events, columns⟩ := by
  have adds : join.Adds target.catalog target.options columns :=
    joinColumns_eq_ok_iff.1 (by rw [ran])
  rw [joinColumns] at ran
  split at ran
  · rename_i inlined
    have strategy : join.strategy = .hasForeignKey := by simpa [Join.isInline] using inlined
    split at ran
    · rename_i unpopulated
      cases ran
      exact .unpopulated strategy unpopulated
    · rename_i population rest populated
      cases adds with
      | left elsewhere => exact absurd strategy elsewhere
      | unpopulated none =>
        rw [populated] at none
        cases none
      | inlined _ first held placed =>
        rw [populated] at first
        cases first
        rw [inlineColumns, Catalog.locate_of_resolve (Catalog.resolve_eq_ok_iff.2 held)] at ran
        cases ran
        exact .inlined strategy populated held placed
  · rename_i left
    cases ran
    exact .left fun strategy => left (by simp [Join.isInline, strategy])

/-- Collecting columns records and adds what the requested attributes and the joins report. -/
theorem exists_reports_of_collected {columns : List Column}
    (collects : (target.collected query).outcome = .ok columns) :
    ∃ named joined : List Report,
      List.Forall₂ target.ReportsName (target.requestedNames query) named ∧
      List.Forall₂ (fun entry => entry.2.Reports target.catalog target.options entry.1)
        query.joins.toList joined ∧
      columns = named.flatMap Report.columns ++ target.wildcardColumns query ++
        joined.flatMap Report.columns ∧
      (target.collected query).events =
        named.flatMap Report.events ++ joined.flatMap Report.events := by
  have owned := outcome_mapM_column? target (target.requestedNames query)
  obtain ⟨own, ownEach, ownColumns, ownEvents⟩ := Traced.exists_runs owned
  cases expanded : (query.joins.toList.mapM fun entry =>
      target.joinColumns entry.1 entry.2).outcome with
  | error failure =>
    rw [collected, Traced.outcome_bind_ok owned, Traced.outcome_bind_error expanded] at collects
    cases collects
  | ok groups =>
    obtain ⟨added, addedEach, rfl, addedEvents⟩ := Traced.exists_runs expanded
    rw [collected, Traced.outcome_bind_ok owned, Traced.outcome_bind_ok expanded] at collects
    cases collects
    refine ⟨own.map fun run => ⟨run.1, run.2.toList⟩, added.map fun run => ⟨run.1, run.2⟩, ?_, ?_,
      ?_, ?_⟩
    · rw [List.forall₂_map_right_iff]
      exact ownEach.imp fun name run ran => reportsName_of_column? ran
    · rw [List.forall₂_map_right_iff]
      exact addedEach.imp fun entry run ran => reports_of_joinColumns ran
    · rw [ownColumns, List.filterMap_eq_flatMap_toList, List.flatMap_map, List.flatMap_map,
        List.flatMap_map]
      rfl
    · rw [collected, Traced.events_bind_ok owned, Traced.events_bind_ok expanded, ownEvents,
        addedEvents]
      simp [List.flatMap_map]

/-- A projection is logged as compiled after its columns are collected. -/
theorem events_compile_of_mode (succeeds : (target.compile query).outcome = .ok compiled)
    (projects : compiled.mode = .projection) :
    (target.compile query).events = (target.columns query).events ++
      [.projectionCompiled compiled.columns.length target.identity] := by
  obtain ⟨collects, -⟩ := eq_projection_of_mode succeeds projects
  have plain : query.aggregation.requested = false := by
    cases requested : query.aggregation.requested with
    | false => rfl
    | true =>
      rw [outcome_compile, requested, Bool.not_true, if_neg Bool.false_ne_true] at succeeds
      split at succeeds
      · cases succeeds
      · cases succeeds
        cases projects
  have quiet : (query.aggregation.map some).clause? target.options (some target.tableName) =
      pure none := by
    simp [Aggregation.clause?, plain]
  rw [compile, quiet, pure_bind, Traced.events_bind_ok collects]
  rfl

/-- The log, the columns and the clause of a projection are made of the reports on what a query
asked for, in order. -/
structure AccountsFor (target : Target) (query : Query) (compiled : Compiled) (log : List Event)
    (names : List String) (named joined : List Report) : Prop where
  requested : FirstOccurrences (query.select.getD target.entity.attributes.keys ++
    (query.fetchPlan.map FetchPlan.select).getD []) names
  ofNames : List.Forall₂ target.ReportsName names named
  ofJoins : List.Forall₂ (fun entry => entry.2.Reports target.catalog target.options entry.1)
    query.joins.toList joined
  log : log = named.flatMap Report.events ++ joined.flatMap Report.events ++
    [.projectionCompiled compiled.columns.length target.identity]
  columns : compiled.columns = named.flatMap Report.columns ++
    (if query.schemaless = true ∧ query.select = none then
      [{ table := target.identity, name := target.options.wildcard }] else []) ++
    joined.flatMap Report.columns
  clause : compiled.select = [Clause.select
    (compiled.columns.map fun column =>
      Projection.item target.options (some column.name) column.key)
    (target.options.escape (some target.tableName))]

namespace AccountsFor

variable {log : List Event} {names : List String} {named joined : List Report}

/-- The log records a collection once, and no other attribute. -/
theorem countP_skips (accounts : AccountsFor target query compiled log names named joined)
    {name : String} (member : name ∈ names) :
    log.countP (Event.skips name) =
      if (target.entity.definitionOf name).collection = none then 0 else 1 := by
  have quiet : (joined.flatMap Report.events).countP (Event.skips name) = 0 := by
    refine countP_flatMap_eq_zero accounts.ofJoins fun entry _ report reports => ?_
    cases reports <;> simp [Event.skips]
  have distinct : (names.map id).Nodup := by simpa using accounts.requested.nodup
  obtain ⟨report, reports, counted⟩ := countP_flatMap_of_mem (Event.skips name)
    accounts.ofNames distinct member fun other report reports different => by
      cases reports <;> simp_all [Event.skips]
  rw [accounts.log, List.countP_append, List.countP_append, counted, quiet, reports.countP_skips]
  simp [Event.skips]

/-- What the log records of one join only is in the report of that join. -/
theorem exists_countP_of_join
    (accounts : AccountsFor target query compiled log names named joined)
    (about : Event → Bool) {name : String} {join : Join}
    (member : (name, join) ∈ query.joins.toList)
    (skipped : ∀ other identity, about (.collectionSkipped other identity) = false)
    (finished : ∀ count identity, about (.projectionCompiled count identity) = false)
    (elsewhere : ∀ (other : String) (join : Join) (report : Report),
      join.Reports target.catalog target.options other report →
        other ≠ name → ∀ event ∈ report.events, about event = false) :
    ∃ report, join.Reports target.catalog target.options name report ∧
      log.countP about = report.events.countP about := by
  have quiet : (named.flatMap Report.events).countP about = 0 := by
    refine countP_flatMap_eq_zero accounts.ofNames fun other _ report reports => ?_
    cases reports <;> simp [skipped]
  obtain ⟨report, reports, counted⟩ := countP_flatMap_of_mem about accounts.ofJoins
    query.joins.distinct member fun entry report reports different =>
      elsewhere entry.1 entry.2 report reports different
  refine ⟨report, reports, ?_⟩
  rw [accounts.log, List.countP_append, List.countP_append, quiet, counted]
  simp [finished]

theorem countP_leaves (accounts : AccountsFor target query compiled log names named joined)
    {name : String} {join : Join} (member : (name, join) ∈ query.joins.toList) :
    log.countP (Event.leaves name) = if join.strategy = .hasForeignKey then 0 else 1 := by
  obtain ⟨report, reports, counted⟩ := accounts.exists_countP_of_join (Event.leaves name)
    member (fun _ _ => rfl) (fun _ _ => rfl) fun other join report reports different => by
      cases reports <;> simp [Event.leaves, different]
  rw [counted, reports.countP_leaves]

theorem countP_inlines (accounts : AccountsFor target query compiled log names named joined)
    {name : String} {join : Join} (member : (name, join) ∈ query.joins.toList) :
    log.countP (Event.inlines name) = if join.inlinesChild then 1 else 0 := by
  obtain ⟨report, reports, counted⟩ := accounts.exists_countP_of_join (Event.inlines name)
    member (fun _ _ => rfl) (fun _ _ => rfl) fun other join report reports different => by
      cases reports <;> simp [Event.inlines, different]
  rw [counted, reports.countP_inlines]

/-- Tables are resolved for the joins that have a child that they inline, and for no others. -/
theorem countP_resolves (accounts : AccountsFor target query compiled log names named joined) :
    log.countP Event.resolves =
      query.joins.toList.countP fun entry => entry.2.inlinesChild := by
  have quiet : (named.flatMap Report.events).countP Event.resolves = 0 := by
    refine countP_flatMap_eq_zero accounts.ofNames fun other _ report reports => ?_
    cases reports <;> simp [Event.resolves]
  rw [accounts.log, List.countP_append, List.countP_append, quiet,
    Join.countP_flatMap_resolves accounts.ofJoins]
  simp [Event.resolves]

end AccountsFor

/-- The log and the columns of a projection account for its query. -/
theorem exists_accountsFor (held : target.Held)
    (succeeds : (target.compile query).outcome = .ok compiled)
    (projects : compiled.mode = .projection) :
    ∃ named joined, AccountsFor target query compiled (target.compile query).events
      (target.requestedNames query) named joined := by
  obtain ⟨collects, projection⟩ := eq_projection_of_mode succeeds projects
  have log := events_compile_of_mode succeeds projects
  rw [columns_of_held held] at collects log
  obtain ⟨named, joined, ofNames, ofJoins, columns, events⟩ := exists_reports_of_collected collects
  refine ⟨named, joined, {
    requested := firstOccurrences_eraseDups _
    ofNames, ofJoins
    log := by rw [log, events]
    columns := by
      rw [columns, wildcardColumns, Query.hasSelection]
      cases query.schemaless <;> cases query.select <;> simp
    clause := ?_ }⟩
  rw [projection]
  simp [Compiled.projection, Projection.clause, Function.comp_def]

/-- Finding a target logs that its table is resolved. -/
theorem events_ofSchema {beforehand : List String} {schema given : Value} {table : Reference}
    (found : (ofSchema beforehand schema given table).outcome = .ok target) :
    (ofSchema beforehand schema given table).events = [.tableResolved table target.identity] := by
  obtain ⟨read, chosen, single⟩ := ofSchema_eq_ok_iff.1 found
  rw [ofSchema_eq_ofTable read chosen, ofTable,
    Catalog.locate_of_resolve (Catalog.resolve_eq_ok_iff.2 single)]
  rfl

/-- **The log and the columns account for a query.** A target that is built with a query logs that
its table is resolved and then what compiling the query logs. This log and the columns are made of
what each requested attribute and then each join reports: an attribute is recorded once as a
collection or has its one column, and a join is recorded once as left to others, or as inlined
behind the table of its child, or has no child to inline. The number that ends the log is that of
the columns and of the items of the clause, and the message of every record tells its kind. -/
theorem log_accounts_for_query {beforehand : List String} {schema given : Value}
    {table : Reference} (found : (ofSchema beforehand schema given table).outcome = .ok target)
    (succeeds : (target.compile query).outcome = .ok compiled)
    (projects : compiled.mode = .projection) :
    (∀ value, Query.ofValue value = .ok query →
      (ofSchema beforehand schema given table >>= fun target => target.build value).events =
        .tableResolved table target.identity :: (target.compile query).events) ∧
    ∃ names named joined,
      AccountsFor target query compiled (target.compile query).events names named joined ∧
      (∀ name ∈ names, (target.compile query).events.countP (Event.skips name) =
        if (target.entity.definitionOf name).collection = none then 0 else 1) ∧
      (∀ name join, (name, join) ∈ query.joins.toList →
        (target.compile query).events.countP (Event.leaves name) =
            (if join.strategy = .hasForeignKey then 0 else 1) ∧
          (target.compile query).events.countP (Event.inlines name) =
            if join.inlinesChild then 1 else 0) ∧
      (target.compile query).events.countP Event.resolves =
        query.joins.toList.countP (fun entry => entry.2.inlinesChild) ∧
      (target.compile query).events.getLast? =
        some (.projectionCompiled compiled.columns.length target.identity) ∧
      compiled.select = [Clause.select (Projection.items target.options compiled.columns)
        (target.options.escape (some target.tableName))] ∧
      (Projection.items target.options compiled.columns).length = compiled.columns.length ∧
      ∀ event ∈ (target.compile query).events, ∀ kind : Event.Kind,
        kind.Opens event.message ↔ event.kind = kind := by
  constructor
  · intro value read
    rw [Traced.events_bind_ok found, events_ofSchema found, build, read, Traced.liftM_eq,
      Traced.ofExcept_ok_bind]
    rfl
  · obtain ⟨named, joined, accounts⟩ :=
      exists_accountsFor (held_of_ofSchema found) succeeds projects
    have counted : (target.compile query).events.getLast? =
        some (.projectionCompiled compiled.columns.length target.identity) := by
      rw [accounts.log, List.getLast?_concat]
    exact ⟨target.requestedNames query, named, joined, accounts,
      fun name member => accounts.countP_skips member,
      fun name join member => ⟨accounts.countP_leaves member, accounts.countP_inlines member⟩,
      accounts.countP_resolves, counted, accounts.clause, Projection.length_items _ _,
      fun event _ kind => Event.opens_iff⟩

/-- A round through the shelter, where only the owners can be inlined. -/
def roundValue : Value := .record [
  ("select", .list [.text "name", .text "toys"]),
  ("instructions", .record [
    ("toys", .record [("strategy", .int 2), ("instructions", .list [
      .record [("child", .text "toys")]])]),
    ("vet", .record [("strategy", .int 1)]),
    ("owner", .record [("strategy", .int 1), ("instructions", .list [
      .record [("child", .text "users"), ("parentKey", .text "owner")]])])])]

/-- The query that this value is read to. -/
def roundQuery : Query where
  select := some ["name", "toys"]
  joins := Dict.ofList [
    ("toys", { strategy := .viaForeignKey, populations := [{ child := "toys" }] }),
    ("vet", { strategy := .hasForeignKey }),
    ("owner", {
      strategy := .hasForeignKey
      populations := [{ child := "users", parentKey := some "owner" }] })]

/-- The name of each pet with the identity of its owner. -/
def roundProjection : Compiled := Compiled.projection {} [
  { table := "pet", name := "pet_name" }, { table := "users", name := "id", key := some "owner" }]
  "pets"

/-- The round asks for a collection, and has a join that is left, one without a child and one that
is inlined. Its log is the same when it is read as text. -/
theorem log_accounts_for_query_round :
    (ofSchema [] shelterSchema .null (.name "pets")).outcome = .ok shelterTarget ∧
      (shelterTarget.compile roundQuery).outcome = .ok roundProjection ∧
      roundProjection.mode = .projection ∧ Query.ofValue roundValue = .ok roundQuery ∧
      (ofSchema [] shelterSchema .null (.name "pets") >>= fun target =>
        target.build roundValue).events =
          [.tableResolved (.name "pets") "pet", .collectionSkipped "toys" "pet",
            .joinLeft "toys" .viaForeignKey, .tableResolved (.name "users") "user",
            .joinInlined "user" "owner" "users", .projectionCompiled 2 "pet"] ∧
      (∃ names named joined, AccountsFor shelterTarget roundQuery roundProjection
        (shelterTarget.compile roundQuery).events names named joined) ∧
      (shelterTarget.compile roundQuery).events.countP (Event.skips "toys") = 1 ∧
      ("vet", Join.mk .hasForeignKey []) ∈ roundQuery.joins.toList ∧
      (shelterTarget.compile roundQuery).events.countP (Event.leaves "vet") = 0 ∧
      (shelterTarget.compile roundQuery).events.countP (Event.inlines "vet") = 0 ∧
      Event.projectionCompiled 2 "pet" ∈ (shelterTarget.compile roundQuery).events ∧
      Event.Kind.Opens (.projectionCompiled 2) (Event.projectionCompiled 2 "pet").message ∧
      ¬ Event.Kind.Opens .joinLeft (Event.projectionCompiled 2 "pet").message := by
  have found : (ofSchema [] shelterSchema .null (.name "pets")).outcome = .ok shelterTarget := rfl
  have succeeds : (shelterTarget.compile roundQuery).outcome = .ok roundProjection := rfl
  have read : Query.ofValue roundValue = .ok roundQuery := rfl
  obtain ⟨built, names, named, joined, accounts, skips, joins, -, ends, -, -, tells⟩ :=
    log_accounts_for_query found succeeds rfl
  have last : Event.projectionCompiled 2 "pet" ∈ (shelterTarget.compile roundQuery).events :=
    List.mem_of_getLast? ends
  have asked : "toys" ∈ names := (accounts.requested.mem_iff "toys").2 (by decide)
  have held : ("vet", Join.mk .hasForeignKey []) ∈ roundQuery.joins.toList :=
    List.mem_cons_of_mem _ List.mem_cons_self
  exact ⟨found, succeeds, rfl, read, built roundValue read, ⟨names, named, joined, accounts⟩,
    skips "toys" asked, held, (joins "vet" _ held).1, (joins "vet" _ held).2, last,
    (tells _ last _).2 rfl, fun opens => Event.Kind.noConfusion ((tells _ last _).1 opens)⟩

end Target

end SelectClause

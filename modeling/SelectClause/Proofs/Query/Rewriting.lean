import SelectClause.Proofs.Validation.Alike
import SelectClause.Query

/-! # One query in many spellings

The forms of a query's fields say how a query may be rewritten and still ask for the same: keys
have two spellings, a single name stands for the list of it, fields without content may be left out,
and the strategy of a join may be wrapped in a record (`Query.forms`, and the forms of the records
inside of it). However often a query is rewritten, it is read as the same query or refused as before
(`Query.ofValue_rewritten`). What the criteria of a population hold is kept as it was written, and
so it is the same up to the order of keys.
-/

namespace SelectClause

open Checked (Alike)

/-- A selection of attributes, in which a single name stands for the list of it. -/
inductive SelectionRewrites : Value → Value → Prop where
  | single (name : String) : SelectionRewrites (.text name) (.list [.text name])
  | reordered {value other : Value} (permutes : value.Permutes other) :
      SelectionRewrites value other

/-- A list of names, in which the absent value stands for no names. -/
inductive NamesRewrite : Value → Value → Prop where
  | single (name : String) : NamesRewrite (.text name) (.list [.text name])
  | nothing : NamesRewrite .null (.list [])
  | reordered {value other : Value} (permutes : value.Permutes other) : NamesRewrite value other

/-- The forms of the fields of a fetch plan. -/
def FetchPlan.forms : List FieldForm :=
  [{ name := selectField, rewrites := NamesRewrite, droppable := True }]

/-- The forms of the fields of a population. -/
def Population.forms : List FieldForm := [
  { name := childField }, { name := parentField }, { name := parentKeyField },
  { name := childKeyField }, { name := aliasField },
  { name := selectField, rewrites := SelectionRewrites, droppable := True },
  { name := criteriaField }, { name := removeParentKeyField }]

/-- One population of a list is rewritten, or what stands in the place of the list is permuted. -/
inductive PopulationsRewrite : Value → Value → Prop where
  | item {before after : List Value} {value other : Value}
      (rewrites : RecordRewrites Population.forms value other) :
      PopulationsRewrite (.list (before ++ [value] ++ after)) (.list (before ++ [other] ++ after))
  | malformed {value other : Value} (noList : ∀ items, value ≠ .list items)
      (permutes : value.Permutes other) : PopulationsRewrite value other

/-- A strategy is wrapped in a record, in which it stands beside keys without meaning. -/
inductive StrategyRewrites : Value → Value → Prop where
  | wrapped {value : Value} {wrapper : Dict Value} (bare : value.fields? = none)
      (holds : wrapper.get? Strategy.field.plain = some value) :
      StrategyRewrites value (.ofDict wrapper)
  | inside {value other : Value}
      (rewrites : RecordRewrites [{ name := Strategy.field }] value other) :
      StrategyRewrites value other

/-- The forms of the fields of a join, neither of which may be dropped. -/
def Join.forms : List FieldForm := [
  { name := Strategy.field, rewrites := StrategyRewrites },
  { name := populationsField, rewrites := PopulationsRewrite }]

/-- One join is rewritten in its place, or what stands in the place of the joins is permuted. The
order of the joins is that of the columns which they add. -/
inductive JoinsRewrite : Value → Value → Prop where
  | nothing : JoinsRewrite .null (.ofDict ∅)
  | join {fields others : Dict Value} {before after : List (String × Value)} {key : String}
      {value other : Value} (held : fields.toList = before ++ [(key, value)] ++ after)
      (written : others.toList = before ++ [(key, other)] ++ after)
      (rewrites : RecordRewrites Join.forms value other) :
      JoinsRewrite (.ofDict fields) (.ofDict others)
  | malformed {value other : Value} (noRecord : value.fields? = none)
      (permutes : value.Permutes other) : JoinsRewrite value other

/-- The forms of the fields of a query. -/
def Query.forms : List FieldForm := [
  { name := selectField, rewrites := SelectionRewrites, droppable := True },
  { name := fetchPlanField, rewrites := RecordRewrites FetchPlan.forms, droppable := True },
  { name := schemalessField },
  { name := joinsField, rewrites := JoinsRewrite },
  { name := Aggregation.groupByField, rewrites := NamesRewrite, droppable := True },
  { name := Aggregation.sumField, rewrites := NamesRewrite, droppable := True },
  { name := Aggregation.averageField, rewrites := NamesRewrite, droppable := True },
  { name := Aggregation.minimumField, rewrites := NamesRewrite, droppable := True },
  { name := Aggregation.maximumField, rewrites := NamesRewrite, droppable := True }]

/-- Populations that are the same but for the order of keys in their criteria. -/
def Population.Same (population other : Population) : Prop :=
  ∃ criteria, other = { population with criteria } ∧
    Value.Reordered (.ofDict population.criteria) (.ofDict criteria)

/-- Joins that are the same but for the order of keys in criteria. -/
def Join.Same (join other : Join) : Prop :=
  join.strategy = other.strategy ∧
    List.Forall₂ Population.Same join.populations other.populations

/-- Queries that are the same but for the order of keys in criteria. -/
def Query.Same (query other : Query) : Prop :=
  ∃ joins, other = { query with joins } ∧ query.joins.Related Join.Same joins

theorem Population.Same.refl (population : Population) : population.Same population :=
  ⟨_, rfl, .refl⟩

theorem Join.Same.refl (join : Join) : join.Same join :=
  ⟨rfl, List.forall₂_same.2 fun population _ => .refl population⟩

theorem Query.Same.refl (query : Query) : query.Same query :=
  ⟨_, rfl, .refl Join.Same.refl _⟩

theorem Population.Same.trans (first second third : Population) (before : first.Same second)
    (later : second.Same third) : first.Same third := by
  obtain ⟨criteria, rfl, reordered⟩ := before
  obtain ⟨otherCriteria, rfl, further⟩ := later
  exact ⟨otherCriteria, rfl, .trans reordered further⟩

theorem Join.Same.trans (first second third : Join) (before : first.Same second)
    (later : second.Same third) : first.Same third :=
  ⟨before.1.trans later.1, forall₂_trans Population.Same.trans before.2 later.2⟩

theorem Query.Same.trans (first second third : Query) (before : first.Same second)
    (later : second.Same third) : first.Same third := by
  obtain ⟨joins, rfl, related⟩ := before
  obtain ⟨otherJoins, rfl, further⟩ := later
  refine ⟨otherJoins, rfl, forall₂_trans ?_ related further⟩
  rintro entry other another ⟨key, same⟩ ⟨otherKey, otherSame⟩
  exact ⟨key.trans otherKey, Join.Same.trans _ _ _ same otherSame⟩

/-- A selection is read alike in all its forms. -/
theorem Check.alike_selection {value other : Value} (rewrites : SelectionRewrites value other) :
    Alike (· = ·) (nullable names value) (nullable names other) := by
  cases rewrites with
  | single name => exact .ok rfl
  | reordered permutes => exact ignoresOrder_names.nullable _ _ permutes

/-- Names are read alike in all their forms. -/
theorem Check.alike_names {value other : Value} (rewrites : NamesRewrite value other) :
    Alike (· = ·) (names value) (names other) := by
  cases rewrites with
  | single name => exact .ok rfl
  | nothing => exact .ok rfl
  | reordered permutes => exact ignoresOrder_names _ _ permutes

/-- Rewritten fetch plans are read alike. -/
theorem FetchPlan.alike_check {value other : Value}
    (rewrites : RecordRewrites FetchPlan.forms value other) :
    Alike (· = ·) (check value) (check other) := by
  refine Check.alike_record rewrites fun fields others rewrite => ?_
  have moves := rewrite.moves_all (by decide) (by simp [forms, selectField])
  have select := moves _ List.mem_cons_self
  refine (FieldName.alike_orElse (fun _ => rfl) select
    (fun _ _ names => Check.alike_names names) fun _ => rfl).map ?_
  rintro select _ rfl
  rfl

/-- Criteria are kept as they are, but for the order of keys. -/
theorem Check.alike_criteria {value other : Value} (permutes : value.Permutes other) :
    Alike (fun criteria others => Value.Reordered (.ofDict criteria) (.ofDict others))
      (dictionary anything value) (dictionary anything other) := by
  have kept : ∀ fields, dictionary anything (.ofDict fields) = .ok fields := fun fields =>
    dictionary_eq_ok_iff.2 ⟨fields, Value.fields?_ofDict fields,
      List.forall₂_same.2 fun _ _ => ⟨rfl, rfl⟩⟩
  rcases permutes.shape with ⟨fields, others, rfl, rfl⟩ | ⟨items, others, rfl, rfl⟩
  · rw [kept, kept]
    exact .ok (.single permutes)
  · exact .failed _ _

/-- Rewritten populations are read alike, up to the order of the criteria. -/
theorem Population.alike_check {value other : Value}
    (rewrites : RecordRewrites Population.forms value other) :
    Alike Population.Same (check value) (check other) := by
  refine Check.alike_record rewrites fun fields others rewrite => ?_
  have moves := rewrite.moves_all (by decide) (by simp [forms, selectField])
  simp only [forms, List.forall_mem_cons] at moves
  obtain ⟨child, parent, parentKey, childKey, aliasName, select, criteria, removeParentKey, -⟩ :=
    moves
  have name := Check.ignoresOrder_text.nullable
  -- The fields are peeled off from the last one to the first.
  refine .seq ?_ (FieldName.alike_orElse_of_ignoresOrder Check.ignoresOrder_truth removeParentKey)
  refine .seq ?_ (FieldName.alike_orElse (fun _ => .refl) criteria
    (fun _ _ permutes => Check.alike_criteria permutes) False.elim)
  refine .seq ?_ (FieldName.alike_orElse (fun _ => rfl) select
    (fun _ _ rewrites => Check.alike_selection rewrites) fun _ => rfl)
  refine .seq ?_ (FieldName.alike_orElse_of_ignoresOrder name aliasName)
  refine .seq ?_ (FieldName.alike_orElse_of_ignoresOrder name childKey)
  refine .seq ?_ (FieldName.alike_orElse_of_ignoresOrder name parentKey)
  refine .seq ?_ (FieldName.alike_orElse_of_ignoresOrder name parent)
  refine .map (FieldName.alike_required (fun _ => rfl) child Check.ignoresOrder_text id) ?_
  rintro child _ rfl parent _ rfl parentKey _ rfl childKey _ rfl aliasName _ rfl select _ rfl
    criteria otherCriteria reordered removeParentKey _ rfl
  exact ⟨otherCriteria, rfl, reordered⟩

/-- Strategies are found in a record or by themselves, and are no records or lists. -/
theorem Strategy.alike_check {value other : Value} (rewrites : StrategyRewrites value other) :
    Alike (· = ·) (check value) (check other) := by
  have refused : ∀ value other : Value, value.Permutes other →
      numberOf? value = none ∧ numberOf? other = none := by
    intro value other permutes
    rcases permutes.shape with ⟨fields, others, rfl, rfl⟩ | ⟨items, others, rfl, rfl⟩
    · exact ⟨rfl, rfl⟩
    · exact ⟨rfl, rfl⟩
  have unwrap : ∀ fields, unwrapped (.ofDict fields) = (field.valueIn fields).getD .null := by
    intro fields
    rw [unwrapped, Value.fields?_ofDict, FieldName.valueIn_eq_get? rfl]
  cases rewrites with
  | @wrapped wrapper bare holds =>
    have same : unwrapped (.ofDict wrapper) = unwrapped value := by
      rw [unwrap, FieldName.valueIn_eq_get? rfl, holds, unwrapped, bare]
      rfl
    rw [check, check, same]
    exact .refl (fun _ => rfl) _
  | inside rewrites =>
    cases rewrites with
    | @record fields others rewrite =>
      have moves := rewrite.moves_all (by decide) (by simp) _ List.mem_cons_self
      rw [check, check, unwrap, unwrap]
      generalize field.valueIn fields = given at moves
      generalize field.valueIn others = otherGiven at moves
      cases moves with
      | kept => exact .refl (fun _ => rfl) _
      | rewritten permutes =>
        obtain ⟨none, otherNone⟩ := refused _ _ permutes
        simp only [Option.getD_some, none, otherNone]
        exact .failed _ _
      | dropped droppable => exact droppable.elim
    | malformed noRecord permutes =>
      obtain ⟨items, others, rfl, rfl⟩ := permutes.lists noRecord
      exact .failed _ _

/-- The populations of a join are read alike one by one. -/
theorem Join.alike_populations {value other : Value} (rewrites : PopulationsRewrite value other) :
    Alike (List.Forall₂ Population.Same) (Check.sequence Population.check value)
      (Check.sequence Population.check other) := by
  cases rewrites with
  | item rewrites =>
    exact Check.alike_items (forall₂_of_split (fun _ => .refl Population.Same.refl _)
      (Population.alike_check rewrites))
  | malformed noList permutes =>
    rcases permutes.shape with ⟨fields, others, rfl, rfl⟩ | ⟨items, others, rfl, rfl⟩
    · exact .failed _ _
    · exact absurd rfl (noList items)

/-- Rewritten joins are read alike. -/
theorem Join.alike_check {value other : Value} (rewrites : RecordRewrites Join.forms value other) :
    Alike Join.Same (check value) (check other) := by
  refine Check.alike_record rewrites fun fields others rewrite => ?_
  have moves := rewrite.moves_all (by decide) (by simp [forms])
  simp only [forms, List.forall_mem_cons] at moves
  obtain ⟨strategy, populations, -⟩ := moves
  refine .seq ?_ (FieldName.alike_orElse
    (fun _ => List.forall₂_same.2 fun population _ => .refl population) populations
    (fun _ _ rewrites => alike_populations rewrites) False.elim)
  refine .map (FieldName.alike_required (fun _ => rfl) strategy
    (fun _ _ rewrites => Strategy.alike_check rewrites) id) ?_
  rintro strategy _ rfl populations otherPopulations same
  exact ⟨rfl, same⟩

/-- Rewritten joins are read alike, each under its name. -/
theorem Query.alike_checkJoins {value other : Value} (rewrites : JoinsRewrite value other) :
    Alike (Dict.Related Join.Same) (checkJoins value) (checkJoins other) := by
  cases rewrites with
  | nothing => exact .ok .nil
  | @join fields others before after key value other held written rewrites =>
    refine Check.alike_dictionary ?_
    rw [held, written]
    exact forall₂_of_split (fun entry => ⟨rfl, .refl Join.Same.refl _⟩)
      ⟨rfl, Join.alike_check rewrites⟩
  | malformed noRecord permutes =>
    obtain ⟨items, others, rfl, rfl⟩ := permutes.lists noRecord
    exact .failed _ _

/-- A fetch plan that may be absent is read alike. -/
theorem Query.alike_fetchPlan {value other : Value}
    (rewrites : RecordRewrites FetchPlan.forms value other) :
    Alike (· = ·) (Check.nullable FetchPlan.check value)
      (Check.nullable FetchPlan.check other) := by
  have same := FetchPlan.alike_check rewrites
  have present : value.isNull = false ∧ other.isNull = false := by
    cases rewrites with
    | record => exact ⟨rfl, rfl⟩
    | malformed noRecord permutes =>
      obtain ⟨items, others, rfl, rfl⟩ := permutes.lists noRecord
      exact ⟨rfl, rfl⟩
  rw [Check.nullable_of_isNull_eq_false _ present.1, Check.nullable_of_isNull_eq_false _ present.2]
  exact same.map fun _ _ equal => congrArg some equal

/-- One step of rewriting makes no difference to how a query is read. -/
theorem Query.alike_ofFields {fields others : Dict Value}
    (single : ∀ form ∈ forms, form.name.Single fields)
    (rewrite : FieldsRewrite forms fields others) :
    Alike Query.Same (ofFields fields) (ofFields others) := by
  have moves : ∀ form ∈ forms, form.Moves (form.name.valueIn fields) (form.name.valueIn others) :=
    fun form member => rewrite.moves (by decide) member fun _ => single form member
  simp only [forms, List.forall_mem_cons] at moves
  obtain ⟨select, fetchPlan, schemaless, joins, groupBy, sum, average, minimum, maximum, -⟩ := moves
  have namesIn : ∀ {form : FieldForm},
      form.Moves (form.name.valueIn fields) (form.name.valueIn others) →
      form.rewrites = NamesRewrite →
        Alike (· = ·) (form.name.orElse Check.names [] fields)
          (form.name.orElse Check.names [] others) := by
    intro form moves rewrites
    refine FieldName.alike_orElse (fun _ => rfl) moves ?_ fun _ => rfl
    rw [rewrites]
    exact fun _ _ names => Check.alike_names names
  have aggregation : Alike (· = ·) (Aggregation.ofFields fields) (Aggregation.ofFields others) := by
    refine .seq ?_ (namesIn maximum rfl)
    refine .seq ?_ (namesIn minimum rfl)
    refine .seq ?_ (namesIn average rfl)
    refine .seq ?_ (namesIn sum rfl)
    refine .map (namesIn groupBy rfl) ?_
    rintro groupBy _ rfl sum _ rfl average _ rfl minimum _ rfl maximum _ rfl
    rfl
  refine .seq ?_ aggregation
  refine .seq ?_ (FieldName.alike_orElse (Dict.Related.refl Join.Same.refl) joins
    (fun _ _ rewrites => alike_checkJoins rewrites) False.elim)
  refine .seq ?_ (FieldName.alike_orElse_of_ignoresOrder Check.ignoresOrder_truth schemaless)
  refine .seq ?_ (FieldName.alike_orElse (fun _ => rfl) fetchPlan
    (fun _ _ rewrites => alike_fetchPlan rewrites) fun _ => rfl)
  refine .map (FieldName.alike_orElse (fun _ => rfl) select
    (fun _ _ rewrites => Check.alike_selection rewrites) fun _ => rfl) ?_
  rintro select _ rfl fetchPlan _ rfl schemaless _ rfl joins otherJoins same aggregation _ rfl
  exact ⟨otherJoins, rfl, same⟩

/-- Rewriting a query any number of times makes no difference to how it is read, and gives no field
a second spelling. -/
theorem Query.alike_of_rewritten {fields others : Dict Value}
    (single : ∀ form ∈ forms, form.name.Single fields)
    (rewritten : Relation.ReflTransGen (FieldsRewrite forms) fields others) :
    (∀ form ∈ forms, form.name.Single others) ∧
      Alike Query.Same (ofFields fields) (ofFields others) := by
  induction rewritten with
  | refl => exact ⟨single, .refl Query.Same.refl _⟩
  | tail _ rewrite ih =>
    obtain ⟨single, alike⟩ := ih
    exact ⟨fun form member => rewrite.single (by decide) member (single form member),
      alike.trans Query.Same.trans (alike_ofFields single rewrite)⟩

/-- **The spelling of a query does not matter.** A query that has none of its fields in both
spellings may be rewritten any number of times, in its own fields and in those of its fetch plan,
its joins and their populations: both queries are refused, or both are read as the same. -/
theorem Query.ofValue_rewritten {fields others : Dict Value}
    (single : ∀ form ∈ forms, form.name.Single fields)
    (rewritten : Relation.ReflTransGen (FieldsRewrite forms) fields others) :
    (∃ query other, ofValue (.ofDict fields) = .ok query ∧ ofValue (.ofDict others) = .ok other ∧
        query.Same other) ∨
      ∃ issues otherIssues, ofValue (.ofDict fields) = .error (.invalidQuery issues) ∧
        ofValue (.ofDict others) = .error (.invalidQuery otherIssues) := by
  obtain ⟨-, alike⟩ := alike_of_rewritten single rewritten
  rw [ofValue_ofDict, ofValue_ofDict]
  generalize ofFields fields = outcome at alike
  generalize ofFields others = other at alike
  cases alike with
  | ok same => exact .inl ⟨_, _, rfl, rfl, same⟩
  | failed issues others => exact .inr ⟨issues, others, rfl, rfl⟩

/-- A fetch plan with the given names. -/
def nickPlan (names : Value) : Value := .ofDict (Dict.ofList [("select", names)])

/-- The instructions of one join. -/
def owners (join : Value) : String × Value :=
  ("instructions", .ofDict (Dict.ofList [("owner", join)]))

/-- A join with the owners who meet the criteria. -/
def ownerJoin (strategy : Value) (criteria : Dict Value) : Value :=
  .ofDict (Dict.ofList [("strategy", strategy), ("instructions", .list [.ofDict (Dict.ofList [
    ("child", .text "users"), ("criteria", .ofDict criteria)])])])

/-- A strategy in a record with a key without meaning. -/
def wrappedStrategy : Dict Value := Dict.ofList [("meta", .null), ("strategy", .int 1)]

/-- A query for the nicknames of pets and for their owners, in the shortest spelling. -/
def plainQuery : Dict Value := Dict.ofList [
  ("fetch_plan", nickPlan (.text "nick")), ("sum", .null),
  owners (ownerJoin (.int 1) (Dict.ofList [("age", .int 3), ("city", .text "Rome")]))]

/-- The same query, where the fetch plan is respelled and its name put into a list, the sum is
dropped and a condition added, and where the strategy is wrapped and the criteria are permuted. -/
def respelledQuery : Dict Value := Dict.ofList [
  ("fetchPlan", nickPlan (.list [.text "nick"])), ("where", .bool true),
  owners (ownerJoin (.ofDict wrappedStrategy)
    (Dict.ofList [("city", .text "Rome"), ("age", .int 3)]))]

/-- The two queries are read as the same, up to the order of the criteria. -/
theorem ofValue_rewritten_owners :
    (∀ form ∈ Query.forms, form.name.Single plainQuery) ∧
      Relation.ReflTransGen (FieldsRewrite Query.forms) plainQuery respelledQuery ∧
      ∃ query other, Query.ofValue (.ofDict plainQuery) = .ok query ∧
        Query.ofValue (.ofDict respelledQuery) = .ok other ∧ query.Same other := by
  have single : ∀ form ∈ Query.forms, form.name.Single plainQuery := by decide
  have fetchPlan : ⟨Query.fetchPlanField, RecordRewrites FetchPlan.forms, True⟩ ∈ Query.forms := by
    simp [Query.forms]
  have respelled (plan join : Value) : FieldsRewrite Query.forms
      (Dict.ofList [("fetch_plan", plan), ("sum", .null), owners join])
      (Dict.ofList [("fetchPlan", plan), ("sum", .null), owners join]) :=
    @FieldsRewrite.entry _ _ _ [] _ _ [("sum", .null), owners join] rfl rfl
      (.field fetchPlan (.respelled (.inr rfl) (.inl rfl)))
  have listed (join : Value) : FieldsRewrite Query.forms
      (Dict.ofList [("fetchPlan", nickPlan (.text "nick")), ("sum", .null), owners join])
      (Dict.ofList [("fetchPlan", nickPlan (.list [.text "nick"])), ("sum", .null), owners join]) :=
    have names : FieldsRewrite FetchPlan.forms (Dict.ofList [("select", .text "nick")])
        (Dict.ofList [("select", .list [.text "nick"])]) :=
      @FieldsRewrite.entry _ _ _ [] _ _ [] rfl rfl
        (.field List.mem_cons_self (.rewritten (.inl rfl) (.single "nick")))
    @FieldsRewrite.entry _ _ _ [] _ _ [("sum", .null), owners join] rfl rfl
      (.field fetchPlan (.rewritten (.inl rfl) (.record names)))
  have dropped (plan join : Value) : FieldsRewrite Query.forms
      (Dict.ofList [("fetchPlan", plan), ("sum", .null), owners join])
      (Dict.ofList [("fetchPlan", plan), owners join]) :=
    have sum : ⟨Aggregation.sumField, NamesRewrite, True⟩ ∈ Query.forms := by simp [Query.forms]
    @FieldsRewrite.entry _ _ _ [("fetchPlan", plan)] _ [] [owners join] rfl rfl
      (.field sum (.dropped (.inl rfl) trivial))
  have added (plan join : Value) : FieldsRewrite Query.forms
      (Dict.ofList [("fetchPlan", plan), owners join])
      (Dict.ofList [("fetchPlan", plan), ("where", .bool true), owners join]) :=
    have noField : ∀ entry ∈ [] ++ [("where", Value.bool true)], ∀ form ∈ Query.forms,
        ¬ form.name.Spells entry.1 := by decide
    @FieldsRewrite.entry _ _ _ [("fetchPlan", plan)] _ _ [owners join] rfl rfl (.unknown noField)
  have joined (plan : Value) {join other : Value}
      (rewrites : RecordRewrites Join.forms join other) : FieldsRewrite Query.forms
        (Dict.ofList [("fetchPlan", plan), ("where", .bool true), owners join])
        (Dict.ofList [("fetchPlan", plan), ("where", .bool true), owners other]) :=
    have joins : ⟨Query.joinsField, JoinsRewrite, False⟩ ∈ Query.forms := by simp [Query.forms]
    have owner : JoinsRewrite (.ofDict (Dict.ofList [("owner", join)]))
        (.ofDict (Dict.ofList [("owner", other)])) :=
      @JoinsRewrite.join _ _ [] [] "owner" _ _ rfl rfl rewrites
    @FieldsRewrite.entry _ _ _ [("fetchPlan", plan), ("where", .bool true)] _ _ [] rfl rfl
      (.field joins (.rewritten (.inl rfl) owner))
  have wrapped (criteria : Dict Value) : RecordRewrites Join.forms
      (ownerJoin (.int 1) criteria) (ownerJoin (.ofDict wrappedStrategy) criteria) :=
    .record (@FieldsRewrite.entry _ _ _ [] _ _ [_] rfl rfl
      (.field List.mem_cons_self (.rewritten (.inl rfl) (.wrapped rfl rfl))))
  have permuted (strategy : Value) {criteria others : Dict Value}
      (same : criteria.toList.Perm others.toList) : RecordRewrites Join.forms
        (ownerJoin strategy criteria) (ownerJoin strategy others) :=
    have held : ⟨Population.criteriaField, Value.Permutes, False⟩ ∈ Population.forms := by
      simp [Population.forms]
    have populations : ⟨Join.populationsField, PopulationsRewrite, False⟩ ∈ Join.forms := by
      simp [Join.forms]
    have population : RecordRewrites Population.forms
        (.ofDict (Dict.ofList [("child", .text "users"), ("criteria", .ofDict criteria)]))
        (.ofDict (Dict.ofList [("child", .text "users"), ("criteria", .ofDict others)])) :=
      .record (@FieldsRewrite.entry _ _ _ [("child", .text "users")] _ _ [] rfl rfl
        (.field held (.rewritten (.inl rfl) (.keys same))))
    .record (@FieldsRewrite.entry _ _ _ [("strategy", strategy)] _ _ [] rfl rfl
      (.field populations (.rewritten (.inl rfl) (@PopulationsRewrite.item [] [] _ _ population))))
  have rewritten : Relation.ReflTransGen (FieldsRewrite Query.forms) plainQuery respelledQuery :=
    .head (respelled _ _) (.head (listed _) (.head (dropped _ _) (.head (added _ _)
      (.head (joined _ (wrapped _)) (.single (joined _ (permuted _ (.swap _ _ []))))))))
  refine ⟨single, rewritten, ?_⟩
  rcases Query.ofValue_rewritten single rewritten with same | ⟨issues, otherIssues, failed, -⟩
  · exact same
  · cases failed

end SelectClause

import SelectClause.Proofs.Validation.Locating
import SelectClause.Query

/-! # Issues of a query point into the query

Names, strategies and joins may be written in several forms and are put into one before they are
read. None of these forms gets in the way of the path of an issue: a single name is never at fault,
a strategy is blamed where its record stands, and no join is read where there are none. Every check
that a query is made of therefore locates its issues, and so does the query (`issues_point_into`).
-/

namespace SelectClause

/-- Populations locate their issues field by field. -/
theorem Population.locates_check : Check.Locates Population.check := by
  refine Check.locates_record fun value fields record => ?_
  have name (field : FieldName) := FieldName.locates_orElse field
    (Check.locates_nullable Check.locates_text) none record
  have child := FieldName.locates_required childField Check.locates_text record
  have select := FieldName.locates_orElse selectField
    (Check.locates_nullable Check.locates_names) none record
  have criteria := FieldName.locates_orElse criteriaField
    (Check.locates_dictionary Check.locates_anything) ∅ record
  have removed := FieldName.locates_orElse removeParentKeyField Check.locates_truth false record
  exact ⟨_, (child.map Population.mk)
    |>.seq_fields (name parentField) (by decide)
    |>.seq_fields (name parentKeyField) (by decide)
    |>.seq_fields (name childKeyField) (by decide)
    |>.seq_fields (name aliasField) (by decide)
    |>.seq_fields select (by decide)
    |>.seq_fields criteria (by decide)
    |>.seq_fields removed (by decide)⟩

/-- A strategy is blamed where it stands, also where a record is wrapped around it. -/
theorem Strategy.locates_check : Check.Locates Strategy.check := by
  intro value
  rw [check]
  split
  · rw [ofWholeNumber]
    split
    · exact .ok _
    · split
      · exact .fault (by decide) trivial
      · exact .fault (by decide) trivial
  · exact .fault (by decide) trivial

/-- Joins locate their issues in the strategy and in each population. -/
theorem Join.locates_check : Check.Locates Join.check := by
  refine Check.locates_record fun value fields record => ?_
  have strategy := FieldName.locates_required Strategy.field Strategy.locates_check record
  have populations := FieldName.locates_orElse populationsField
    (Check.locates_sequence Population.locates_check) [] record
  exact ⟨_, (strategy.map Join.mk).seq_fields populations (by decide)⟩

theorem FetchPlan.locates_check : Check.Locates FetchPlan.check := by
  refine Check.locates_record fun value fields record => ?_
  exact ⟨_, (FieldName.locates_orElse selectField Check.locates_names [] record).map FetchPlan.mk⟩

namespace Query

/-- Joins are told apart by their names, and where there are none nothing is at fault. -/
theorem locates_checkJoins : Check.Locates checkJoins := by
  intro value
  rw [checkJoins.eq_def]
  split
  · exact .ok ∅
  · exact Check.locates_dictionary Join.locates_check _

/-- Queries locate their issues, those of the aggregation among them. -/
theorem locates_check : Check.Locates check := by
  refine Check.locates_record fun value fields record => ?_
  have names (field : FieldName) := FieldName.locates_orElse field Check.locates_names [] record
  have aggregation := (names Aggregation.groupByField).map Aggregation.mk
    |>.seq_fields (names Aggregation.sumField) (by decide)
    |>.seq_fields (names Aggregation.averageField) (by decide)
    |>.seq_fields (names Aggregation.minimumField) (by decide)
    |>.seq_fields (names Aggregation.maximumField) (by decide)
  have select := FieldName.locates_orElse selectField
    (Check.locates_nullable Check.locates_names) none record
  have fetchPlan := FieldName.locates_orElse fetchPlanField
    (Check.locates_nullable FetchPlan.locates_check) none record
  have schemaless := FieldName.locates_orElse schemalessField Check.locates_truth false record
  have joins := FieldName.locates_orElse joinsField locates_checkJoins ∅ record
  exact ⟨_, (select.map Query.mk)
    |>.seq_fields fetchPlan (by decide)
    |>.seq_fields schemaless (by decide)
    |>.seq_fields joins (by decide)
    |>.seq_fields aggregation (by decide)⟩

/-- **Issues of a query point into it.** A query is refused just if it is found at fault, and then
there are issues, no two of them at one place. The path of a missing field leads to a record that
does not have its last key, and any other path to a value in the query as it was written. -/
theorem issues_point_into (fields : Dict Value) :
    (∀ failure, ofValue (.ofDict fields) = .error failure ↔
      ∃ issues, check (.ofDict fields) = .failed issues ∧ failure = .invalidQuery issues) ∧
    ∀ issues, check (.ofDict fields) = .failed issues →
      issues ≠ [] ∧ (issues.map Issue.path).Nodup ∧
      ∀ issue ∈ issues,
        (issue.fault.code = "missing" →
          ∃ place name record inner, issue.path = place ++ [.key name] ∧
            (Value.ofDict fields).at? place = some record ∧ record.fields? = some inner ∧
            name ∉ inner.keys) ∧
        (issue.fault.code ≠ "missing" →
          ∃ inner, (Value.ofDict fields).at? issue.path = some inner) := by
  constructor
  · intro failure
    rw [ofValue_ofDict, check, Check.record_ofDict]
    cases ofFields fields with
    | ok query => simp
    | failed issues => simp [eq_comm]
  · intro issues failed
    have located := locates_check (.ofDict fields) issues failed
    refine ⟨located.nonempty, located.distinct, fun issue member => ?_⟩
    rw [ne_eq, Fault.code_eq_missing_iff]
    cases located.lies issue member with
    | missing fault path leads held absent =>
      exact ⟨fun _ => ⟨_, _, _, _, path, leads, held, absent⟩, fun other => absurd fault other⟩
    | present fault leads => exact ⟨fun missing => absurd missing fault, fun _ => ⟨_, leads⟩⟩

/-- A query that is at fault in its names, its fetch plan and a join. -/
def faultyFields : Dict Value := Dict.ofList [
  ("select", .list [.int 1, .text "name", .null]),
  ("fetch_plan", .record [("select", .int 5)]),
  ("instructions", .record [("owner", .record [
    ("instructions", .list [.record [("childKey", .int 2)]])]),
    ("toys", .record [("strategy", .record [("strategy", .int 7)])])]),
  ("sum", .text "weight")]

/-- What is found at fault, in the order of the fields. -/
def faultyIssues : List Issue := [
  ⟨[.key "select", .index 0], .notText⟩,
  ⟨[.key "select", .index 2], .notText⟩,
  ⟨[.key "fetch_plan", .key "select"], .notSequence⟩,
  ⟨[.key "instructions", .key "owner", .key "strategy"], .fieldMissing⟩,
  ⟨[.key "instructions", .key "owner", .key "instructions", .index 0, .key "child"],
    .fieldMissing⟩,
  ⟨[.key "instructions", .key "owner", .key "instructions", .index 0, .key "childKey"], .notText⟩,
  ⟨[.key "instructions", .key "toys", .key "strategy"], .notStrategy⟩]

/-- Of the issues one is a missing field and one a strategy inside a record around it. -/
theorem issues_point_into_faulty :
    check (.ofDict faultyFields) = .failed faultyIssues ∧
      ofValue (.ofDict faultyFields) = .error (.invalidQuery faultyIssues) ∧
      (faultyIssues.map Issue.path).Nodup ∧
      (∃ place name record inner,
        [.key "instructions", .key "owner", .key "strategy"] = place ++ [Step.key name] ∧
        (Value.ofDict faultyFields).at? place = some record ∧ record.fields? = some inner ∧
        name ∉ inner.keys) ∧
      ∃ inner, (Value.ofDict faultyFields).at?
        [.key "instructions", .key "toys", .key "strategy"] = some inner := by
  obtain ⟨refused, located⟩ := issues_point_into faultyFields
  have failed : check (.ofDict faultyFields) = .failed faultyIssues := rfl
  obtain ⟨-, distinct, points⟩ := located faultyIssues failed
  exact ⟨failed, (refused _).2 ⟨_, failed, rfl⟩, distinct,
    (points ⟨[.key "instructions", .key "owner", .key "strategy"], .fieldMissing⟩
      (by decide)).1 rfl,
    (points ⟨[.key "instructions", .key "toys", .key "strategy"], .notStrategy⟩ (by decide)).2
      (by decide)⟩

end Query

end SelectClause

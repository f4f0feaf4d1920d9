import SelectClause.Proofs.Validation.Rewriting
import SelectClause.Proofs.Validation.Traversal

/-! # Checks that come out alike

Two outcomes are alike if both have a value, and the values are related, or if both fail, whatever
their issues are (`Checked.Alike`). Outcomes that are put together from alike ones are alike. A
field of a rewritten record is read alike if what its form allows is (`FieldName.alike_orElse`),
and the checks of single values and of names do not see how keys are permuted
(`Check.IgnoresOrder`).
-/

namespace SelectClause

namespace Checked

variable {α β γ δ : Type} {related : α → β → Prop} {after : γ → δ → Prop}

/-- Two outcomes with related values, or two failures. -/
inductive Alike (related : α → β → Prop) : Checked α → Checked β → Prop where
  | ok {value : α} {other : β} (same : related value other) : Alike related (.ok value) (.ok other)
  | failed (issues others : List Issue) : Alike related (.failed issues) (.failed others)

namespace Alike

theorem refl {related : α → α → Prop} (reflexive : ∀ value, related value value)
    (outcome : Checked α) : Alike related outcome outcome := by
  cases outcome with
  | ok value => exact .ok (reflexive value)
  | failed issues => exact .failed issues issues

theorem trans {related : α → α → Prop}
    (transitive : ∀ first second third, related first second → related second third →
      related first third) {first second third : Checked α} (before : Alike related first second)
    (later : Alike related second third) : Alike related first third := by
  cases before with
  | ok same =>
    cases later with
    | ok further => exact .ok (transitive _ _ _ same further)
  | failed issues others =>
    cases later with
    | failed _ further => exact .failed issues further

/-- Related values are those that the outcomes have. -/
theorem reached {outcome : Checked α} {other : Checked β} (alike : Alike related outcome other) :
    Alike (fun value otherValue => related value otherValue ∧ outcome = .ok value ∧
      other = .ok otherValue) outcome other := by
  cases alike with
  | ok same => exact .ok ⟨same, rfl, rfl⟩
  | failed issues others => exact .failed issues others

theorem mono {further : α → β → Prop} {outcome : Checked α} {other : Checked β}
    (alike : Alike related outcome other)
    (weaker : ∀ value otherValue, related value otherValue → further value otherValue) :
    Alike further outcome other := by
  cases alike with
  | ok same => exact .ok (weaker _ _ same)
  | failed issues others => exact .failed issues others

/-- Outcomes stay alike under changes that keep their values related. -/
theorem map {outcome : Checked α} {other : Checked β} (alike : Alike related outcome other)
    {change : α → γ} {otherChange : β → δ}
    (changed : ∀ value otherValue, related value otherValue →
      after (change value) (otherChange otherValue)) :
    Alike after (change <$> outcome) (otherChange <$> other) := by
  cases alike with
  | ok same => exact .ok (changed _ _ same)
  | failed issues others => exact .failed issues others

/-- Combinations of alike outcomes are alike. -/
theorem seq {change : Checked (α → γ)} {otherChange : Checked (β → δ)} {outcome : Checked α}
    {other : Checked β}
    (changes : Alike (fun function otherFunction => ∀ value otherValue, related value otherValue →
      after (function value) (otherFunction otherValue)) change otherChange)
    (alike : Alike related outcome other) :
    Alike after (change <*> outcome) (otherChange <*> other) := by
  cases changes with
  | ok changed =>
    cases alike with
    | ok same => exact .ok (changed _ _ same)
    | failed => exact .failed _ _
  | failed =>
    cases alike with
    | ok => exact .failed _ _
    | failed => exact .failed _ _

/-- It does not matter where the values stand. -/
theorem under {outcome : Checked α} {other : Checked β} (alike : Alike related outcome other)
    (step otherStep : Step) : Alike related (outcome.under step) (other.under otherStep) := by
  cases alike with
  | ok same => exact .ok same
  | failed => exact .failed _ _

/-- Traversals of items whose steps are alike are alike. -/
theorem mapA {ι κ : Type} {items : List ι} {others : List κ} {check : ι → Checked α}
    {otherCheck : κ → Checked β}
    (each : List.Forall₂ (fun item other => Alike related (check item) (otherCheck other)) items
      others) : Alike (List.Forall₂ related) (items.mapA check) (others.mapA otherCheck) := by
  induction each with
  | nil => exact .ok .nil
  | cons first _ ih =>
    rw [List.mapA, List.mapA]
    refine (first.map ?_).seq ih
    exact fun _ _ same _ _ rest => .cons same rest

end Alike

end Checked

/-- Dictionaries with the same keys in the same order and with related values. -/
def Dict.Related {α : Type} (related : α → α → Prop) (dict other : Dict α) : Prop :=
  List.Forall₂ (fun entry other => entry.1 = other.1 ∧ related entry.2 other.2) dict.toList
    other.toList

theorem Dict.Related.refl {α : Type} {related : α → α → Prop}
    (reflexive : ∀ value, related value value) (dict : Dict α) : dict.Related related dict :=
  List.forall₂_same.2 fun entry _ => ⟨rfl, reflexive entry.2⟩

namespace Check

open Checked (Alike)

variable {α : Type} {related : α → α → Prop} {check : Check α} {value other : Value}

/-- Items that are read alike one by one make up lists that are. -/
theorem alike_items {values others : List Value}
    (each : List.Forall₂ (fun value other => Alike related (check value) (check other)) values
      others) : Alike (List.Forall₂ related) (items check values) (items check others) := by
  refine Alike.mapA ?_
  have indexed : List.Forall₂ (fun item other : Value × Nat =>
      Alike related (check item.1) (check other.1)) values.zipIdx others.zipIdx := by
    rwa [← List.zipIdx_map_fst 0 values, ← List.zipIdx_map_fst 0 others,
      List.forall₂_map_left_iff, List.forall₂_map_right_iff] at each
  exact indexed.imp fun item other alike => alike.under _ _

/-- Dictionaries with the same keys and alike values are alike. -/
theorem alike_dictionary {fields others : Dict Value}
    (each : List.Forall₂ (fun entry other => entry.1 = other.1 ∧
      Alike related (check entry.2) (check other.2)) fields.toList others.toList) :
    Alike (Dict.Related related) (dictionary check (.ofDict fields))
      (dictionary check (.ofDict others)) := by
  have entry : ∀ entry other : String × Value,
      entry.1 = other.1 ∧ Alike related (check entry.2) (check other.2) →
        Alike (fun read otherRead => read.1 = otherRead.1 ∧ related read.2 otherRead.2)
          ((entry.1, ·) <$> (check entry.2).under (.key entry.1))
          ((other.1, ·) <$> (check other.2).under (.key other.1)) :=
    fun entry other alike => (alike.2.under _ _).map fun _ _ same => ⟨alike.1, same⟩
  have distinct : ∀ {fields : Dict Value} {reads : List (String × α)},
      (fields.toList.mapA fun entry => (entry.1, ·) <$> (check entry.2).under (.key entry.1)) =
        .ok reads → (reads.map Prod.fst).Nodup :=
    fun {fields} _ read => map_fst_of_forall₂ (mapA_entries_eq_ok_iff.1 read) ▸ fields.distinct
  rw [dictionary, dictionary, Value.fields?_ofDict, Value.fields?_ofDict]
  refine (Alike.mapA (each.imp entry)).reached.map ?_
  rintro reads otherReads ⟨same, read, otherRead⟩
  rwa [Dict.Related, Dict.toList_ofList (distinct read), Dict.toList_ofList (distinct otherRead)]

/-- A check does not see how keys are permuted. -/
def IgnoresOrder (check : Check α) : Prop :=
  ∀ value other, value.Permutes other → Alike (· = ·) (check value) (check other)

/-- Checks that refuse all records and lists do not see how keys are permuted. -/
theorem ignoresOrder_of_failed
    (record : ∀ fields, ∃ issues, check (.ofDict fields) = .failed issues)
    (list : ∀ items, ∃ issues, check (.list items) = .failed issues) : IgnoresOrder check := by
  intro value other permutes
  rcases permutes.shape with ⟨fields, others, rfl, rfl⟩ | ⟨items, others, rfl, rfl⟩
  · obtain ⟨issues, failed⟩ := record fields
    obtain ⟨otherIssues, otherFailed⟩ := record others
    rw [failed, otherFailed]
    exact .failed _ _
  · obtain ⟨issues, failed⟩ := list items
    obtain ⟨otherIssues, otherFailed⟩ := list others
    rw [failed, otherFailed]
    exact .failed _ _

theorem ignoresOrder_text : IgnoresOrder text :=
  ignoresOrder_of_failed (fun _ => ⟨_, rfl⟩) fun _ => ⟨_, rfl⟩

theorem ignoresOrder_truth : IgnoresOrder truth :=
  ignoresOrder_of_failed (fun _ => ⟨_, rfl⟩) fun _ => ⟨_, rfl⟩

theorem ignoresOrder_names : IgnoresOrder names := by
  intro value other permutes
  cases permutes with
  | keys same => exact .failed _ _
  | field held written inside => exact .failed _ _
  | @item before after value other inside =>
    have each : List.Forall₂ (fun value other => Alike (· = ·) (text value) (text other))
        (before ++ [value] ++ after) (before ++ [other] ++ after) :=
      forall₂_of_split (fun _ => .refl (fun _ => rfl) _) (ignoresOrder_text _ _ inside)
    refine (alike_items each).mono fun read otherRead same => ?_
    rwa [List.forall₂_eq_eq_eq] at same

/-- What is permuted is never the absent value. -/
theorem IgnoresOrder.nullable (ignores : IgnoresOrder check) : IgnoresOrder (nullable check) := by
  intro value other permutes
  have same := ignores value other permutes
  rcases permutes.shape with ⟨fields, others, rfl, rfl⟩ | ⟨items, others, rfl, rfl⟩
  · exact same.map fun _ _ equal => congrArg some equal
  · exact same.map fun _ _ equal => congrArg some equal

/-- Records are checked alike if their fields are read alike. -/
theorem alike_record {model : Model} {read : Dict Value → Checked α} {forms : List FieldForm}
    (rewrites : RecordRewrites forms value other)
    (fields : ∀ fields others, FieldsRewrite forms fields others →
      Alike related (read fields) (read others)) :
    Alike related (record model read value) (record model read other) := by
  cases rewrites with
  | record fieldsRewrite =>
    rw [record_ofDict, record_ofDict]
    exact fields _ _ fieldsRewrite
  | malformed noRecord permutes =>
    obtain ⟨items, others, rfl, rfl⟩ := permutes.lists noRecord
    exact .failed _ _

end Check

namespace FieldName

open Checked (Alike)

variable {α : Type} {related : α → α → Prop} {check : Check α} {form : FieldForm}
  {fields others : Dict Value}

/-- What was found of a field before and after it has moved. -/
theorem find_of_moves (moves : form.Moves (form.name.valueIn fields) (form.name.valueIn others)) :
    (form.name.find fields = none ∧ form.name.find others = none) ∨
      (∃ key otherKey value other, form.name.find fields = some (key, value) ∧
        form.name.find others = some (otherKey, other) ∧
        (value = other ∨ form.rewrites value other)) ∨
      ∃ key, form.name.find fields = some (key, .null) ∧ form.name.find others = none ∧
        form.droppable := by
  rw [valueIn, valueIn] at moves
  cases found : form.name.find fields with
  | none =>
    cases otherFound : form.name.find others with
    | none => exact .inl ⟨rfl, rfl⟩
    | some otherField =>
      rw [found, otherFound] at moves
      cases moves
  | some field =>
    obtain ⟨key, value⟩ := field
    cases otherFound : form.name.find others with
    | none =>
      rw [found, otherFound] at moves
      cases moves with
      | dropped droppable => exact .inr (.inr ⟨key, rfl, rfl, droppable⟩)
    | some otherField =>
      obtain ⟨otherKey, other⟩ := otherField
      rw [found, otherFound] at moves
      refine .inr (.inl ⟨key, otherKey, value, other, rfl, rfl, ?_⟩)
      cases moves with
      | kept => exact .inl rfl
      | rewritten rewrites => exact .inr rewrites

/-- A field that may be left out is read alike if what its form allows is. -/
theorem alike_orElse {default : α} (reflexive : ∀ value, related value value)
    (moves : form.Moves (form.name.valueIn fields) (form.name.valueIn others))
    (rewritten : ∀ value other, form.rewrites value other →
      Alike related (check value) (check other))
    (dropped : form.droppable → check .null = .ok default) :
    Alike related (form.name.orElse check default fields)
      (form.name.orElse check default others) := by
  rw [orElse, orElse, given, given]
  rcases find_of_moves moves with ⟨missing, otherMissing⟩ |
    ⟨key, otherKey, value, other, found, otherFound, rewrites⟩ |
    ⟨key, found, otherMissing, droppable⟩
  · rw [missing, otherMissing]
    exact .ok (reflexive _)
  · have same : Alike related (check value) (check other) := by
      rcases rewrites with rfl | rewrites
      · exact .refl reflexive _
      · exact rewritten _ _ rewrites
    rw [found, otherFound]
    show Alike related ((·.getD default) <$> some <$> (check value).under (.key key))
      ((·.getD default) <$> some <$> (check other).under (.key otherKey))
    rw [← comp_map, ← comp_map]
    exact (same.under _ _).map fun _ _ same => same
  · rw [found, otherMissing]
    show Alike related ((·.getD default) <$> some <$> (check .null).under (.key key)) _
    rw [dropped droppable]
    exact .ok (reflexive _)

/-- A field without forms of its own is read alike by a check that does not see how keys are
permuted. -/
theorem alike_orElse_of_ignoresOrder {name : FieldName} {default : α}
    (ignores : Check.IgnoresOrder check)
    (moves : ({ name } : FieldForm).Moves (name.valueIn fields) (name.valueIn others)) :
    Alike (· = ·) (name.orElse check default fields) (name.orElse check default others) :=
  alike_orElse (fun _ => rfl) moves ignores False.elim

/-- A field that has to be there is read alike if what its form allows is. -/
theorem alike_required (reflexive : ∀ value, related value value)
    (moves : form.Moves (form.name.valueIn fields) (form.name.valueIn others))
    (rewritten : ∀ value other, form.rewrites value other →
      Alike related (check value) (check other))
    (kept : ¬ form.droppable) :
    Alike related (form.name.required check fields) (form.name.required check others) := by
  rw [required, required]
  rcases find_of_moves moves with ⟨missing, otherMissing⟩ |
    ⟨key, otherKey, value, other, found, otherFound, rewrites⟩ |
    ⟨key, found, otherMissing, droppable⟩
  · rw [missing, otherMissing]
    exact .failed _ _
  · have same : Alike related (check value) (check other) := by
      rcases rewrites with rfl | rewrites
      · exact .refl reflexive _
      · exact rewritten _ _ rewrites
    rw [found, otherFound]
    exact same.under _ _
  · exact absurd droppable kept

end FieldName

end SelectClause

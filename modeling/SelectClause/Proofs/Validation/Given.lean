import SelectClause.Catalog.Attribute
import SelectClause.Query

/-! # Fields given and fields left out

A field that is left out and a field that is given as the absent value are told apart where it
matters. An attribute is a collection as soon as the field is given at all, even as the absent value
(`Attribute.collection_eq_none_iff`). A query has no selection if the field is left out or absent,
and an empty list is a selection (`Query.select_eq_none_iff`).
-/

namespace SelectClause

/-- A changed outcome is good just if it is the change of a good one. -/
theorem Checked.map_eq_ok_iff {α β : Type} {change : α → β} {outcome : Checked α} {result : β} :
    change <$> outcome = .ok result ↔ ∃ value, outcome = .ok value ∧ change value = result := by
  cases outcome <;> simp

/-- A field with one spelling is read as nothing where it is left out, and as its value else. -/
theorem FieldName.given_eq_ok_iff {α : Type} {name : FieldName} {check : Check α}
    {fields : Dict Value} {result : Option α} (single : name.preferred = name.plain) :
    name.given check fields = .ok result ↔
      (fields.get? name.plain = none ∧ result = none) ∨
        ∃ value read, fields.get? name.plain = some value ∧ check value = .ok read ∧
          result = some read := by
  cases field : fields.get? name.plain with
  | none =>
    have absent : name.find fields = none := find_eq_none.2 ⟨single ▸ field, field⟩
    simp [given, absent, eq_comm]
  | some value =>
    have found : name.find fields = some (name.plain, value) :=
      single ▸ find_of_preferred (single ▸ field)
    simp only [given, found, Checked.map_eq_ok_iff, Checked.under_eq_ok_iff]
    simp [eq_comm]

/-- An attribute is no collection just if the field is not among those that were given. -/
theorem Attribute.collection_eq_none_iff {fields : Dict Value} {definition : Attribute}
    (read : Attribute.check (.ofDict fields) = .ok definition) :
    definition.collection = none ↔ "collection" ∉ fields.keys := by
  rw [check_ofDict, ofFields] at read
  simp only [Checked.seq_eq_ok_iff, Checked.map_eq_ok_iff] at read
  obtain ⟨-, -, ⟨-, -, ⟨-, -, ⟨-, -, ⟨-, collection, ⟨-, -, rfl⟩, given, rfl⟩, -, rfl⟩, -, rfl⟩, -,
    rfl⟩, -, rfl⟩ := read
  rw [← Dict.get?_eq_none_iff]
  show collection = none ↔ fields.get? collectionField.plain = none
  rcases (FieldName.given_eq_ok_iff rfl).1 given with
    ⟨absent, rfl⟩ | ⟨value, name, present, -, rfl⟩
  · simp [absent]
  · simp [present]

/-- A query has no selection just if the field is left out or given as the absent value. -/
theorem Query.select_eq_none_iff {fields : Dict Value} {query : Query}
    (read : Query.ofValue (.ofDict fields) = .ok query) :
    query.select = none ↔ fields.get? "select" = none ∨ fields.get? "select" = some .null := by
  rw [ofValue_ofDict] at read
  split at read
  · rename_i passed checked
    cases read
    simp only [ofFields, Checked.seq_eq_ok_iff, Checked.map_eq_ok_iff, FieldName.orElse] at checked
    obtain ⟨-, -, ⟨-, -, ⟨-, -, ⟨-, -, ⟨-, ⟨select, given, rfl⟩, rfl⟩, -, rfl⟩, -, rfl⟩, -, rfl⟩, -,
      rfl⟩ := checked
    show select.getD none = none ↔
      fields.get? selectField.plain = none ∨ fields.get? selectField.plain = some .null
    rcases (FieldName.given_eq_ok_iff rfl).1 given with
      ⟨absent, rfl⟩ | ⟨value, names, present, checked, rfl⟩
    · simp [absent]
    · -- A value other than the absent one is read as names, and so the selection is given.
      by_cases nothing : value = .null
      · subst nothing
        cases checked
        simp [present]
      · have some : value.isNull = false := by cases value <;> simp_all [Value.isNull]
        rw [Check.nullable_of_isNull_eq_false _ some, Checked.map_eq_ok_iff] at checked
        obtain ⟨list, -, rfl⟩ := checked
        simp [present, nothing]
  · cases read

end SelectClause

import SelectClause.Text.Split

/-! # First occurrences

Splitting a text yields the parts around the first occurrence of the separator
(`splitAtFirst_eq_some_iff`), and nothing just if there is none (`splitAtFirst_eq_none_iff`). An
occurrence that ends within the front of a text is one in that front (`OccursAt.of_append`), so that
a first occurrence stays the first one whatever is put behind it (`FirstSplit.with_after`).
-/

namespace SelectClause.Text

/-- A separator stands in a text at an index. -/
def OccursAt (separator text : List Char) (index : Nat) : Prop := separator <+: text.drop index

instance (separator text : List Char) (index : Nat) : Decidable (OccursAt separator text index) :=
  inferInstanceAs (Decidable (_ <+: _))

/-- The parts of a text around the first occurrence of a separator. -/
structure FirstSplit (separator text before after : List Char) : Prop where
  whole : text = before ++ (separator ++ after)
  first : ∀ index < before.length, ¬ OccursAt separator text index

variable {separator text before after : List Char} {index : Nat}

/-- An occurrence stays where it is when text is added behind it. -/
theorem OccursAt.append (occurs : OccursAt separator text index) (more : List Char) :
    OccursAt separator (text ++ more) index := by
  rw [OccursAt, List.drop_append]
  exact occurs.trans (List.prefix_append _ _)

/-- An occurrence that ends within the front of a text occurs in that front. -/
theorem OccursAt.of_append {more : List Char} (occurs : OccursAt separator (text ++ more) index)
    (within : index + separator.length ≤ text.length) : OccursAt separator text index := by
  rw [OccursAt, List.drop_append_of_le_length (by omega)] at occurs
  apply List.prefix_of_prefix_length_le occurs (List.prefix_append _ _)
  rw [List.length_drop]
  omega

/-- A text is split where the separator occurs. -/
theorem FirstSplit.occurs (split : FirstSplit separator text before after) :
    OccursAt separator text before.length := by
  rw [OccursAt, split.whole, List.drop_left]
  exact List.prefix_append _ _

/-- What stands behind a first occurrence does not matter to it. -/
theorem FirstSplit.with_after (split : FirstSplit separator text before after)
    (other : List Char) : FirstSplit separator (before ++ (separator ++ other)) before other := by
  refine ⟨rfl, fun index below occurs => split.first index below ?_⟩
  rw [← List.append_assoc] at occurs
  have within := (occurs.of_append (by rw [List.length_append]; omega)).append after
  rwa [List.append_assoc, ← split.whole] at within

/-- The parts of a split are those around the first occurrence of the separator. -/
theorem splitAtFirst_eq_some_iff :
    splitAtFirst separator text = some (before, after) ↔
      FirstSplit separator text before after := by
  induction text generalizing before with
  | nil =>
    constructor
    · intro found
      have whole := splitAtFirst_sound found
      have front : before = [] := (List.append_eq_nil_iff.1 whole.symm).1
      exact ⟨whole, by simp [front]⟩
    · intro split
      obtain ⟨rfl, rfl, rfl⟩ : before = [] ∧ separator = [] ∧ after = [] := by
        simpa using split.whole
      rfl
  | cons char text ih =>
    rw [splitAtFirst]
    split
    · rename_i starts
      have occurs : separator <+: char :: text := List.isPrefixOf_iff_prefix.1 starts
      have rest := List.prefix_iff_eq_append.1 occurs
      constructor
      · intro found
        obtain ⟨rfl, rfl⟩ : [] = before ∧ (char :: text).drop separator.length = after := by
          simpa using found
        exact ⟨rest.symm, by simp⟩
      · intro split
        cases before with
        | nil =>
          have whole : char :: text = separator ++ after := split.whole
          rw [whole, List.drop_left]
        | cons first before => exact absurd occurs (split.first 0 (Nat.zero_lt_succ _))
    · rename_i elsewhere
      have absent : ¬ OccursAt separator (char :: text) 0 := fun occurs =>
        elsewhere (List.isPrefixOf_iff_prefix.2 occurs)
      constructor
      · intro found
        obtain ⟨parts, inside, same⟩ := Option.map_eq_some_iff.1 found
        obtain ⟨rfl, rfl⟩ : char :: parts.1 = before ∧ parts.2 = after := by simpa using same
        obtain ⟨whole, first⟩ := ih.1 inside
        refine ⟨by rw [whole, List.cons_append], ?_⟩
        intro index below
        cases index with
        | zero => exact absent
        | succ index => exact first index (by simpa using below)
      · intro split
        -- The part before the separator has a first character, and what is left of it is the part
        -- before the separator in the rest of the text.
        cases before with
        | nil => exact absurd split.occurs absent
        | cons first before =>
          obtain ⟨rfl, whole⟩ : char = first ∧ text = before ++ (separator ++ after) := by
            simpa using split.whole
          have inside : FirstSplit separator text before after :=
            ⟨whole, fun index below => split.first (index + 1) (by simpa using below)⟩
          rw [ih.2 inside]
          rfl

/-- Nothing is split just if the separator occurs nowhere. -/
theorem splitAtFirst_eq_none_iff :
    splitAtFirst separator text = none ↔ ∀ index, ¬ OccursAt separator text index := by
  induction text with
  | nil => simp [splitAtFirst, OccursAt]
  | cons char text ih =>
    rw [splitAtFirst]
    split
    · rename_i starts
      have occurs : OccursAt separator (char :: text) 0 := List.isPrefixOf_iff_prefix.1 starts
      constructor
      · intro impossible
        cases impossible
      · intro absent
        exact absurd occurs (absent 0)
    · rename_i elsewhere
      rw [Option.map_eq_none_iff, ih]
      constructor
      · intro absent index
        cases index with
        | zero => exact fun occurs => elsewhere (List.isPrefixOf_iff_prefix.2 occurs)
        | succ index => exact absent index
      · intro absent index
        exact absent (index + 1)

end SelectClause.Text

import SelectClause.Catalog.Attribute
import SelectClause.Options

/-! # The names of columns

The column of an attribute is the one that its definition names, unless this name is empty. An
attribute without such a name goes by another rule: in an inlined child it has the column of its own
name, and in the target that of the last rename of its name, if there is one (`Options.Renames`).
Both rules are stated without the functions that carry them out, and
`Attribute.storedAs_iff_eq_getD` and `Options.renames_iff_eq_identityColumn` say that these follow
them.
-/

namespace SelectClause

/-- The column of an attribute is the named one, or else one by another rule. -/
inductive Attribute.StoredAs (definition : Attribute) (otherwise : String → Prop) :
    String → Prop where
  | named {column : String} (declared : definition.columnName = some (some column))
      (nonempty : column ≠ "") : StoredAs definition otherwise column
  | unnamed {column : String}
      (undeclared : ∀ declared, definition.columnName = some (some declared) → declared = "")
      (other : otherwise column) : StoredAs definition otherwise column

/-- The column that stands for a name: the last one that it is renamed to, or else the name. -/
inductive Options.Renames (options : Options) (name : String) : String → Prop where
  | renamed {before after : List (String × String)} {column : String}
      (given : options.identityColumns = before ++ (name, column) :: after)
      (last : name ∉ after.map Prod.fst) : Renames options name column
  | kept (absent : name ∉ options.identityColumns.map Prod.fst) : Renames options name name

/-- Where the other rule gives one column, an attribute is stored as its declared column, or else as
this one. -/
theorem Attribute.storedAs_iff_eq_getD {definition : Attribute} {otherwise : String → Prop}
    {other column : String} (rule : ∀ column, otherwise column ↔ column = other) :
    definition.StoredAs otherwise column ↔ column = definition.declaredColumn.getD other := by
  have cases : (∃ declared, definition.columnName = some (some declared) ∧ declared ≠ "" ∧
      definition.declaredColumn = some declared) ∨
      ((∀ declared, definition.columnName = some (some declared) → declared = "") ∧
        definition.declaredColumn = none) := by
    rcases named : definition.columnName with _ | _ | declared
    · simp [declaredColumn, named]
    · simp [declaredColumn, named]
    · by_cases empty : declared = "" <;> simp [declaredColumn, named, empty]
  rcases cases with ⟨declared, named, nonempty, found⟩ | ⟨undeclared, found⟩
  · rw [found, Option.getD_some]
    constructor
    · rintro (⟨same, -⟩ | ⟨undeclared, -⟩)
      · simpa [named, eq_comm] using same
      · exact absurd (undeclared declared named) nonempty
    · rintro rfl
      exact .named named nonempty
  · rw [found, Option.getD_none, ← rule]
    constructor
    · rintro (⟨named, nonempty⟩ | ⟨-, other⟩)
      · exact absurd (undeclared column named) nonempty
      · exact other
    · exact .unnamed undeclared

/-- Looking up from the end finds the last rename of a name. -/
theorem Options.lookup_reverse_eq_some_iff {options : Options} {name column : String} :
    options.identityColumns.reverse.lookup name = some column ↔
      ∃ before after, options.identityColumns = before ++ (name, column) :: after ∧
        name ∉ after.map Prod.fst := by
  rw [List.lookup_eq_some_iff]
  constructor
  · rintro ⟨after, before, reversed, others⟩
    refine ⟨before.reverse, after.reverse, ?_, ?_⟩
    · rw [← List.reverse_reverse options.identityColumns, reversed]
      simp
    · intro member
      obtain ⟨entry, present, same⟩ := List.mem_map.1 member
      exact bne_iff_ne.1 (others entry (List.mem_reverse.1 present)) same.symm
  · rintro ⟨before, after, given, last⟩
    refine ⟨after.reverse, before.reverse, by simp [given], ?_⟩
    intro entry member
    rw [bne_iff_ne]
    rintro rfl
    exact last (List.mem_map.2 ⟨entry, List.mem_reverse.1 member, rfl⟩)

/-- A name stands for its identity column, and for no other. -/
theorem Options.renames_iff_eq_identityColumn {options : Options} {name column : String} :
    options.Renames name column ↔ column = options.identityColumn name := by
  constructor
  · rintro (⟨given, last⟩ | absent)
    · rw [identityColumn, lookup_reverse_eq_some_iff.2 ⟨_, _, given, last⟩, Option.getD_some]
    · exact (identityColumn_of_not_mem absent).symm
  · rintro rfl
    cases found : options.identityColumns.reverse.lookup name with
    | some column =>
      obtain ⟨before, after, given, last⟩ := lookup_reverse_eq_some_iff.1 found
      rw [identityColumn, found, Option.getD_some]
      exact .renamed given last
    | none =>
      rw [identityColumn, found, Option.getD_none]
      refine .kept fun member => ?_
      obtain ⟨entry, present, same⟩ := List.mem_map.1 member
      have other := List.lookup_eq_none_iff.1 found entry (List.mem_reverse.2 present)
      exact bne_iff_ne.1 other same.symm

end SelectClause

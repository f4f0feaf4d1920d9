import SelectClause.Validation.Kind

/-! # Fields of a record

A field is found under one of two spellings of its name. Where a record has both, the preferred
one counts and the plain one is like any other key that is no field's.

`find_of_preferred`, `find_of_plain` and `find_eq_none` are the rules of look-up.
-/

namespace SelectClause

/-- The name of a field in its two spellings. -/
structure FieldName where
  plain : String
  preferred : String := plain
  deriving DecidableEq, Repr

namespace FieldName

variable {α : Type}

/-- The field as a record has it: the spelling that counts and the value. -/
def find (name : FieldName) (fields : Dict Value) : Option (String × Value) :=
  match fields.get? name.preferred with
  | some value => some (name.preferred, value)
  | none => (fields.get? name.plain).map (name.plain, ·)

/-- A field that may be left out. -/
def given (name : FieldName) (check : Check α) (fields : Dict Value) : Checked (Option α) :=
  match name.find fields with
  | none => .ok none
  | some (key, value) => some <$> (check value).under (.key key)

/-- A field that has a value of its own where it is left out. -/
def orElse (name : FieldName) (check : Check α) (default : α) (fields : Dict Value) : Checked α :=
  (·.getD default) <$> name.given check fields

/-- A field that has to be there. -/
def required (name : FieldName) (check : Check α) (fields : Dict Value) : Checked α :=
  match name.find fields with
  | none => (Checked.fault .fieldMissing).under (.key name.preferred)
  | some (key, value) => (check value).under (.key key)

/-- The fields of a record whose keys are the spelling of none of the given fields, or the plain
spelling of one that is given in the preferred spelling. -/
def others (names : List FieldName) (fields : Dict Value) : Dict Value :=
  fields.filterKeys fun key => !names.any fun name => (name.find fields).any (·.1 == key)

/-- The preferred spelling counts, whatever the plain one has. -/
theorem find_of_preferred {name : FieldName} {fields : Dict Value} {value : Value}
    (present : fields.get? name.preferred = some value) :
    name.find fields = some (name.preferred, value) := by
  simp [find, present]

/-- The plain spelling counts where the preferred one is not given. -/
theorem find_of_plain {name : FieldName} {fields : Dict Value} {value : Value}
    (absent : fields.get? name.preferred = none) (present : fields.get? name.plain = some value) :
    name.find fields = some (name.plain, value) := by
  simp [find, absent, present]

/-- A field is left out where neither spelling is given. -/
theorem find_eq_none {name : FieldName} {fields : Dict Value} :
    name.find fields = none ↔
      fields.get? name.preferred = none ∧ fields.get? name.plain = none := by
  cases preferred : fields.get? name.preferred <;> simp [find, preferred]

end FieldName

end SelectClause

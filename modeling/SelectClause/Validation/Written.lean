import SelectClause.Validation.Field

/-! # Records written back to their fields

A record that keeps its unknown fields can be written back. The fields that were given come first,
in the preferred spelling, and then the unknown ones.
-/

namespace SelectClause

/-- The value that a text or its absence is written as. -/
def Value.ofText? : Option String → Value
  | some content => .text content
  | none => .null

/-- The fields of a record, each with its value if it was given, and the unknown fields. -/
structure Written where
  known : List (FieldName × Option Value)
  unknown : Dict Value

namespace Written

/-- The fields that have a value to be written. -/
def given (written : Written) : List (FieldName × Value) :=
  written.known.filterMap fun field => field.2.map (field.1, ·)

/-- The record that is written, each known field under its preferred spelling. -/
def toDict (written : Written) : Dict Value :=
  Dict.ofList <|
    written.given.map (fun field => (field.1.preferred, field.2)) ++ written.unknown.toList

/-- The plain names of the given fields and the keys of the unknown ones, each once and sorted. -/
def names (written : Written) : List String :=
  ((written.given.map (·.1.plain)) ++ written.unknown.keys).eraseDups.mergeSort
    fun first second => first ≤ second

end Written

end SelectClause

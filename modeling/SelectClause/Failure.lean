import SelectClause.Catalog.Reference
import SelectClause.Validation.Checked

/-! # Failures

The causes for which a schema, a query or an option is refused, with the wording of each in
`Failure.message`.
-/

namespace SelectClause

/-- Why no result is given. -/
inductive Failure where
  /-- The table is that of no entity, or of several. -/
  | tableMismatch (table : Reference) (candidates : List String)
  | unknownEntity (identity : Reference)
  /-- Columns to group by are given, but nothing to calculate. -/
  | noCalculation
  /-- A value is no record of the given kind. -/
  | invalid (model : Model) (issues : List Issue)
  | invalidQuery (issues : List Issue)
  /-- A value that should be a mapping is none. -/
  | noMapping (fault : MappingFault)
  deriving DecidableEq, Repr

namespace Failure

/-- The sentence that tells a failure, with the number of its issues. -/
def message : Failure → String
  | .tableMismatch table candidates =>
      "Table '" ++ table.shown ++ "' " ++
        if candidates.isEmpty then "matches no entity in the schema"
        else "matches several entities [" ++ ", ".intercalate (candidates.map Text.quoted) ++ "]"
  | .unknownEntity identity => "Entity not found: '" ++ identity.shown ++ "'"
  | .noCalculation => "An aggregation was used but no calculations were given"
  | .invalid model issues => issueSummary model issues.length
  | .invalidQuery issues =>
      "Invalid query descriptor: " ++ issueSummary .query issues.length
  | .noMapping fault => fault.message

/-- The issues behind a failure, if it comes from a check. -/
def issues : Failure → List Issue
  | .invalid _ issues => issues
  | .invalidQuery issues => issues
  | _ => []

end Failure

namespace Checked

variable {α : Type}

/-- The outcome of checking a value as a record of the given kind. -/
def orInvalid (model : Model) : Checked α → Except Failure α
  | .ok value => .ok value
  | .failed issues => .error (.invalid model issues)

end Checked

end SelectClause

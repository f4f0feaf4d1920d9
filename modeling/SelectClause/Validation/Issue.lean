import SelectClause.Text.Decimal
import SelectClause.Value.Mapping

/-! # What is wrong with a value, and where

An issue is a fault together with the path from the validated value down to the faulty place. A
fault is a cause; `Fault.code` is the short word by which programs tell faults apart and
`Fault.message` the sentence for readers.
-/

namespace SelectClause

/-- One step down into a value. -/
inductive Step where
  | key (name : String)
  | index (position : Int)
  deriving DecidableEq, Repr

/-- The steps from a value down to a place in it, outermost first. -/
abbrev Path := List Step

/-- The step down to the value of a key: a whole number that is a word is a position, and any
other key that is no text is named by its text. -/
def Step.ofKey : Value → Step
  | .text name => .key name
  | .bool truth => .index truth.toInt
  | .int number => if Value.isWord number then .index number else .key (toString number)
  | .decimal negative digits places => .key (Text.decimal negative digits places)
  | _ => .key "None"

/-- The kinds of record that values are read as. -/
inductive Model where
  | options
  | attributeDefinition
  | entityDefinition
  | catalog
  | fetchPlan
  | population
  | join
  | query
  deriving DecidableEq, Repr

/-- The name by which messages call a kind of record. -/
def Model.title : Model → String
  | .options => "CompilerOptions"
  | .attributeDefinition => "AttributeDefinition"
  | .entityDefinition => "EntityDefinition"
  | .catalog => "Schema"
  | .fetchPlan => "FetchPlan"
  | .population => "Population"
  | .join => "JoinInstruction"
  | .query => "QueryDescriptor"

/-- The ways in which a value can fail to be what is expected at its place. -/
inductive Fault where
  | fieldMissing
  | notText
  /-- The value is of no kind that could stand for a truth value. -/
  | notTruth
  /-- The text or number is none of those that stand for a truth value. -/
  | unreadableTruth
  | notDictionary
  | notSequence
  | notRecord (model : Model)
  /-- The sequence has more items than a pair. -/
  | pairTooLong (length : Nat)
  | notStrategy
  | numberTooLarge
  | escapeLength
  /-- The definition of an entity is no mapping. -/
  | definitionMalformed (fault : MappingFault)
  | keyNotText
  deriving DecidableEq, Repr

namespace Fault

/-- The word by which programs tell faults apart. -/
def code : Fault → String
  | .fieldMissing => "missing"
  | .notText => "string_type"
  | .notTruth => "bool_type"
  | .unreadableTruth => "bool_parsing"
  | .notDictionary => "dict_type"
  | .notSequence => "tuple_type"
  | .notRecord _ => "model_type"
  | .pairTooLong _ => "too_long"
  | .notStrategy => "enum"
  | .numberTooLarge => "int_parsing_size"
  | .escapeLength => "value_error"
  | .definitionMalformed _ => "value_error"
  | .keyNotText => "invalid_key"

/-- The sentence for readers that tells a fault. -/
def message : Fault → String
  | .fieldMissing => "Field required"
  | .notText => "Input should be a valid string"
  | .notTruth => "Input should be a valid boolean"
  | .unreadableTruth => "Input should be a valid boolean, unable to interpret input"
  | .notDictionary => "Input should be a valid dictionary"
  | .notSequence => "Input should be a valid tuple"
  | .notRecord model => "Input should be a valid dictionary or instance of " ++ model.title
  | .pairTooLong length =>
      s!"Tuple should have at most 2 items after validation, not {length}"
  | .notStrategy => "Input should be 1, 2 or 3"
  | .numberTooLarge =>
      "Unable to parse input string as an integer, exceeded maximum size"
  | .escapeLength => "Value error, escape_character must be a single character"
  | .definitionMalformed fault => "Value error, " ++ fault.message
  | .keyNotText => "Keys should be strings"

end Fault

/-- A fault and the place where it was found. -/
structure Issue where
  /-- The way from the validated value to the faulty place. -/
  path : Path
  fault : Fault
  deriving DecidableEq, Repr

/-- The same issue, seen from one step further out. -/
def Issue.under (step : Step) (issue : Issue) : Issue := { issue with path := step :: issue.path }

/-- How many issues the validation of a kind of record found. -/
def issueSummary (model : Model) (count : Nat) : String :=
  let noun := if count = 1 then "error" else "errors"
  s!"{count} validation {noun} for " ++ model.title

end SelectClause

import SelectClause.Dict

/-! # Dynamic values

Schemas, queries, options and rows arrive as values of any shape: the absent value, truth values,
numbers, texts, lists and records. The validation modules read the domain's types from them.
-/

namespace SelectClause

/-- A value as a caller hands it over. -/
inductive Value where
  | null
  | bool (truth : Bool)
  | int (number : Int)
  /-- A number written with a fractional part: its sign, its digits and how many of them follow
  the point. -/
  | decimal (negative : Bool) (digits places : Nat)
  | text (content : String)
  | list (items : List Value)
  /-- A record's fields, in the order in which they were written. -/
  | record (fields : List (String × Value))
  deriving Inhabited, Repr

namespace Value

/-- The record with the fields of a dictionary. -/
def ofDict (fields : Dict Value) : Value := .record fields.toList

/-- The fields of a record. -/
def fields? : Value → Option (Dict Value)
  | .record fields => some (Dict.ofList fields)
  | _ => none

@[simp] theorem fields?_ofDict (fields : Dict Value) : (ofDict fields).fields? = some fields := by
  simp [ofDict, fields?]

/-- Whether a value is the absent one. -/
def isNull : Value → Bool
  | .null => true
  | _ => false

/-- Whether a number is a signed word of 64 bits. -/
def isWord (number : Int) : Bool :=
  -0x8000000000000000 ≤ number && number ≤ 0x7FFFFFFFFFFFFFFF

/-- The whole number that a number stands for. One with a fractional part stands for a whole
number if the fraction is zero and the number is a word. -/
def wholeNumber? : Value → Option Int
  | .int number => some number
  | .decimal negative digits places =>
      let unit := Nat.pow 10 places
      let whole : Int := if negative then -(digits / unit : Nat) else (digits / unit : Nat)
      if digits % unit = 0 ∧ isWord whole then some whole else none
  | _ => none

/-- Whether a value counts as nothing given: the absent value, false, zero, and the empty text,
list and record. -/
def isVoid : Value → Bool
  | .null => true
  | .bool truth => !truth
  | .int number => number == 0
  | .decimal _ digits _ => digits == 0
  | .text content => content.isEmpty
  | .list items => items.isEmpty
  | .record fields => fields.isEmpty

end Value

end SelectClause

import SelectClause.Text.Numeral
import SelectClause.Validation.Field

/-! # Join strategies

The strategy of a join says where the key stands that relates parent and child. It is written as
a number from one to three, which may come as a numeral.

`ofNumber?_number` says that the number of a strategy stands for it.
-/

namespace SelectClause

/-- Where the key of a join stands. -/
inductive Strategy where
  /-- The parent has the key of the child. -/
  | hasForeignKey
  /-- The child has the key of the parent. -/
  | viaForeignKey
  /-- A table between the two has both keys. -/
  | viaJunction
  deriving DecidableEq, Repr

namespace Strategy

/-- The number that a strategy is written as. -/
def number : Strategy → Nat
  | .hasForeignKey => 1
  | .viaForeignKey => 2
  | .viaJunction => 3

/-- The name by which records call a strategy. -/
def name : Strategy → String
  | .hasForeignKey => "HAS_FK"
  | .viaForeignKey => "VIA_FK"
  | .viaJunction => "VIA_JUNCTOR"

/-- The strategy that a number stands for. -/
def ofNumber? : Int → Option Strategy
  | 1 => some .hasForeignKey
  | 2 => some .viaForeignKey
  | 3 => some .viaJunction
  | _ => none

/-- The whole number that a number, a truth value or a numeral stands for. -/
def numberOf? : Value → Option Int
  | .bool truth => some truth.toInt
  | .text content => Text.readNumeral content.toList
  | value => value.wholeNumber?

/-- The field for the strategy, in a join and in the record that may wrap it. -/
def field : FieldName := ⟨"strategy", "strategy"⟩

/-- The strategy inside a record around it, or else the value itself. -/
def unwrapped (value : Value) : Value :=
  match value.fields? with
  | some fields => (fields.get? field.plain).getD .null
  | none => value

/-- The strategy of a whole number. One that does not fit a machine word is blamed for its size. -/
def ofWholeNumber (number : Int) : Checked Strategy :=
  match ofNumber? number with
  | some strategy => .ok strategy
  | none => .fault (if Value.isWord number then .notStrategy else .numberTooLarge)

/-- Reads a strategy, which may be wrapped once in a record. -/
def check (value : Value) : Checked Strategy :=
  match numberOf? (unwrapped value) with
  | some number => ofWholeNumber number
  | none => .fault .notStrategy

/-- The number of a strategy stands for it. -/
theorem ofNumber?_number (strategy : Strategy) : ofNumber? strategy.number = some strategy := by
  cases strategy <;> rfl

end Strategy

end SelectClause

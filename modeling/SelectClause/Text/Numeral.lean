import SelectClause.Text.Blank

/-! # Numerals

A numeral is a sign that may be left out and a row of decimal digits, which are those of ASCII.
Blanks may stand around it, and a point with nothing but zeros behind it. Single underscores may
stand between digits, and any number of them among the zeros at its start. The minus sign may
also stand behind these zeros. Numerals with more than `numeralLimit` digits behind the zeros are
not read.

`readNumeral_trimmed` says that blanks around a numeral do not matter.
-/

namespace SelectClause.Text

/-- The number of digits that a numeral may have behind the zeros at its start. -/
def numeralLimit : Nat := 4300

/-- The value of a row of decimal digits. -/
def digitsValue (digits : List Char) : Nat :=
  digits.foldl (fun value digit => value * 10 + (digit.toNat - '0'.toNat)) 0

/-- Whether a text is empty, or a point and at least one zero. -/
def isZeroFraction : List Char → Bool
  | [] => true
  | '.' :: zeros => zeros ≠ [] && zeros.all (· == '0')
  | _ => false

/-- Whether a minus sign starts a text, and the text without it. -/
def splitMinus : List Char → Bool × List Char
  | '-' :: rest => (true, rest)
  | text => (false, text)

/-- Whether a minus sign starts a text, and the text without a sign at its start. -/
def splitSign : List Char → Bool × List Char
  | '+' :: rest => (false, rest)
  | text => splitMinus text

/-- A row of digits without the zeros at its start, nor the underscores among them. -/
def withoutZeros : List Char → List Char
  | '0' :: rest => rest.dropWhile fun char => char == '0' || char == '_'
  | text => text

/-- Whether every underscore stands between two other characters. -/
def isGrouped (text : List Char) : Bool :=
  text.head? != some '_' && text.getLast? != some '_' &&
    (text.zip (text.drop 1)).all fun pair => pair.1 != '_' || pair.2 != '_'

/-- Whether a minus sign stands behind the zeros at the start of a row, and the digits behind the
two. The row starts with a digit. -/
def readRow (row : List Char) : Option (Bool × List Char) :=
  let grouped := withoutZeros row
  let (negative, digits) := splitMinus (grouped.filter (· != '_'))
  let isNumber := digits.all Char.isDigit && digits.head? != some '0' &&
    !(negative && digits.isEmpty)
  if row.head?.any Char.isDigit && isGrouped grouped && isNumber then some (negative, digits)
  else none

/-- The whole number that a text is the numeral of. -/
def readNumeral (text : List Char) : Option Int := do
  let (negative, unsigned) := splitSign (trimmed text)
  let (negativeBehind, digits) ← readRow (unsigned.takeWhile (· != '.'))
  let isWhole := isZeroFraction (unsigned.dropWhile (· != '.'))
  if isWhole ∧ digits.length ≤ numeralLimit ∧ ¬ (negative ∧ negativeBehind) then
    some (if negative || negativeBehind then -(digitsValue digits : Int) else digitsValue digits)
  else none

/-- Blanks around a numeral do not matter. -/
theorem readNumeral_trimmed (text : List Char) : readNumeral (trimmed text) = readNumeral text := by
  rw [readNumeral, trimmed_trimmed, readNumeral]

end SelectClause.Text

import SelectClause.Text.Invisible

/-! # Quoted text

Messages show a name between quotes, on one line and with every character visible. Single quotes
are used unless the name holds a single quote and no double one. The backslash, the quote in use
and the invisible characters are escaped.

`quoted_of_plain` says that a name in which nothing needs escaping is shown as it stands.
-/

namespace SelectClause.Text

/-- A number in lower-case hexadecimal digits, filled up with zeros to a width. -/
def hexadecimal (width number : Nat) : List Char :=
  let digits := Nat.toDigits 16 number
  List.replicate (width - digits.length) '0' ++ digits

/-- The escape of a character by its code point, in the shortest of the three widths. -/
def codePointEscape (char : Char) : List Char :=
  if char.toNat < 0x100 then '\\' :: 'x' :: hexadecimal 2 char.toNat
  else if char.toNat < 0x10000 then '\\' :: 'u' :: hexadecimal 4 char.toNat
  else '\\' :: 'U' :: hexadecimal 8 char.toNat

/-- How a character is written between the given quotes. -/
def quotedChar (quote char : Char) : List Char :=
  if char = '\\' ∨ char = quote then ['\\', char]
  else if char = '\n' then ['\\', 'n']
  else if char = '\r' then ['\\', 'r']
  else if char = '\t' then ['\\', 't']
  else if isInvisible char then codePointEscape char
  else [char]

/-- The quote that a text is shown between. -/
def quoteFor (text : List Char) : Char :=
  if text.contains '\'' && !text.contains '"' then '"' else '\''

/-- A text as messages show it. -/
def quoted (text : String) : String :=
  let quote := quoteFor text.toList
  String.ofList (quote :: text.toList.flatMap (quotedChar quote) ++ [quote])

/-- A text as messages show it; an absent one has a word of its own. -/
def quotedOrNone : Option String → String
  | some text => quoted text
  | none => "None"

/-- A text in which nothing needs escaping is shown as it stands. -/
theorem quoted_of_plain {text : String}
    (plain : ∀ char ∈ text.toList, char ≠ '\\' ∧ char ≠ '\'' ∧ isInvisible char = false) :
    quoted text = "'" ++ text ++ "'" := by
  have noQuote : quoteFor text.toList = '\'' := by
    have absent : ¬ '\'' ∈ text.toList := fun member => (plain _ member).2.1 rfl
    simp [quoteFor, absent]
  have copied : ∀ chars : List Char,
      (∀ char ∈ chars, char ≠ '\\' ∧ char ≠ '\'' ∧ isInvisible char = false) →
        chars.flatMap (quotedChar '\'') = chars := by
    intro chars shown
    induction chars with
    | nil => rfl
    | cons char rest ih =>
      obtain ⟨noBackslash, noSingle, visible⟩ := shown char (by simp)
      have noLine : char ≠ '\n' := by rintro rfl; revert visible; decide
      have noReturn : char ≠ '\r' := by rintro rfl; revert visible; decide
      have noTab : char ≠ '\t' := by rintro rfl; revert visible; decide
      rw [List.flatMap_cons, ih fun other member => shown other (by simp [member])]
      simp [quotedChar, noBackslash, noSingle, noLine, noReturn, noTab, visible]
  rw [quoted, noQuote, copied _ plain]
  apply String.toList_injective
  simp

end SelectClause.Text

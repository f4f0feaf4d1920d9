import SelectClause.Text.Ranges

/-! # Blanks around a text

The blanks are the characters with the Unicode property of white space. `trimmed` drops them from
both ends of a text.
-/

namespace SelectClause.Text

/-- The code points with the property of white space. -/
def blankRanges : List (Nat × Nat) := [
  (0x0009, 0x000D), (0x0020, 0x0020), (0x0085, 0x0085), (0x00A0, 0x00A0), (0x1680, 0x1680),
  (0x2000, 0x200A), (0x2028, 0x2029), (0x202F, 0x202F), (0x205F, 0x205F), (0x3000, 0x3000)]

/-- A character with the property of white space. -/
def isBlank (char : Char) : Bool := inRanges char.toNat blankRanges

/-- A text without the blanks at its ends. -/
def trimmed (text : List Char) : List Char :=
  ((text.dropWhile isBlank).reverse.dropWhile isBlank).reverse

/-- Dropping blanks leaves no blank at the start. -/
theorem dropWhile_isBlank_idem (text : List Char) :
    (text.dropWhile isBlank).dropWhile isBlank = text.dropWhile isBlank := by
  induction text with
  | nil => rfl
  | cons char rest ih =>
    by_cases blank : isBlank char = true
    · simpa [blank] using ih
    · simp [blank]

/-- A trimmed text does not start with a blank. -/
theorem dropWhile_isBlank_trimmed (text : List Char) :
    (trimmed text).dropWhile isBlank = trimmed text := by
  have start : trimmed text <+: text.dropWhile isBlank := by
    rw [trimmed, ← List.reverse_suffix, List.reverse_reverse]
    exact List.dropWhile_suffix isBlank
  cases kept : trimmed text with
  | nil => rfl
  | cons char rest =>
    obtain ⟨removed, whole⟩ := kept ▸ start
    have visible : isBlank char = false := by
      have first := List.head?_dropWhile_not isBlank text
      rw [← whole] at first
      simpa using first
    simp [visible]

/-- Nothing is left to trim of a trimmed text. -/
theorem trimmed_trimmed (text : List Char) : trimmed (trimmed text) = trimmed text := by
  rw [trimmed.eq_def (trimmed text), dropWhile_isBlank_trimmed, trimmed, List.reverse_reverse,
    dropWhile_isBlank_idem]

/-- White space within the narrower class of the standard library is white space here. -/
theorem isBlank_of_isWhitespace {char : Char} (white : char.isWhitespace = true) :
    isBlank char = true := by
  simp only [Char.isWhitespace, Bool.or_eq_true, decide_eq_true_eq] at white
  rcases white with ((rfl | rfl) | rfl) | rfl <;> decide

end SelectClause.Text

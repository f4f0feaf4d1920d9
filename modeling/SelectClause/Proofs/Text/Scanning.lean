import SelectClause.Text.Delimited
import Mathlib.Data.List.Basic

/-! # Scanning delimited names

A reader takes a value off the front of a text and hands back the text that is left. The scanner
of delimited names skips the opening delimiter, reads a doubled delimiter as a single one and stops
at the first delimiter that is not doubled. It reads back every name that was written between
delimiters, provided that the delimiter is not the next character of the text
(`scanDelimited_enclosed`), and every text without delimiters that was put between two of them as it
stands (`scanDelimited_of_not_mem`).
-/

namespace SelectClause.Text

/-- A reader takes a value off the front of a text and hands back what is left. -/
abbrev Reader (α : Type) := List Char → Option (α × List Char)

/-- Reads up to the first delimiter that is not doubled. -/
def scanContent (delimiter : Char) : Reader (List Char)
  | [] => none
  | [char] => if char = delimiter then some ([], []) else none
  | char :: next :: rest =>
      if char = delimiter then
        if next = delimiter then
          (scanContent delimiter rest).map fun read => (delimiter :: read.1, read.2)
        else some ([], next :: rest)
      else (scanContent delimiter (next :: rest)).map fun read => (char :: read.1, read.2)

/-- Reads a delimited name, which starts at the delimiter. -/
def scanDelimited (delimiter : Char) : Reader (List Char)
  | [] => none
  | char :: rest => if char = delimiter then scanContent delimiter rest else none

variable {delimiter char : Char} {content name rest : List Char}

theorem scanContent_delimiter (ends : rest.head? ≠ some delimiter) :
    scanContent delimiter (delimiter :: rest) = some ([], rest) := by
  cases rest with
  | nil => simp [scanContent]
  | cons next rest =>
    have different : next ≠ delimiter := fun same => ends (by rw [same, List.head?_cons])
    simp [scanContent, different]

theorem scanContent_pair :
    scanContent delimiter (delimiter :: delimiter :: rest) =
      (scanContent delimiter rest).map fun read => (delimiter :: read.1, read.2) := by
  simp [scanContent]

theorem scanContent_cons (different : char ≠ delimiter) :
    scanContent delimiter (char :: rest) =
      (scanContent delimiter rest).map fun read => (char :: read.1, read.2) := by
  cases rest <;> simp [scanContent, different]

/-- A text that does not start with the delimiter is no delimited name. -/
theorem scanDelimited_eq_none (starts : rest.head? ≠ some delimiter) :
    scanDelimited delimiter rest = none := by
  cases rest with
  | nil => rfl
  | cons next rest =>
    have different : next ≠ delimiter := fun same => starts (by rw [same, List.head?_cons])
    rw [scanDelimited, if_neg different]

/-- One delimiter character is doubled, any other is copied. -/
theorem doubled_singleton_cons (delimiter char : Char) (rest : List Char) :
    doubled [delimiter] (char :: rest) =
      if char = delimiter then delimiter :: delimiter :: doubled [delimiter] rest
      else char :: doubled [delimiter] rest := by
  by_cases same : char = delimiter
  · subst same
    simpa using doubled_append (List.cons_ne_nil char []) rest
  · have elsewhere : ¬ [delimiter] <+: char :: rest := by
      simpa [List.cons_prefix_cons] using fun equal => same equal.symm
    rw [if_neg same, doubled_cons elsewhere]

/-- Without delimiters nothing is doubled. -/
theorem doubled_of_not_mem (absent : delimiter ∉ content) :
    doubled [delimiter] content = content := by
  induction content with
  | nil => rfl
  | cons char content ih =>
    rw [List.mem_cons, not_or] at absent
    rw [doubled_singleton_cons, if_neg (Ne.symm absent.1), ih absent.2]

/-- Reading undoes doubling, up to a delimiter that another character follows. -/
theorem scanContent_doubled (name : List Char) (ends : rest.head? ≠ some delimiter) :
    scanContent delimiter (doubled [delimiter] name ++ delimiter :: rest) = some (name, rest) := by
  induction name with
  | nil => exact scanContent_delimiter ends
  | cons char name ih =>
    rw [doubled_singleton_cons]
    by_cases same : char = delimiter
    · rw [if_pos same, List.cons_append, List.cons_append, scanContent_pair, ih, same]
      rfl
    · rw [if_neg same, List.cons_append, scanContent_cons same, ih]
      rfl

/-- A delimited name is read back, whatever follows it that is not another delimiter. -/
theorem scanDelimited_enclosed (name : List Char) (ends : rest.head? ≠ some delimiter) :
    scanDelimited delimiter (enclosed [delimiter] name ++ rest) = some (name, rest) := by
  rw [enclosed, List.append_assoc, List.append_assoc, List.singleton_append, scanDelimited,
    if_pos rfl, List.singleton_append, scanContent_doubled name ends]

/-- A text without delimiters is read back from between two of them. -/
theorem scanDelimited_of_not_mem (absent : delimiter ∉ content)
    (ends : rest.head? ≠ some delimiter) :
    scanDelimited delimiter (delimiter :: (content ++ delimiter :: rest)) =
      some (content, rest) := by
  have scanned := scanContent_doubled content ends
  rw [doubled_of_not_mem absent] at scanned
  rw [scanDelimited, if_pos rfl, scanned]

end SelectClause.Text

/-! # Delimited names

A name in a statement stands between two delimiters, and a delimiter inside the name is written
twice, so that it cannot end the name. The delimiter is any text: occurrences are taken from left
to right and do not overlap, and the empty delimiter occurs nowhere.

`doubled_append` is the rule at an occurrence, `doubled_cons` the rule everywhere else.
-/

namespace SelectClause.Text

/-- A text with every occurrence of the delimiter written twice, while `pending` characters of
the occurrence that was met last are still to be copied. -/
def doubledWithin (delimiter : List Char) : Nat → List Char → List Char
  | _, [] => []
  | pending + 1, char :: rest => char :: doubledWithin delimiter pending rest
  | 0, char :: rest =>
      if delimiter.isPrefixOf (char :: rest) then
        delimiter ++ char :: doubledWithin delimiter (delimiter.length - 1) rest
      else char :: doubledWithin delimiter 0 rest

/-- A text with every occurrence of the delimiter written twice. -/
def doubled (delimiter text : List Char) : List Char := doubledWithin delimiter 0 text

/-- A text with its delimiters doubled, between two delimiters. -/
def enclosed (delimiter text : List Char) : List Char :=
  delimiter ++ doubled delimiter text ++ delimiter

/-- What is left of an occurrence is copied as it stands. -/
theorem doubledWithin_append (delimiter copied rest : List Char) :
    doubledWithin delimiter copied.length (copied ++ rest) = copied ++ doubled delimiter rest := by
  induction copied with
  | nil => rfl
  | cons char copied ih =>
    rw [List.length_cons, List.cons_append, doubledWithin, ih, List.cons_append]

@[simp] theorem doubled_nil (delimiter : List Char) : doubled delimiter [] = [] := rfl

/-- A delimiter at the start is written twice. -/
theorem doubled_append {delimiter : List Char} (nonempty : delimiter ≠ []) (rest : List Char) :
    doubled delimiter (delimiter ++ rest) = delimiter ++ (delimiter ++ doubled delimiter rest) := by
  cases delimiter with
  | nil => contradiction
  | cons char tail =>
    have starts : (char :: tail).isPrefixOf (char :: (tail ++ rest)) = true := by
      simp
    rw [List.cons_append, doubled, doubledWithin, if_pos starts, List.length_cons,
      Nat.add_sub_cancel, doubledWithin_append]
    rfl

/-- Where no delimiter starts, one character is copied. -/
theorem doubled_cons {delimiter : List Char} {char : Char} {rest : List Char}
    (elsewhere : ¬ delimiter <+: char :: rest) :
    doubled delimiter (char :: rest) = char :: doubled delimiter rest := by
  have noStart : ¬ delimiter.isPrefixOf (char :: rest) = true := by
    rwa [List.isPrefixOf_iff_prefix]
  rw [doubled, doubledWithin, if_neg noStart, doubled]

/-- A name between two delimiters, with the delimiters inside it doubled. An absent name is
written as the empty one. -/
def delimited (delimiter : String) (name : Option String) : String :=
  String.ofList (enclosed delimiter.toList (name.getD "").toList)

end SelectClause.Text

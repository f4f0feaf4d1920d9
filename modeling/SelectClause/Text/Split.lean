/-! # Splitting a text at a separator

A text is split at the first place where the separator occurs; the separator itself belongs to
neither part.

`splitAtFirst_sound` says that nothing is lost.
-/

namespace SelectClause.Text

/-- The parts of a text before and after the first occurrence of a separator, if it occurs. -/
def splitAtFirst (separator : List Char) : List Char → Option (List Char × List Char)
  | [] => if separator.isEmpty then some ([], []) else none
  | char :: rest =>
      if separator.isPrefixOf (char :: rest) then
        some ([], (char :: rest).drop separator.length)
      else (splitAtFirst separator rest).map fun parts => (char :: parts.1, parts.2)

/-- The parts and the separator between them make up the text. -/
theorem splitAtFirst_sound {separator text before after : List Char}
    (found : splitAtFirst separator text = some (before, after)) :
    text = before ++ (separator ++ after) := by
  induction text generalizing before with
  | nil =>
    cases separator with
    | nil => simp_all [splitAtFirst]
    | cons char rest => simp [splitAtFirst] at found
  | cons char rest ih =>
    rw [splitAtFirst] at found
    split at found
    · rename_i starts
      rw [List.isPrefixOf_iff_prefix, List.prefix_iff_eq_append] at starts
      obtain ⟨rfl, rfl⟩ : [] = before ∧ (char :: rest).drop separator.length = after := by
        simpa using found
      exact starts.symm
    · obtain ⟨parts, inside, same⟩ := Option.map_eq_some_iff.1 found
      obtain ⟨rfl, rfl⟩ : char :: parts.1 = before ∧ parts.2 = after := by simpa using same
      rw [ih inside, List.cons_append]

end SelectClause.Text

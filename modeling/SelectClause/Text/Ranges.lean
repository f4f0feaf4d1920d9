/-! # Ranges of code points

A class of characters is given by ranges of code points, both ends included and in ascending
order, so that a search can stop at the first range that starts behind the code point.

`inRanges_iff` says that the search finds the range of a code point if there is one.
-/

namespace SelectClause.Text

/-- Whether a code point lies in one of the ranges, which are in ascending order. -/
def inRanges (code : Nat) : List (Nat × Nat) → Bool
  | [] => false
  | (first, last) :: rest => first ≤ code && (code ≤ last || inRanges code rest)

/-- Whether each range starts behind the start of the one before it. -/
def ascending : List (Nat × Nat) → Bool
  | range :: next :: rest => range.1 < next.1 && ascending (next :: rest)
  | _ => true

/-- In ascending ranges each starts behind the starts of all before it. -/
theorem pairwise_of_ascending {ranges : List (Nat × Nat)} (ordered : ascending ranges = true) :
    ranges.Pairwise fun earlier later => earlier.1 < later.1 := by
  induction ranges with
  | nil => exact .nil
  | cons range rest ih =>
    cases rest with
    | nil => simp
    | cons next rest =>
      simp only [ascending, Bool.and_eq_true, decide_eq_true_eq] at ordered
      have later := ih ordered.2
      refine List.pairwise_cons.2 ⟨fun other member => ?_, later⟩
      rcases List.mem_cons.1 member with rfl | behind
      · exact ordered.1
      · exact Nat.lt_trans ordered.1 ((List.pairwise_cons.1 later).1 other behind)

/-- The search through ascending ranges finds the range of a code point if there is one. -/
theorem inRanges_iff {code : Nat} {ranges : List (Nat × Nat)} (ordered : ascending ranges = true) :
    inRanges code ranges = true ↔ ∃ range ∈ ranges, range.1 ≤ code ∧ code ≤ range.2 := by
  replace ordered := pairwise_of_ascending ordered
  induction ranges with
  | nil => simp [inRanges]
  | cons range rest ih =>
    obtain ⟨first, last⟩ := range
    obtain ⟨before, later⟩ := List.pairwise_cons.1 ordered
    simp only [inRanges, Bool.and_eq_true, Bool.or_eq_true, decide_eq_true_eq, ih later,
      List.mem_cons, or_and_right, exists_or, exists_eq_left]
    constructor
    · rintro ⟨starts, within | found⟩
      · exact .inl ⟨starts, within⟩
      · exact .inr found
    · rintro (⟨starts, within⟩ | ⟨range, member, starts, within⟩)
      · exact ⟨starts, .inl within⟩
      · exact ⟨Nat.le_of_lt (Nat.lt_of_lt_of_le (before range member) starts),
          .inr ⟨range, member, starts, within⟩⟩

end SelectClause.Text

import Mathlib.Data.List.Basic
import SelectClause.Proofs.Text.Occurrence
import SelectClause.Text.Delimited

/-! # Undoing the doubling of delimiters

A delimiter of several characters may overlap itself, and doubling it makes new occurrences across
the old ones. The first one, though, stays where it is (`FirstSplit.doubled`): an earlier occurrence
would end before the second copy and so stand in the text itself. Hence a decoder that looks for the
first delimiter, drops its copy and goes on behind the two undoes doubling and accepts nothing else
(`undoubled?_eq_some_iff`), and no two names are written alike (`delimited_injective`).
-/

namespace SelectClause.Text

variable {delimiter text name before after : List Char}

/-- What follows a delimiter is shorter than the text. -/
theorem FirstSplit.length_lt (nonempty : delimiter ≠ [])
    (split : FirstSplit delimiter text before after) : after.length < text.length := by
  have positive := List.length_pos_iff.2 nonempty
  rw [split.whole, List.length_append, List.length_append]
  omega

/-- Undoes doubling, from the first delimiter on. A delimiter without a copy behind it is refused;
the empty delimiter occurs nowhere. -/
def undoubled? (delimiter text : List Char) : Option (List Char) :=
  if _ : delimiter = [] then some text
  else
    match _ : splitAtFirst delimiter text with
    | none => some text
    | some (before, after) =>
        if delimiter <+: after then
          (undoubled? delimiter (after.drop delimiter.length)).map
            fun rest => before ++ (delimiter ++ rest)
        else none
termination_by text.length
decreasing_by
  rename_i nonempty found _
  have shorter := (splitAtFirst_eq_some_iff.1 found).length_lt nonempty
  rw [List.length_drop]
  omega

/-- Takes the delimiters off both ends and undoes the doubling between them. -/
def unenclosed? (delimiter text : List Char) : Option (List Char) := do
  let rest ← text.dropPrefix? delimiter
  let content ← rest.dropSuffix? delimiter
  undoubled? delimiter content

/-- The name that a text holds between two delimiters. -/
def undelimited? (delimiter text : String) : Option String :=
  (unenclosed? delimiter.toList text.toList).map String.ofList

/-- The empty delimiter is doubled nowhere. -/
theorem doubled_empty (text : List Char) : doubled [] text = text := by
  induction text with
  | nil => rfl
  | cons char text ih =>
    show char :: doubled [] text = char :: text
    rw [ih]

/-- A text without delimiters stays as it is. -/
theorem doubled_of_absent (absent : ∀ index, ¬ OccursAt delimiter text index) :
    doubled delimiter text = text := by
  induction text with
  | nil => rfl
  | cons char text ih =>
    rw [doubled_cons (absent 0), ih fun index => absent (index + 1)]

/-- Up to the first delimiter a text is copied, and the delimiter is written twice. -/
theorem FirstSplit.doubled_eq (nonempty : delimiter ≠ [])
    (split : FirstSplit delimiter text before after) :
    doubled delimiter text = before ++ (delimiter ++ (delimiter ++ doubled delimiter after)) := by
  rw [split.whole]
  obtain ⟨-, first⟩ := split.with_after after
  clear split
  induction before with
  | nil => exact doubled_append nonempty after
  | cons char before ih =>
    have elsewhere : ¬ delimiter <+: char :: (before ++ (delimiter ++ after)) :=
      first 0 (Nat.zero_lt_succ _)
    rw [List.cons_append, doubled_cons elsewhere,
      ih fun index below => first (index + 1) (Nat.succ_lt_succ below), List.cons_append]

/-- The first delimiter of a text is also the first one after doubling. -/
theorem FirstSplit.doubled (nonempty : delimiter ≠ [])
    (split : FirstSplit delimiter text before after) :
    FirstSplit delimiter (doubled delimiter text) before
      (delimiter ++ Text.doubled delimiter after) := by
  rw [split.doubled_eq nonempty]
  exact split.with_after _

/-- A text without delimiters stands for itself. -/
theorem undoubled?_of_absent (absent : ∀ index, ¬ OccursAt delimiter text index) :
    undoubled? delimiter text = some text := by
  rw [undoubled?]
  split
  · rfl
  · split
    · rfl
    · rename_i found
      rw [splitAtFirst_eq_none_iff.2 absent] at found
      cases found

/-- The first delimiter is read as one, together with its copy. -/
theorem undoubled?_of_first (nonempty : delimiter ≠ []) {rest : List Char}
    (split : FirstSplit delimiter text before (delimiter ++ rest)) :
    undoubled? delimiter text =
      (undoubled? delimiter rest).map fun rest => before ++ (delimiter ++ rest) := by
  have first := splitAtFirst_eq_some_iff.2 split
  rw [undoubled?, dif_neg nonempty]
  split
  · rename_i found
    rw [first] at found
    cases found
  · rename_i found
    rw [first] at found
    cases found
    rw [if_pos (List.prefix_append _ _), List.drop_left]

/-- What was doubled is read back. -/
theorem undoubled?_doubled (delimiter name : List Char) :
    undoubled? delimiter (doubled delimiter name) = some name := by
  by_cases nonempty : delimiter = []
  · rw [nonempty, doubled_empty, undoubled?, dif_pos rfl]
  -- By induction on the length, since what is left behind the first delimiter is shorter.
  induction length : name.length using Nat.strongRecOn generalizing name with
  | ind bound ih =>
    cases found : splitAtFirst delimiter name with
    | none =>
      have absent := splitAtFirst_eq_none_iff.1 found
      rw [doubled_of_absent absent, undoubled?_of_absent absent]
    | some parts =>
      obtain ⟨before, after⟩ := parts
      have split := splitAtFirst_eq_some_iff.1 found
      have shorter : after.length < bound := length ▸ split.length_lt nonempty
      rw [undoubled?_of_first nonempty (split.doubled nonempty), ih _ shorter after rfl,
        Option.map_some, split.whole]

/-- Nothing is read back but what was doubled. -/
theorem eq_doubled_of_undoubled? (read : undoubled? delimiter text = some name) :
    text = doubled delimiter name := by
  induction text using undoubled?.induct delimiter generalizing name with
  | case1 text empty =>
    rw [undoubled?, dif_pos empty] at read
    cases read
    rw [empty, doubled_empty]
  | case2 text nonempty found =>
    have absent := splitAtFirst_eq_none_iff.1 found
    rw [undoubled?_of_absent absent] at read
    cases read
    exact (doubled_of_absent absent).symm
  | case3 text nonempty before after found again ih =>
    obtain ⟨rest, rfl⟩ := again
    have split := splitAtFirst_eq_some_iff.1 found
    rw [undoubled?_of_first nonempty split] at read
    obtain ⟨content, inside, rfl⟩ := Option.map_eq_some_iff.1 read
    rw [List.drop_left] at ih
    rw [(split.with_after content).doubled_eq nonempty, ← ih inside, ← split.whole]
  | case4 text nonempty before after found alone =>
    rw [undoubled?, dif_neg nonempty] at read
    split at read
    · cases read
      simp_all
    · simp_all

/-- A text is read back just if it is one with its delimiters doubled. -/
theorem undoubled?_eq_some_iff :
    undoubled? delimiter text = some name ↔ text = doubled delimiter name := by
  constructor
  · exact eq_doubled_of_undoubled?
  · rintro rfl
    exact undoubled?_doubled delimiter name

/-- What stands between two delimiters is read back just if it was put there. -/
theorem unenclosed?_eq_some_iff :
    unenclosed? delimiter text = some name ↔ text = enclosed delimiter name := by
  simp only [unenclosed?, Option.bind_eq_bind, Option.bind_eq_some_iff,
    List.dropPrefix?_eq_some_iff, List.dropSuffix?_eq_some_iff, beq_iff_eq,
    undoubled?_eq_some_iff, enclosed]
  constructor
  · rintro ⟨_, ⟨_, rfl, rfl⟩, _, ⟨_, rfl, rfl⟩, rfl⟩
    rw [List.append_assoc]
  · rintro rfl
    exact ⟨_, ⟨_, List.append_assoc _ _ _, rfl⟩, _, ⟨_, rfl, rfl⟩, rfl⟩

/-- What a text holds between two delimiters is read just if the text is how the name is written. -/
theorem undelimited?_eq_some_iff {delimiter name text : String} :
    undelimited? delimiter text = some name ↔ text = delimited delimiter (some name) := by
  rw [undelimited?, Option.map_eq_some_iff, delimited, Option.getD_some]
  constructor
  · rintro ⟨content, read, rfl⟩
    rw [unenclosed?_eq_some_iff] at read
    rw [String.toList_ofList, ← read, String.ofList_toList]
  · rintro rfl
    refine ⟨name.toList, ?_, String.ofList_toList⟩
    rw [String.toList_ofList, unenclosed?_eq_some_iff]

/-- Doubling makes an occurrence of the delimiter across two old ones. -/
example : delimited "aba" (some "ababa") = "abaabaababaaba" ∧
    undelimited? "aba" "abaabaababaaba" = some "ababa" := by
  cbv

/-- **Delimited names can be told apart, whatever the delimiter is.** A decoder takes back every
name that was written and accepts no other text, so different names are written differently. -/
theorem delimited_injective (delimiter : String) :
    (∀ name text,
        undelimited? delimiter text = some name ↔ text = delimited delimiter (some name)) ∧
      Function.Injective fun name => delimited delimiter (some name) := by
  refine ⟨fun name text => undelimited?_eq_some_iff, fun name other same => ?_⟩
  have read := undelimited?_eq_some_iff.2 (rfl : delimited delimiter (some name) = _)
  have otherRead := undelimited?_eq_some_iff.2 same
  exact Option.some.inj (read.symm.trans otherRead)

end SelectClause.Text

import Mathlib.Algebra.Ring.Parity
import SelectClause.Options
import SelectClause.Proofs.Text.Scanning

/-! # Where a delimited name ends

A delimiter at the start or at the end of a name stands beside the one that encloses the name, so
that only counting tells them apart. The scanner reads off a text just what was enclosed, and only
if no further delimiter follows (`scanDelimited_eq_some_iff`). A text between two delimiters is an
enclosed name just if the delimiters inside it stand in runs of even length
(`exists_enclosed_iff`), and a text that was put between delimiters as it stands is read back just
if it has none of them. `delimited_ends_itself` puts this together.
-/

namespace SelectClause.Text

/-- Every run of delimiters that cannot be extended has an even length. -/
def EvenRuns (delimiter : Char) (content : List Char) : Prop :=
  ∀ before count after, content = before ++ (List.replicate count delimiter ++ after) →
    before.getLast? ≠ some delimiter → after.head? ≠ some delimiter → Even count

/-- A text starts and ends with delimiters, and between these two all runs of them are even. -/
structure Encloses (delimiter : Char) (text : List Char) : Prop where
  long : 2 ≤ text.length
  starts : text.head? = some delimiter
  ends : text.getLast? = some delimiter
  runs : EvenRuns delimiter text.tail.dropLast

/-- Reads a delimited name off the front of a text. -/
def readDelimited (delimiter : Char) (text : String) : Option (String × String) :=
  (scanDelimited delimiter text.toList).map fun read => (String.ofList read.1, String.ofList read.2)

variable {delimiter char : Char} {content text name rest : List Char}

/-- Nothing is read off but what was doubled, up to a delimiter that stands alone. -/
theorem eq_doubled_of_scanContent (read : scanContent delimiter text = some (name, rest)) :
    text = doubled [delimiter] name ++ delimiter :: rest ∧ rest.head? ≠ some delimiter := by
  induction text using scanContent.induct delimiter generalizing name with
  | case1 => cases read
  | case2 =>
    rw [scanContent, if_pos rfl] at read
    cases read
    exact ⟨rfl, by simp⟩
  | case3 char different =>
    rw [scanContent, if_neg different] at read
    cases read
  | case4 further ih =>
    rw [scanContent_pair] at read
    obtain ⟨inner, scanned, same⟩ := Option.map_eq_some_iff.1 read
    obtain ⟨rfl, rfl⟩ : delimiter :: inner.1 = name ∧ inner.2 = rest := by simpa using same
    obtain ⟨written, ends⟩ := ih scanned
    rw [doubled_singleton_cons, if_pos rfl, List.cons_append, List.cons_append, ← written]
    exact ⟨rfl, ends⟩
  | case5 next further different =>
    have ends : (next :: further).head? ≠ some delimiter := by simpa using different
    rw [scanContent_delimiter ends] at read
    cases read
    exact ⟨rfl, ends⟩
  | case6 char next further different ih =>
    rw [scanContent_cons different] at read
    obtain ⟨inner, scanned, same⟩ := Option.map_eq_some_iff.1 read
    obtain ⟨rfl, rfl⟩ : char :: inner.1 = name ∧ inner.2 = rest := by simpa using same
    obtain ⟨written, ends⟩ := ih scanned
    rw [doubled_singleton_cons, if_neg different, List.cons_append, ← written]
    exact ⟨rfl, ends⟩

/-- A name is read off a text just if the text starts with the name as it is enclosed, and no
further delimiter follows. -/
theorem scanDelimited_eq_some_iff :
    scanDelimited delimiter text = some (name, rest) ↔
      text = enclosed [delimiter] name ++ rest ∧ rest.head? ≠ some delimiter := by
  constructor
  · intro read
    cases text with
    | nil => cases read
    | cons first further =>
      rw [scanDelimited] at read
      split at read
      · rename_i same
        subst same
        obtain ⟨rfl, ends⟩ := eq_doubled_of_scanContent read
        exact ⟨by simp [enclosed], ends⟩
      · cases read
  · rintro ⟨rfl, ends⟩
    exact scanDelimited_enclosed name ends

/-- Doubling adds one character for every delimiter. -/
theorem length_doubled (delimiter : Char) (content : List Char) :
    (doubled [delimiter] content).length = content.length + content.count delimiter := by
  induction content with
  | nil => rfl
  | cons char content ih =>
    rw [doubled_singleton_cons]
    by_cases same : char = delimiter
    · subst same
      simp only [↓reduceIte, List.length_cons, ih, List.count_cons_self]
      omega
    · simp only [if_neg same, List.length_cons, ih, List.count_cons_of_ne same]
      omega

/-- Doubling leaves a text as it is just if there is no delimiter in it. -/
theorem doubled_eq_self_iff : doubled [delimiter] content = content ↔ delimiter ∉ content := by
  constructor
  · intro same
    have lengths := length_doubled delimiter content
    rw [same] at lengths
    exact List.count_eq_zero.1 (by omega)
  · exact doubled_of_not_mem

theorem evenRuns_nil : EvenRuns delimiter [] := by
  intro before count after split _ _
  obtain ⟨-, none, -⟩ : before = [] ∧ count = 0 ∧ after = [] := by simpa using split
  exact none ▸ Even.zero

/-- A delimiter that stands alone is a run of odd length. -/
theorem not_evenRuns_of_single (ends : rest.head? ≠ some delimiter) :
    ¬ EvenRuns delimiter (delimiter :: rest) := fun runs =>
  Nat.not_even_one (runs [] 1 rest rfl (by simp) ends)

/-- Two delimiters more at the start of a run do not change whether its length is even. -/
theorem evenRuns_pair_iff :
    EvenRuns delimiter (delimiter :: delimiter :: rest) ↔ EvenRuns delimiter rest := by
  constructor
  · rintro runs before count after rfl starts ends
    cases before with
    | nil =>
      have longer := runs [] (count + 2) after (by simp [List.replicate_succ]) (by simp) ends
      exact (Nat.even_add.1 longer).2 even_two
    | cons first before =>
      exact runs (delimiter :: delimiter :: first :: before) count after (by simp)
        (by simpa using starts) ends
  · intro runs before count after split starts ends
    match before, split, starts with
    | [], split, _ =>
      -- A run at the start has the two delimiters, or else one would follow it.
      match count, split with
      | 0, split =>
        rw [← (show _ = after from split)] at ends
        simp at ends
      | 1, split =>
        obtain rfl : delimiter :: rest = after := by simpa using split
        simp at ends
      | count + 2, split =>
        have inner : rest = List.replicate count delimiter ++ after := by
          simpa [List.replicate_succ] using split
        exact (runs [] count after inner (by simp) ends).add even_two
    | [first], split, starts =>
      obtain ⟨rfl, -⟩ : delimiter = first ∧ _ := by simpa using split
      simp at starts
    | first :: second :: before, split, starts =>
      obtain ⟨-, -, inner⟩ : delimiter = first ∧ delimiter = second ∧
          rest = before ++ (List.replicate count delimiter ++ after) := by simpa using split
      refine runs before count after inner ?_ ends
      cases before with
      | nil => simp
      | cons third before => simpa using starts

/-- Other characters belong to no run. -/
theorem evenRuns_cons_iff (different : char ≠ delimiter) :
    EvenRuns delimiter (char :: rest) ↔ EvenRuns delimiter rest := by
  constructor
  · rintro runs before count after rfl starts ends
    refine runs (char :: before) count after rfl ?_ ends
    cases before with
    | nil => simpa using different
    | cons first before => simpa using starts
  · intro runs before count after split starts ends
    cases before with
    | nil =>
      cases count with
      | zero => exact Even.zero
      | succ count =>
        obtain ⟨same, -⟩ : char = delimiter ∧ _ := by simpa [List.replicate_succ] using split
        exact absurd same different
    | cons first before =>
      obtain ⟨-, inner⟩ : char = first ∧
          rest = before ++ (List.replicate count delimiter ++ after) := by simpa using split
      refine runs before count after inner ?_ ends
      cases before with
      | nil => simp
      | cons second before => simpa using starts

/-- What doubling makes are the texts whose delimiters stand in even runs. -/
theorem exists_doubled_iff :
    (∃ name, content = doubled [delimiter] name) ↔ EvenRuns delimiter content := by
  constructor
  · rintro ⟨name, rfl⟩
    induction name with
    | nil => exact evenRuns_nil
    | cons char name ih =>
      rw [doubled_singleton_cons]
      split
      · exact evenRuns_pair_iff.2 ih
      · rename_i different
        exact (evenRuns_cons_iff different).2 ih
  · intro runs
    induction content using scanContent.induct delimiter with
    | case1 => exact ⟨[], rfl⟩
    | case2 => exact absurd runs (not_evenRuns_of_single (by simp))
    | case3 char different =>
      refine ⟨[char], ?_⟩
      rw [doubled_singleton_cons, if_neg different, doubled_nil]
    | case4 further ih =>
      obtain ⟨name, rfl⟩ := ih (evenRuns_pair_iff.1 runs)
      refine ⟨delimiter :: name, ?_⟩
      rw [doubled_singleton_cons, if_pos rfl]
    | case5 next further different =>
      exact absurd runs (not_evenRuns_of_single (by simpa using different))
    | case6 char next further different ih =>
      obtain ⟨name, written⟩ := ih ((evenRuns_cons_iff different).1 runs)
      refine ⟨char :: name, ?_⟩
      rw [doubled_singleton_cons, if_neg different, written]

/-- A text is an enclosed name just if it starts and ends with delimiters that enclose even runs. -/
theorem exists_enclosed_iff :
    (∃ name, text = enclosed [delimiter] name) ↔ Encloses delimiter text := by
  constructor
  · rintro ⟨name, rfl⟩
    have inner : (enclosed [delimiter] name).tail.dropLast = doubled [delimiter] name := by
      simp [enclosed]
    exact {
      long := by simp [enclosed]
      starts := rfl
      ends := List.getLast?_concat
      runs := inner ▸ exists_doubled_iff.1 ⟨name, rfl⟩ }
  · rintro ⟨long, starts, ends, runs⟩
    obtain ⟨name, inner⟩ := exists_doubled_iff.2 runs
    refine ⟨name, ?_⟩
    obtain ⟨rest, rfl⟩ := List.head?_eq_some_iff.1 starts
    have some : rest ≠ [] := by
      rintro rfl
      simp at long
    obtain ⟨front, rfl⟩ := List.getLast?_eq_some_iff.1
      ((List.getLast?_cons_of_ne_nil some).symm.trans ends)
    rw [List.tail_cons, List.dropLast_concat] at inner
    simp [enclosed, inner]

/-- A name is read off a text just if the text starts with the delimited name and goes on without a
delimiter. -/
theorem readDelimited_eq_some_iff {text name rest : String} :
    readDelimited delimiter text = some (name, rest) ↔
      text = delimited (String.singleton delimiter) (some name) ++ rest ∧
        rest.toList.head? ≠ some delimiter := by
  have written : text = delimited (String.singleton delimiter) (some name) ++ rest ↔
      text.toList = enclosed [delimiter] name.toList ++ rest.toList := by
    rw [← String.toList_inj]
    simp [delimited]
  rw [readDelimited, written, ← scanDelimited_eq_some_iff, Option.map_eq_some_iff]
  constructor
  · rintro ⟨read, scanned, same⟩
    obtain ⟨rfl, rfl⟩ : String.ofList read.1 = name ∧ String.ofList read.2 = rest := by
      simpa using same
    simpa using scanned
  · intro scanned
    exact ⟨_, scanned, by simp⟩

/-- A text that is put between delimiters as it stands is written like a name just if it has no
delimiter. -/
theorem quoteAlias_eq_delimited_iff {options : Options} {aliasText : String} :
    options.quoteAlias aliasText =
        delimited (String.singleton options.escapeCharacter) (some aliasText) ↔
      options.escapeCharacter ∉ aliasText.toList := by
  rw [← doubled_eq_self_iff, ← String.toList_inj]
  simp [Options.quoteAlias, delimited, enclosed, eq_comm]

/-- **A delimited name ends itself.** It is read off every text that goes on without a delimiter.
The delimited names are the texts that start and end with a delimiter and have even runs of it in
between, and such a text is what the name read off it is written as. An alias, whose delimiters are
not doubled, is read off such a text just if it has none. -/
theorem delimited_ends_itself (delimiter : Char) :
    (∀ name rest : String, rest.toList.head? ≠ some delimiter →
      readDelimited delimiter (delimited (String.singleton delimiter) (some name) ++ rest) =
        some (name, rest)) ∧
      (∀ text : String, (∃ name, text = delimited (String.singleton delimiter) (some name)) ↔
        Encloses delimiter text.toList) ∧
      (∀ text : String, Encloses delimiter text.toList →
        ∃ name, readDelimited delimiter text = some (name, "") ∧
          delimited (String.singleton delimiter) (some name) = text) ∧
      ∀ options : Options, options.escapeCharacter = delimiter →
        ∀ aliasText rest : String, rest.toList.head? ≠ some delimiter →
          (readDelimited delimiter (options.quoteAlias aliasText ++ rest) = some (aliasText, rest) ↔
            delimiter ∉ aliasText.toList) := by
  have image : ∀ text : String,
      (∃ name, text = delimited (String.singleton delimiter) (some name)) ↔
        Encloses delimiter text.toList := by
    intro text
    rw [← exists_enclosed_iff]
    constructor
    · rintro ⟨name, rfl⟩
      exact ⟨name.toList, by simp [delimited]⟩
    · rintro ⟨name, written⟩
      exact ⟨String.ofList name, by simp [delimited, ← written]⟩
  refine ⟨?_, image, ?_, ?_⟩
  · intro name rest ends
    exact readDelimited_eq_some_iff.2 ⟨rfl, ends⟩
  · intro text encloses
    obtain ⟨name, rfl⟩ := (image text).2 encloses
    exact ⟨name, readDelimited_eq_some_iff.2 ⟨by simp, by simp⟩, rfl⟩
  · rintro options rfl aliasText rest ends
    rw [readDelimited_eq_some_iff, ← quoteAlias_eq_delimited_iff]
    simp [ends]

/-- A name with delimiters at both of its ends, and an alias with one inside. -/
theorem delimited_ends_itself_doubled :
    " AS".toList.head? ≠ some '"' ∧
      readDelimited '"' (delimited (String.singleton '"') (some "\"a\"\"") ++ " AS") =
        some ("\"a\"\"", " AS") ∧
      Encloses '"' "\"\"\"a\"\"\"\"\"".toList ∧
      (∃ name, readDelimited '"' "\"\"\"a\"\"\"\"\"" = some (name, "") ∧
        delimited (String.singleton '"') (some name) = "\"\"\"a\"\"\"\"\"") ∧
      ({} : Options).escapeCharacter = '"' ∧
      readDelimited '"' (({} : Options).quoteAlias "a___b" ++ " AS") = some ("a___b", " AS") ∧
      readDelimited '"' (({} : Options).quoteAlias "a\"b" ++ " AS") ≠ some ("a\"b", " AS") := by
  obtain ⟨reads, image, decodes, aliases⟩ := delimited_ends_itself '"'
  have ends : " AS".toList.head? ≠ some '"' := by decide
  have encloses : Encloses '"' "\"\"\"a\"\"\"\"\"".toList := (image _).1 ⟨"\"a\"\"", by decide⟩
  exact ⟨ends, reads _ _ ends, encloses, decodes _ encloses, rfl,
    (aliases {} rfl "a___b" " AS" ends).2 (by decide),
    fun read => (aliases {} rfl "a\"b" " AS" ends).1 read (by decide)⟩

end SelectClause.Text

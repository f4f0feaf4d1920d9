import SelectClause.Clause
import SelectClause.Options
import SelectClause.Proofs.Text.Scanning

/-! # Reading clauses back

A clause is read from left to right: its items with a comma between them, the escaped table and
the text that other clauses added. What an item is depends on the clause, so the reader takes a
reader of items. If that one reads each item of a clause whatever follows it in the clause
(`Follows`), the clause is read back with its items in order, its table and the text after it
(`read?_select`).
-/

namespace SelectClause

/-- Escaping a name encloses its characters. -/
theorem Options.toList_escape (options : Options) (name : String) :
    (options.escape (some name)).toList =
      Text.enclosed [options.escapeCharacter] name.toList := by
  simp [escape, Text.delimited]

/-- Quoting an alias puts its characters between delimiters as they are. -/
theorem Options.toList_quoteAlias (options : Options) (text : String) :
    (options.quoteAlias text).toList =
      options.escapeCharacter :: (text.toList ++ [options.escapeCharacter]) := by
  simp [quoteAlias]

namespace Clause

variable {α : Type}

/-- What a clause says, and the text after the clause. -/
structure Reading (Content : Type) where
  content : Content
  table : String
  rest : String
  deriving DecidableEq

/-- What stands after an item in the text of a clause: another item or the table. -/
inductive Follows : List Char → Prop where
  | item (text : List Char) : Follows (", ".toList ++ text)
  | table (text : List Char) : Follows (" FROM ".toList ++ text)

/-- Reads items with a comma between them, at least one. -/
def readItems (item : Text.Reader α) (text : List Char) : Option (List α × List Char) :=
  match item text with
  | none => none
  | some (first, rest) =>
      match rest.dropPrefix? ", ".toList with
      | none => some ([first], rest)
      | some next =>
          if next.length < text.length then
            (readItems item next).map fun read => (first :: read.1, read.2)
          else none
termination_by text.length

/-- Reads the table of a clause, once its items are read, and the end of the clause. -/
def readTable (delimiter : Char) (items : List α) (text : List Char) :
    Option (Reading (List α)) := do
  let table ← Text.scanDelimited delimiter text
  let rest ← table.2.dropPrefix? " ".toList
  return ⟨items, String.ofList table.1, String.ofList rest⟩

/-- Reads a clause and the text after it. A clause without items goes on with its table. -/
def read? (item : Text.Reader α) (delimiter : Char) (text : String) :
    Option (Reading (List α)) := do
  let listed ← text.toList.dropPrefix? "SELECT ".toList
  match readItems item listed with
  | some (items, rest) => readTable delimiter items (← rest.dropPrefix? " FROM ".toList)
  | none => readTable delimiter [] (← listed.dropPrefix? "FROM ".toList)

/-- What a text starts with can be dropped from it. -/
theorem dropPrefix?_append (lead text : List Char) :
    (lead ++ text).dropPrefix? lead = some text :=
  List.dropPrefix?_append_of_beq text BEq.rfl

/-- What follows an item starts with a comma or a space. -/
theorem Follows.head?_ne {delimiter : Char} (delimits : delimiter ∉ [' ', ','])
    {text : List Char} (follows : Follows text) : text.head? ≠ some delimiter := by
  simp only [List.mem_cons, List.not_mem_nil, or_false, not_or] at delimits
  cases follows with
  | item text => simpa using Ne.symm delimits.2
  | table text => simpa using Ne.symm delimits.1

/-- Items that are read one by one are read as a list. -/
theorem readItems_intercalate {item : Text.Reader α} {write : α → List Char} (text : List Char)
    (first : α) (others : List α)
    (reads : ∀ value ∈ first :: others, ∀ next, Follows next →
      item (write value ++ next) = some (value, next)) :
    readItems item
        (", ".toList.intercalate ((first :: others).map write) ++ (" FROM ".toList ++ text)) =
      some (first :: others, " FROM ".toList ++ text) := by
  induction others generalizing first with
  | nil =>
    have read := reads first (by simp) _ (.table text)
    have ends : (" FROM ".toList ++ text).dropPrefix? ", ".toList = none := by
      simp [List.dropPrefix?]
    rw [List.map_singleton, List.intercalate_singleton, readItems, read]
    simp only [ends]
  | cons second others ih =>
    have rest := ih second fun value member => reads value (List.mem_cons_of_mem _ member)
    rw [List.map_cons] at rest
    have read := reads first (by simp) _ (.item (", ".toList.intercalate
      (write second :: others.map write) ++ (" FROM ".toList ++ text)))
    rw [List.map_cons, List.map_cons, List.intercalate_cons_cons, List.append_assoc,
      List.append_assoc, readItems, read]
    simp only [dropPrefix?_append, rest]
    rw [if_pos]
    · rfl
    · simp only [List.length_append, String.length_toList]
      have separated : ", ".length = 2 := rfl
      omega

/-- An escaped table is read back, with the text after the clause. -/
theorem readTable_escape {options : Options} (delimits : options.escapeCharacter ≠ ' ')
    (items : List α) (table : String) (rest : List Char) :
    readTable options.escapeCharacter items
        ((options.escape (some table)).toList ++ (" ".toList ++ rest)) =
      some ⟨items, table, String.ofList rest⟩ := by
  have ends : (" ".toList ++ rest).head? ≠ some options.escapeCharacter := by
    simpa using Ne.symm delimits
  rw [readTable, Options.toList_escape, Text.scanDelimited_enclosed table.toList ends]
  simp only [Option.bind_eq_bind, Option.bind_some, dropPrefix?_append, String.ofList_toList]
  rfl

/-- **Clauses are read back.** If every item of a clause is written as some text and read back
whatever follows it in the clause, and no item is read where there is none, the clause is read back
with its items, its table and the text after it. -/
theorem read?_select {options : Options} {item : Text.Reader α} {write : α → String}
    (delimits : options.escapeCharacter ≠ ' ') {items : List α}
    (written : ∀ value ∈ items, write value ≠ "")
    (reads : ∀ value ∈ items, ∀ next, Follows next →
      item ((write value).toList ++ next) = some (value, next))
    (unlisted : items = [] → ∀ next, item ("FROM ".toList ++ next) = none)
    (table rest : String) :
    read? item options.escapeCharacter
        (select (items.map write) (options.escape (some table)) ++ rest) =
      some ⟨items, table, rest⟩ := by
  have named : options.escape (some table) ≠ "" := by
    simp [← String.toList_inj, Options.toList_escape, Text.enclosed]
  cases items with
  | nil =>
    have read := readTable_escape (α := α) delimits [] table rest.toList
    have unread : readItems item
        ("FROM ".toList ++ ((options.escape (some table)).toList ++ (" ".toList ++ rest.toList))) =
          none := by
      rw [readItems, unlisted rfl]
    rw [List.map_nil, select_nil named, read?]
    have lead : "SELECT FROM " = "SELECT " ++ "FROM " := rfl
    rw [lead]
    simp only [String.toList_append, List.append_assoc, dropPrefix?_append, unread,
      Option.bind_eq_bind, Option.bind_some, read, String.ofList_toList]
  | cons first others =>
    have listed : ", ".intercalate ((first :: others).map write) ≠ "" := by
      intro empty
      have spelled := congrArg String.toList empty
      rw [String.toList_intercalate] at spelled
      cases others with
      | nil => exact written first (by simp) (by simpa using spelled)
      | cons second others => simp [List.intercalate_cons_cons] at spelled
    have tabled := readTable_escape delimits (first :: others) table rest.toList
    have itemized := readItems_intercalate
      ((options.escape (some table)).toList ++ (" ".toList ++ rest.toList)) first others reads
    rw [select_of_items listed named, read?]
    simp only [String.toList_append, List.append_assoc, String.toList_intercalate, List.map_map,
      Function.comp_def, dropPrefix?_append, itemized, Option.bind_eq_bind, Option.bind_some,
      tabled, String.ofList_toList]

end Clause

end SelectClause

import SelectClause.Clause.Aggregate
import SelectClause.Proofs.Clause.Reading

/-! # Reading aggregate clauses back

An item of an aggregate clause is a column to group by, written as its escaped name, or a
calculation, which starts with a word of its own. The name of a calculated column stands in the item
twice: escaped within the calculation, and as it stands for an alias. The alias may hold anything,
also text that looks like further items or like the table, but the name read before says where it
ends. The reader reads the items in their order and sorts them by what they do
(`ofEntries_entries`), so the clause determines the aggregation, the table and the text after the
clause (`read?_of_calculates`).
-/

namespace SelectClause

/-- What may be calculated of a column. -/
inductive Calculation where
  | sum
  | average
  | maximum
  | minimum
  deriving DecidableEq, Repr

namespace Calculation

/-- The calculations in the order in which the reader tries them. -/
def all : List Calculation := [.sum, .average, .maximum, .minimum]

/-- The text of a calculation up to the escaped column. -/
def opening (options : Options) : Calculation → String
  | .sum => if options.cast then "CAST(SUM(" else "SUM("
  | .average => if options.cast then "CAST( avg(" else "avg("
  | .maximum => "MAX("
  | .minimum => "MIN("

/-- The text of a calculation from the escaped column to the alias. -/
def closing (options : Options) : Calculation → String
  | .sum => if options.cast then ").asFloat()) AS " else ") AS "
  | .average => if options.cast then ".asFloat()) AS float) AS " else ".asFloat()) AS "
  | .maximum => ") AS "
  | .minimum => ") AS "

end Calculation

namespace Aggregation

/-- An item of an aggregate clause. -/
inductive Entry where
  | grouped (column : String)
  | calculated (calculation : Calculation) (column : String)
  deriving DecidableEq, Repr

namespace Entry

/-- The text of an item. -/
def text (options : Options) : Entry → String
  | grouped column => options.escape (some column)
  | calculated calculation column =>
      calculation.opening options ++ options.escape (some column) ++
        calculation.closing options ++ column

/-- The column of an item that groups. -/
def groupColumn? : Entry → Option String
  | grouped column => some column
  | calculated .. => none

/-- The column of an item with the given calculation. -/
def columnOf? (calculation : Calculation) : Entry → Option String
  | grouped _ => none
  | calculated other column => if other = calculation then some column else none

end Entry

/-- The items of an aggregation, in the order of its clause. -/
def entries (aggregation : Aggregation String) : List Entry :=
  aggregation.groupBy.map .grouped ++ aggregation.sum.map (.calculated .sum) ++
    aggregation.average.map (.calculated .average) ++
    aggregation.maximum.map (.calculated .maximum) ++
    aggregation.minimum.map (.calculated .minimum)

/-- The aggregation that some items make up. -/
def ofEntries (entries : List Entry) : Aggregation String where
  groupBy := entries.filterMap Entry.groupColumn?
  sum := entries.filterMap (Entry.columnOf? .sum)
  average := entries.filterMap (Entry.columnOf? .average)
  maximum := entries.filterMap (Entry.columnOf? .maximum)
  minimum := entries.filterMap (Entry.columnOf? .minimum)

/-- Reads the item of one calculation. The alias is the name that was read before. -/
def readCalculated (options : Options) (calculation : Calculation) : Text.Reader Entry :=
  fun text => do
    let opened ← text.dropPrefix? (calculation.opening options).toList
    let named ← Text.scanDelimited options.escapeCharacter opened
    let closed ← named.2.dropPrefix? (calculation.closing options).toList
    let rest ← closed.dropPrefix? named.1
    return (.calculated calculation (String.ofList named.1), rest)

/-- Reads an item: one that starts with a delimiter is a column to group by. -/
def readEntry (options : Options) : Text.Reader Entry := fun text =>
  match Text.scanDelimited options.escapeCharacter text with
  | some (column, rest) => some (.grouped (String.ofList column), rest)
  | none => Calculation.all.findSome? fun calculation => readCalculated options calculation text

/-- Reads an aggregate clause and the text after it. -/
def read? (options : Options) (text : String) : Option (Clause.Reading (Aggregation String)) :=
  (Clause.read? (readEntry options) options.escapeCharacter text).map fun reading =>
    ⟨ofEntries reading.content, reading.table, reading.rest⟩

variable {options : Options}

/-- Sorting the items of an aggregation by what they do gives it back. -/
theorem ofEntries_entries (aggregation : Aggregation String) :
    ofEntries aggregation.entries = aggregation := by
  have grouped : ∀ columns : List String,
      (columns.map Entry.grouped).filterMap Entry.groupColumn? = columns := by
    intro columns
    simp [List.filterMap_map, Function.comp_def, Entry.groupColumn?]
  have calculated : ∀ (calculation : Calculation) (columns : List String),
      (columns.map (Entry.calculated calculation)).filterMap (Entry.columnOf? calculation) =
        columns := by
    intro calculation columns
    simp [List.filterMap_map, Function.comp_def, Entry.columnOf?]
  have notGrouped : ∀ (calculation : Calculation) (columns : List String),
      (columns.map (Entry.calculated calculation)).filterMap Entry.groupColumn? = [] := by
    intro calculation columns
    simp [List.filterMap_map, Function.comp_def, Entry.groupColumn?]
  have notCalculated : ∀ (calculation : Calculation) (columns : List String),
      (columns.map Entry.grouped).filterMap (Entry.columnOf? calculation) = [] := by
    intro calculation columns
    simp [List.filterMap_map, Function.comp_def, Entry.columnOf?]
  have other : ∀ (calculation another : Calculation) (columns : List String),
      another ≠ calculation →
        (columns.map (Entry.calculated another)).filterMap (Entry.columnOf? calculation) = [] := by
    intro calculation another columns different
    simp [List.filterMap_map, Function.comp_def, Entry.columnOf?, different]
  obtain ⟨groupBy, sum, average, minimum, maximum⟩ := aggregation
  simp [ofEntries, entries, grouped, calculated, notGrouped, notCalculated, other]

/-- The clause of an aggregation is made of the texts of its items. -/
theorem items_map_some (options : Options) (aggregation : Aggregation String) :
    (aggregation.map some).items options = aggregation.entries.map (Entry.text options) := by
  have summed : ∀ column, sumItem options (some column) =
      (Entry.calculated .sum column).text options := by
    intro column
    apply String.toList_injective
    cases cast : options.cast <;>
      simp [sumItem, Entry.text, Calculation.opening, Calculation.closing, cast, Clause.printed]
  have averaged : ∀ column, averageItem options (some column) =
      (Entry.calculated .average column).text options := by
    intro column
    apply String.toList_injective
    cases cast : options.cast <;>
      simp [averageItem, Entry.text, Calculation.opening, Calculation.closing, cast,
        Clause.printed]
  have greatest : ∀ column, maximumItem options (some column) =
      (Entry.calculated .maximum column).text options := by
    intro column
    apply String.toList_injective
    simp [maximumItem, Entry.text, Calculation.opening, Calculation.closing, Clause.printed]
  have least : ∀ column, minimumItem options (some column) =
      (Entry.calculated .minimum column).text options := by
    intro column
    apply String.toList_injective
    simp [minimumItem, Entry.text, Calculation.opening, Calculation.closing, Clause.printed]
  simp only [items, map, entries, List.map_map, List.map_append, Function.comp_def, summed,
    averaged, greatest, least]
  rfl

/-- No calculation opens like another one. -/
theorem dropPrefix?_opening {calculation other : Calculation} (different : other ≠ calculation)
    (text : List Char) :
    ((calculation.opening options).toList ++ text).dropPrefix? (other.opening options).toList =
      none := by
  cases cast : options.cast <;> cases calculation <;> cases other <;>
    first
    | exact absurd rfl different
    | simp [Calculation.opening, cast, List.dropPrefix?]

/-- A calculation is read back whatever follows it. -/
theorem readCalculated_text (delimits : options.escapeCharacter ∉ [')', '.'])
    (calculation : Calculation) (column : String) (next : List Char) :
    readCalculated options calculation
        (((Entry.calculated calculation column).text options).toList ++ next) =
      some (.calculated calculation column, next) := by
  have closed : ((calculation.closing options).toList ++ (column.toList ++ next)).head? ≠
      some options.escapeCharacter := by
    simp only [List.mem_cons, List.not_mem_nil, or_false, not_or] at delimits
    cases cast : options.cast <;> cases calculation <;>
      simp [Calculation.closing, cast, Ne.symm delimits.1, Ne.symm delimits.2]
  simp only [Entry.text, String.toList_append, List.append_assoc, Options.toList_escape,
    readCalculated, Clause.dropPrefix?_append, Option.bind_eq_bind, Option.bind_some,
    Text.scanDelimited_enclosed _ closed, String.ofList_toList]
  rfl

/-- An item is read back whatever follows it in a clause. -/
theorem readEntry_text
    (delimits : options.escapeCharacter ∉ [' ', ',', ')', '.', 'S', 'C', 'a', 'M'])
    (entry : Entry) {next : List Char} (follows : Clause.Follows next) :
    readEntry options ((entry.text options).toList ++ next) = some (entry, next) := by
  simp only [List.mem_cons, List.not_mem_nil, or_false, not_or] at delimits
  obtain ⟨space, comma, bracket, point, upperS, upperC, lowerA, upperM⟩ := delimits
  cases entry with
  | grouped column =>
    have ends : next.head? ≠ some options.escapeCharacter :=
      follows.head?_ne (by simp [space, comma])
    rw [Entry.text, Options.toList_escape, readEntry, Text.scanDelimited_enclosed _ ends]
    simp only [String.ofList_toList]
  | calculated calculation column =>
    have encloses : options.escapeCharacter ∉ [')', '.'] := by simp [bracket, point]
    have read := readCalculated_text encloses calculation column next
    have ungrouped : Text.scanDelimited options.escapeCharacter
        (((Entry.calculated calculation column).text options).toList ++ next) = none := by
      apply Text.scanDelimited_eq_none
      cases cast : options.cast <;> cases calculation <;>
        simp [Entry.text, Calculation.opening, cast, Ne.symm upperS, Ne.symm upperC,
          Ne.symm lowerA, Ne.symm upperM]
    have others : ∀ other, other ≠ calculation → readCalculated options other
        (((Entry.calculated calculation column).text options).toList ++ next) = none := by
      intro other different
      rw [Entry.text, String.toList_append, String.toList_append, String.toList_append,
        List.append_assoc, List.append_assoc, List.append_assoc, readCalculated,
        dropPrefix?_opening different]
      rfl
    -- The readers of the calculations are tried in their order, and those before the right one
    -- fail.
    rw [readEntry, ungrouped]
    cases calculation <;> simp [Calculation.all, others, read]

/-- The clause of an aggregation that calculates is read back with the text after it. -/
theorem read?_of_calculates
    (delimits : options.escapeCharacter ∉ [' ', ',', ')', '.', 'S', 'C', 'a', 'M'])
    {aggregation : Aggregation String} (calculates : aggregation.hasCalculation = true)
    (table rest : String) :
    read? options (Clause.select ((aggregation.map some).items options)
        (options.escape (some table)) ++ rest) = some ⟨aggregation, table, rest⟩ := by
  have spaced : options.escapeCharacter ≠ ' ' := fun same => delimits (by simp [same])
  have written : ∀ entry ∈ aggregation.entries, entry.text options ≠ "" := by
    intro entry _ empty
    have spelled := congrArg String.toList empty
    cases entry <;> simp [Entry.text, Options.toList_escape, Text.enclosed] at spelled
  have listed : aggregation.entries ≠ [] := by
    intro empty
    obtain ⟨groupBy, sum, average, minimum, maximum⟩ := aggregation
    simp_all [entries, hasCalculation]
  have read := Clause.read?_select spaced written
    (fun entry _ next follows => readEntry_text delimits entry follows)
    (fun empty => absurd empty listed) table rest
  rw [read?, items_map_some, read]
  simp only [Option.map_some, ofEntries_entries]

/-- An aggregation has a clause just if it calculates, and then it is that of its items. -/
theorem outcome_clause?_eq_some_iff {aggregation : Aggregation String} {table clause : String} :
    ((aggregation.map some).clause? options (some table)).outcome = .ok (some clause) ↔
      aggregation.hasCalculation = true ∧
        Clause.select ((aggregation.map some).items options) (options.escape (some table)) =
          clause := by
  rw [outcome_clause?, requested_map, hasCalculation_map]
  cases calculates : aggregation.hasCalculation <;>
    cases grouped : aggregation.groupBy.isEmpty <;> simp [requested, calculates, grouped]

/-- **Aggregate clauses determine their aggregation.** An aggregation that calculates has a clause
over every table. The reader, which knows the options only, recovers the columns to group by, the
four lists of calculations, the table and whatever text follows. Two clauses under the same options,
with any texts after them, are therefore equal only if all of these are. -/
theorem read?_clause?
    (delimits : options.escapeCharacter ∉ [' ', ',', ')', '.', 'S', 'C', 'a', 'M'])
    {aggregation : Aggregation String} (calculates : aggregation.hasCalculation = true)
    (table : String) :
    ∃ clause, ((aggregation.map some).clause? options (some table)).outcome = .ok (some clause) ∧
      (∀ rest, read? options (clause ++ rest) = some ⟨aggregation, table, rest⟩) ∧
      ∀ (other : Aggregation String) (otherTable otherClause rest otherRest : String),
        ((other.map some).clause? options (some otherTable)).outcome = .ok (some otherClause) →
        otherClause ++ otherRest = clause ++ rest →
          other = aggregation ∧ otherTable = table ∧ otherRest = rest := by
  refine ⟨_, outcome_clause?_eq_some_iff.2 ⟨calculates, rfl⟩,
    read?_of_calculates delimits calculates table, ?_⟩
  intro other otherTable otherClause rest otherRest compiled same
  obtain ⟨otherCalculates, rfl⟩ := outcome_clause?_eq_some_iff.1 compiled
  have read := read?_of_calculates delimits calculates table rest
  have otherRead := read?_of_calculates delimits otherCalculates otherTable otherRest
  rw [same, read] at otherRead
  have equal := Option.some.inj otherRead
  injection equal with content source remaining
  exact ⟨content.symm, source.symm, remaining.symm⟩

/-- Columns whose names look like the rest of a clause. -/
def misleadingAggregation : Aggregation String where
  groupBy := ["kind\", SUM(\""]
  sum := ["x, avg(\"y\".asFloat()) AS y FROM \"z\" ", ""]
  average := ["\""]
  maximum := ["x", "x"]

/-- The clause of `misleadingAggregation`, with aliases that look like items and like a table. -/
def misleadingClause : String :=
  "SELECT \"kind\"\", SUM(\"\"\", " ++
    "CAST(SUM(\"x, avg(\"\"y\"\".asFloat()) AS y FROM \"\"z\"\" \").asFloat()) AS " ++
    "x, avg(\"y\".asFloat()) AS y FROM \"z\" , CAST(SUM(\"\").asFloat()) AS , " ++
    "CAST( avg(\"\"\"\".asFloat()) AS float) AS \", MAX(\"x\") AS x, MAX(\"x\") AS x " ++
    "FROM \"orders\" "

/-- The reader is not misled by aliases that look like items and like a table. -/
theorem read?_clause?_misleading :
    misleadingAggregation.hasCalculation = true ∧
      read? { cast := true } (misleadingClause ++ "WHERE 1 = 1") =
        some ⟨misleadingAggregation, "orders", "WHERE 1 = 1"⟩ := by
  have delimits : ({ cast := true } : Options).escapeCharacter ∉
      [' ', ',', ')', '.', 'S', 'C', 'a', 'M'] := by decide
  have calculates : misleadingAggregation.hasCalculation = true := rfl
  obtain ⟨clause, compiled, read, -⟩ := read?_clause? delimits calculates "orders"
  have text : clause = misleadingClause := by
    rw [← (outcome_clause?_eq_some_iff.1 compiled).2]
    decide +kernel
  exact ⟨calculates, text ▸ read "WHERE 1 = 1"⟩

end Aggregation

end SelectClause

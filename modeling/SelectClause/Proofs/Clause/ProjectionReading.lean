import SelectClause.Proofs.Clause.Reading
import SelectClause.Proofs.Target.Compilation

/-! # Reading projections back

A projected column is read as its name and, where an alias follows, the key that the composite
alias starts with: the alias ends with the separator and the name, which the reader knows by then.
Names and tables are read whatever they hold, since the delimiters in them are doubled. Aliases are
not doubled, so a projection can be read only if no alias holds the delimiter (`Readable`). Then the
columns, the table and the appended clauses are all read back from the statement
(`read?_of_readable`), and so the statement determines them.
-/

namespace SelectClause

namespace Projection

/-- Reads a column and the key of its composite alias, if it has an alias. -/
def readItem (options : Options) : Text.Reader (String × Option String) := fun text => do
  let named ← Text.scanDelimited options.escapeCharacter text
  match named.2.dropPrefix? " AS ".toList with
  | none => return ((String.ofList named.1, none), named.2)
  | some rest =>
      let composite ← Text.scanDelimited options.escapeCharacter rest
      let key ← composite.1.dropSuffix? (options.aliasSeparator.toList ++ named.1)
      return ((String.ofList named.1, some (String.ofList key)), composite.2)

/-- Reads a projection clause and the text after it. -/
def read? (options : Options) (text : String) :
    Option (Clause.Reading (List (String × Option String))) :=
  Clause.read? (readItem options) options.escapeCharacter text

/-- A projection that a query was compiled into and whose aliases do not hold the delimiter. -/
structure Readable (target : Target) (query : Query) (compiled : Compiled) : Prop where
  succeeds : (target.compile query).outcome = .ok compiled
  projects : compiled.mode = .projection
  undelimited : ∀ column ∈ compiled.columns, ∀ key, effectiveKey column.key = some key →
    target.options.escapeCharacter ∉ (compositeAlias target.options key column.name).toList

theorem effectiveKey_effectiveKey (key : Option String) :
    effectiveKey (effectiveKey key) = effectiveKey key := by
  simp [effectiveKey]

/-- An item is read back whatever follows it in a clause. -/
theorem readItem_item {options : Options} (delimits : options.escapeCharacter ∉ [' ', ','])
    {name : String} {key : Option String}
    (undelimited : ∀ present, effectiveKey key = some present →
      options.escapeCharacter ∉ (compositeAlias options present name).toList)
    {next : List Char} (follows : Clause.Follows next) :
    readItem options ((item options (some name) key).toList ++ next) =
      some ((name, effectiveKey key), next) := by
  have ends := follows.head?_ne delimits
  cases effective : effectiveKey key with
  | none =>
    have unaliased : next.dropPrefix? " AS ".toList = none := by
      cases follows <;> simp [List.dropPrefix?]
    rw [item_of_no_key options _ effective, Options.toList_escape, readItem,
      Text.scanDelimited_enclosed _ ends]
    simp only [Option.bind_eq_bind, Option.bind_some, unaliased, String.ofList_toList]
    rfl
  | some present =>
    let composite := compositeAlias options present name
    have spelled : (item options (some name) key).toList ++ next =
        Text.enclosed [options.escapeCharacter] name.toList ++ (" AS ".toList ++
          (options.escapeCharacter :: (composite.toList ++ options.escapeCharacter :: next))) := by
      simp only [item, effective, String.toList_append, Options.toList_escape,
        Options.toList_quoteAlias, Clause.printed, Option.getD_some, List.append_assoc,
        List.cons_append, List.nil_append, composite]
    have spaced : (" AS ".toList ++ (options.escapeCharacter ::
        (composite.toList ++ options.escapeCharacter :: next))).head? ≠
          some options.escapeCharacter := by
      simp only [List.mem_cons, List.not_mem_nil, or_false, not_or] at delimits
      simpa using Ne.symm delimits.1
    have ended : composite.toList.dropSuffix? (options.aliasSeparator.toList ++ name.toList) =
        some present.toList := by
      rw [List.dropSuffix?_eq_some_iff]
      exact ⟨_, by simp [composite, compositeAlias], BEq.rfl⟩
    rw [spelled, readItem, Text.scanDelimited_enclosed _ spaced]
    simp only [Option.bind_eq_bind, Option.bind_some, Clause.dropPrefix?_append,
      Text.scanDelimited_of_not_mem (undelimited present effective) ends, composite, ended,
      String.ofList_toList]
    rfl

/-- Clauses that are appended one by one come after the statement, in order. -/
theorem statement_foldl_withClause (compiled : Compiled) (clauses : List String) :
    (clauses.foldl Compiled.withClause compiled).statement =
      compiled.statement ++ String.join clauses := by
  induction clauses generalizing compiled with
  | nil => simp
  | cons clause clauses ih =>
    rw [List.foldl_cons, ih, Compiled.statement_withClause, String.join_cons, String.append_assoc]

/-- The statement of a projection is the clause of the labels of its columns. -/
theorem statement_projection (options : Options) (columns : List Column) (table : String) :
    (Compiled.projection options columns table).statement =
      Clause.select ((columns.map Column.label).map fun label =>
        item options (some label.1) label.2) (options.escape (some table)) := by
  have labelled : ∀ column : Column, item options (some column.name) column.key =
      item options (some column.label.1) column.label.2 := by
    intro column
    simp only [item, Column.label, effectiveKey_effectiveKey]
  simp only [Compiled.statement, Compiled.projection, clause, List.append_nil, String.join_cons,
    String.join_nil, String.append_empty, List.map_map, Function.comp_def, labelled]

/-- A readable projection is read back with the clauses appended to it. -/
theorem read?_of_readable {target : Target} {query : Query} {compiled : Compiled}
    (delimits : target.options.escapeCharacter ∉ [' ', ',', 'F'])
    (readable : Readable target query compiled) (clauses : List String) :
    read? target.options (clauses.foldl Compiled.withClause compiled).statement =
      some ⟨compiled.columns.map Column.label, target.tableName, String.join clauses⟩ := by
  obtain ⟨-, projection⟩ := Target.eq_projection_of_mode readable.succeeds readable.projects
  have separates : target.options.escapeCharacter ∉ [' ', ','] := by
    simp only [List.mem_cons, List.not_mem_nil, or_false, not_or] at delimits ⊢
    exact ⟨delimits.1, delimits.2.1⟩
  have spaced : target.options.escapeCharacter ≠ ' ' := fun same => delimits (by simp [same])
  rw [statement_foldl_withClause, projection, statement_projection]
  apply Clause.read?_select spaced
  · intro label _ empty
    have spelled := congrArg String.toList empty
    cases effective : effectiveKey label.2 <;>
      simp [item, effective, Options.toList_escape, Text.enclosed] at spelled
  · intro label member next follows
    obtain ⟨column, present, rfl⟩ := List.mem_map.1 member
    have undelimited : ∀ key, effectiveKey column.label.2 = some key →
          target.options.escapeCharacter ∉
            (compositeAlias target.options key column.name).toList := by
      intro key effective
      rw [Column.label, effectiveKey_effectiveKey] at effective
      exact readable.undelimited column present key effective
    have read := readItem_item separates undelimited follows
    rwa [Column.label, effectiveKey_effectiveKey] at read
  · intro _ next
    have unread : Text.scanDelimited target.options.escapeCharacter ("FROM ".toList ++ next) =
        none := by
      apply Text.scanDelimited_eq_none
      intro same
      have first : 'F' = target.options.escapeCharacter := by simpa using same
      exact delimits (by simp [← first])
    rw [readItem, unread]
    rfl

/-- **Statements of projections determine what was compiled.** The reader, which knows the options
only, recovers the names and keys of the columns in order, the table and the appended clauses,
joined in the order of appending. Two statements under the same options are therefore equal only if
all of these are. -/
theorem read?_statement {target : Target} {query : Query} {compiled : Compiled}
    (delimits : target.options.escapeCharacter ∉ [' ', ',', 'F'])
    (readable : Readable target query compiled) (clauses : List String) :
    read? target.options (clauses.foldl Compiled.withClause compiled).statement =
        some ⟨compiled.columns.map Column.label, target.tableName, String.join clauses⟩ ∧
      ∀ (otherTarget : Target) (otherQuery : Query) (other : Compiled) (otherClauses : List String),
        otherTarget.options = target.options → Readable otherTarget otherQuery other →
        (otherClauses.foldl Compiled.withClause other).statement =
            (clauses.foldl Compiled.withClause compiled).statement →
          other.columns.map Column.label = compiled.columns.map Column.label ∧
            otherTarget.tableName = target.tableName ∧
            String.join otherClauses = String.join clauses := by
  refine ⟨read?_of_readable delimits readable clauses, ?_⟩
  intro otherTarget otherQuery other otherClauses options otherReadable same
  have read := read?_of_readable delimits readable clauses
  have otherRead := read?_of_readable (options ▸ delimits) otherReadable otherClauses
  rw [options, same, read] at otherRead
  have equal := Option.some.inj otherRead
  injection equal with columns table rest
  exact ⟨columns.symm, table.symm, rest.symm⟩

/-- The statement of the pets is read back with the clauses behind it. -/
theorem read?_statement_pets :
    Readable petTarget petQuery petProjection ∧
      read? petTarget.options (["WHERE \"x\" = 1", " LIMIT 5"].foldl Compiled.withClause
          petProjection).statement =
        some ⟨[("na\"me", none), ("owner\" AS", none), ("name", some "owner")],
          "pets \"all\", FROM", "WHERE \"x\" = 1 LIMIT 5"⟩ := by
  have readable : Readable petTarget petQuery petProjection := by
    refine ⟨rfl, rfl, ?_⟩
    intro column member key effective
    simp only [petProjection, List.mem_cons, List.not_mem_nil, or_false] at member
    rcases member with rfl | rfl | rfl <;> cases effective
    decide
  exact ⟨readable, (read?_statement (by decide) readable _).1⟩

end Projection

end SelectClause

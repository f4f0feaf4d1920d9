import SelectClause.Trace

/-! # Records are known by their wording

A record is written as a message, in which names are shown between quotes and may hold anything. The
kind of the record, and the number that it tells, stand before the first of these names: a message
opens with the words of its kind (`Event.opens_own`). Words end at the first space
(`Event.isPrefix_of_spaced`), and no kind has the words that another one begins with
(`Event.Kind.eq_of_words`). A log that is read as text therefore tells as much about the kinds of
its records as the records themselves (`Event.opens_iff`).
-/

namespace SelectClause.Event

/-- What a record tells, apart from the names in it. -/
inductive Kind where
  | tableResolved
  | aggregateWritten (items : Nat)
  | aggregateCompiled
  | collectionSkipped
  | joinLeft
  | joinInlined
  | projectionCompiled (columns : Nat)
  deriving DecidableEq, Repr

/-- The kind of a record. -/
def kind : Event → Kind
  | .tableResolved _ _ => .tableResolved
  | .aggregateWritten items _ => .aggregateWritten items
  | .aggregateCompiled _ => .aggregateCompiled
  | .collectionSkipped _ _ => .collectionSkipped
  | .joinLeft _ _ => .joinLeft
  | .joinInlined _ _ _ => .joinInlined
  | .projectionCompiled columns _ => .projectionCompiled columns

/-- The words that tell the kind of a record. -/
def Kind.words : Kind → List String
  | tableResolved => ["Resolved", "table"]
  | aggregateWritten items => ["Compiled", toString items, "aggregate", "fragments"]
  | aggregateCompiled => ["Compiled", "aggregate", "SELECT"]
  | collectionSkipped => ["Skipping", "collection", "attribute"]
  | joinLeft => ["Leaving"]
  | joinInlined => ["Inlining"]
  | projectionCompiled columns => ["Compiled", toString columns, "projected", "columns"]

/-- Words with a space after each. -/
def spaced (words : List String) : List Char := words.flatMap fun word => word.toList ++ [' ']

/-- A text opens with the words of a kind. -/
def Kind.Opens (kind : Kind) (text : String) : Prop := spaced kind.words <+: text.toList

instance (kind : Kind) (text : String) : Decidable (kind.Opens text) :=
  inferInstanceAs (Decidable (spaced kind.words <+: text.toList))

/-- A word ends at the first space. -/
theorem eq_of_append_space {word other rest further : List Char} (whole : ' ' ∉ word)
    (otherWhole : ' ' ∉ other) (same : word ++ ' ' :: rest = other ++ ' ' :: further) :
    word = other ∧ rest = further := by
  induction word generalizing other with
  | nil =>
    cases other with
    | nil => simpa using same
    | cons next other =>
      obtain ⟨rfl, -⟩ : ' ' = next ∧ rest = other ++ ' ' :: further := by simpa using same
      exact absurd List.mem_cons_self otherWhole
  | cons char word ih =>
    cases other with
    | nil =>
      obtain ⟨rfl, -⟩ : char = ' ' ∧ word ++ ' ' :: rest = further := by simpa using same
      exact absurd List.mem_cons_self whole
    | cons next other =>
      obtain ⟨rfl, tails⟩ : char = next ∧ word ++ ' ' :: rest = other ++ ' ' :: further := by
        simpa using same
      obtain ⟨rfl, ends⟩ := ih (mt (List.mem_cons_of_mem _) whole)
        (mt (List.mem_cons_of_mem _) otherWhole) tails
      exact ⟨rfl, ends⟩

/-- Words without spaces can be read off a text one by one. -/
theorem isPrefix_of_spaced {words others : List String}
    (whole : ∀ word ∈ words, ' ' ∉ word.toList) (otherWhole : ∀ word ∈ others, ' ' ∉ word.toList)
    (opens : spaced words <+: spaced others) : words <+: others := by
  induction words generalizing others with
  | nil => exact List.nil_prefix
  | cons word words ih =>
    rw [List.forall_mem_cons] at whole
    obtain ⟨rest, same⟩ := opens
    cases others with
    | nil => simp [spaced] at same
    | cons other others =>
      rw [List.forall_mem_cons] at otherWhole
      have split : word.toList ++ ' ' :: (spaced words ++ rest) =
          other.toList ++ ' ' :: spaced others := by
        simpa [spaced] using same
      obtain ⟨first, tails⟩ := eq_of_append_space whole.1 otherWhole.1 split
      rw [String.toList_inj.1 first, List.cons_prefix_cons]
      exact ⟨rfl, ih whole.2 otherWhole.2 ⟨rest, tails⟩⟩

/-- The words of a kind are words, also where one of them is a number. -/
theorem Kind.space_notMem (kind : Kind) : ∀ word ∈ kind.words, ' ' ∉ word.toList := by
  have digits : ∀ number : Nat, ' ' ∉ (toString number).toList := by
    intro number member
    rw [Nat.toString_eq_repr, Nat.toList_repr] at member
    exact absurd (Nat.isDigit_of_mem_toDigits (by decide) (by decide) member) (by decide)
  cases kind with
  | aggregateWritten number | projectionCompiled number =>
    exact List.forall_mem_cons.2 ⟨by decide, List.forall_mem_cons.2 ⟨digits number, by decide⟩⟩
  | _ => decide

/-- No kind has words that another one begins with. -/
theorem Kind.eq_of_words {kind other : Kind} (opens : kind.words <+: other.words) :
    kind = other := by
  have numbers : ∀ number further : Nat, number.repr = further.repr ↔ number = further := by
    intro number further
    refine ⟨fun same => ?_, congrArg Nat.repr⟩
    have digits := congrArg (fun text => Nat.ofDigitChars 10 text.toList 0) same
    simpa only [Nat.toList_repr, Nat.ofDigitChars_ten_toDigits] using digits
  cases kind <;> cases other <;> simp_all [words, List.cons_prefix_cons]

/-- A text opens with what its beginning opens with. -/
theorem Kind.Opens.append {kind : Kind} {text : String} (opens : kind.Opens text) (rest : String) :
    kind.Opens (text ++ rest) := by
  rw [Opens, String.toList_append]
  exact opens.trans (List.prefix_append _ _)

/-- A number among the words of a kind is written like the others. -/
theorem spaced_isPrefix_counted (number : Nat) (text : String) {words : List String}
    (opens : spaced words <+: text.toList) :
    spaced ("Compiled" :: toString number :: words) <+:
      ("Compiled " ++ toString number ++ (" " ++ text)).toList := by
  have first : "Compiled ".toList = "Compiled".toList ++ [' '] := by decide
  have space : " ".toList = [' '] := by decide
  rw [String.toList_append, String.toList_append, String.toList_append, first, space]
  simpa only [spaced, List.flatMap_cons, List.append_assoc, List.prefix_append_right_inj]
    using opens

/-- The message of a record opens with the words of its kind. -/
theorem opens_own (event : Event) : event.kind.Opens event.message := by
  cases event with
  | tableResolved table identity =>
    have words : Kind.Opens .tableResolved "Resolved table " := by decide
    exact ((words.append table.quoted).append " to identity ").append (Text.quoted identity)
  | aggregateWritten items table =>
    have words : Kind.Opens (.aggregateWritten items)
        s!"Compiled {items} aggregate fragments for " :=
      spaced_isPrefix_counted items "aggregate fragments for " (by decide)
    exact words.append (Text.quotedOrNone table)
  | aggregateCompiled identity =>
    have words : Kind.Opens .aggregateCompiled "Compiled aggregate SELECT for " := by decide
    exact words.append (Text.quoted identity)
  | collectionSkipped name identity =>
    have words : Kind.Opens .collectionSkipped "Skipping collection attribute " := by decide
    exact ((words.append (Text.quoted name)).append " on ").append (Text.quoted identity)
  | joinLeft name strategy =>
    have words : Kind.Opens .joinLeft "Leaving " := by decide
    exact (((words.append (Text.quoted name)).append " to downstream join logic (strategy ").append
      strategy.name).append ")"
  | joinInlined child name table =>
    have words : Kind.Opens .joinInlined "Inlining " := by decide
    exact ((((words.append (Text.quoted child)).append " columns into ").append
      (Text.quoted name)).append " as ").append (Text.quoted table)
  | projectionCompiled columns identity =>
    have words : Kind.Opens (.projectionCompiled columns)
        s!"Compiled {columns} projected columns for " :=
      spaced_isPrefix_counted columns "projected columns for " (by decide)
    exact words.append (Text.quoted identity)

/-- **A message tells the kind of its record.** It opens with the words of that kind, and with those
of no other. -/
theorem opens_iff {event : Event} {kind : Kind} :
    kind.Opens event.message ↔ event.kind = kind := by
  constructor
  · intro opens
    rcases List.prefix_or_prefix_of_prefix opens event.opens_own with shorter | longer
    · exact (Kind.eq_of_words
        (isPrefix_of_spaced kind.space_notMem event.kind.space_notMem shorter)).symm
    · exact Kind.eq_of_words
        (isPrefix_of_spaced event.kind.space_notMem kind.space_notMem longer)
  · rintro rfl
    exact event.opens_own

end SelectClause.Event

import SelectClause.Failure
import SelectClause.Text.Delimited
import SelectClause.Validation.Field

/-! # Options of the compiler

The options fix how names and aliases are written. `Options.check` reads them from a record in
either spelling of their fields, and `Options.ofValue` from whatever a caller hands over.

`identityColumn_of_not_mem` says that a name without a rename stands for itself.
-/

namespace SelectClause

/-- How a SELECT clause is written. -/
structure Options where
  escapeCharacter : Char := '"'
  /-- Whether sums and averages are cast to floating point. -/
  cast : Bool := false
  /-- The columns that stand for attributes under a name of their own, such as the record id. -/
  identityColumns : List (String × String) := [("id", "@rid")]
  wildcard : String := "*"
  /-- What stands between the two parts of a composite alias. -/
  aliasSeparator : String := "___"
  /-- What is put in front of the alias of a joined table. -/
  aliasTableMark : String := "__"
  deriving DecidableEq, Repr

namespace Options

instance : Inhabited Options := ⟨{}⟩

/-- The field for the character that names are put between. -/
def escapeCharacterField : FieldName := ⟨"escape_character", "escapeCharacter"⟩

/-- The field that tells whether sums and averages are cast. -/
def castField : FieldName := ⟨"cast", "cast"⟩

/-- The field for the names that stand for identity columns. -/
def identityColumnsField : FieldName := ⟨"identity_columns", "identityColumns"⟩

/-- The field for the name of the column that stands for all columns. -/
def wildcardField : FieldName := ⟨"wildcard", "wildcard"⟩

/-- The field for the text between the two parts of a composite alias. -/
def aliasSeparatorField : FieldName := ⟨"alias_separator", "aliasSeparator"⟩

/-- The field for what is put in front of the alias of a joined table. -/
def aliasTableMarkField : FieldName := ⟨"alias_table_prefix", "aliasTablePrefix"⟩

/-- A text of one character. -/
def checkEscapeCharacter (value : Value) : Checked Char :=
  (Check.text value).andThen fun content =>
    match content.toList with
    | [char] => .ok char
    | _ => .fault .escapeLength

/-- A list of two texts. -/
def checkPair : Check (String × String)
  | .list values =>
      let item (position : Nat) : Checked String :=
        match values[position]? with
        | some value => (Check.text value).under (.index position)
        | none => (Checked.fault .fieldMissing).under (.index position)
      if values.length ≤ 2 then Prod.mk <$> item 0 <*> item 1
      else .fault (.pairTooLong values.length)
  | _ => .fault .notSequence

/-- The entries of a dictionary in the order of their keys. -/
def sortedByKey {α : Type} (entries : List (String × α)) : List (String × α) :=
  entries.mergeSort fun first second => first.1 ≤ second.1

/-- A record of renames, taken in the order of its keys, or a list of pairs, taken as it stands. -/
def checkIdentityColumns (value : Value) : Checked (List (String × String)) :=
  match value.fields? with
  | some fields =>
      Check.items checkPair <|
        (sortedByKey fields.toList).map fun entry => .list [.text entry.1, entry.2]
  | none => Check.sequence checkPair value

/-- Reads options from the fields of a record. What is left out has its preset value. -/
def ofFields (fields : Dict Value) : Checked Options :=
  let preset : Options := {}
  Options.mk
    <$> escapeCharacterField.orElse checkEscapeCharacter preset.escapeCharacter fields
    <*> castField.orElse Check.truth preset.cast fields
    <*> identityColumnsField.orElse checkIdentityColumns preset.identityColumns fields
    <*> wildcardField.orElse Check.text preset.wildcard fields
    <*> aliasSeparatorField.orElse Check.text preset.aliasSeparator fields
    <*> aliasTableMarkField.orElse Check.text preset.aliasTableMark fields

/-- Reads options from a record. -/
def check : Check Options := Check.record .options ofFields

/-- Reads options from whatever a caller hands over; the absent value stands for the defaults. -/
def ofValue (value : Value) : Except Failure Options :=
  if value.isNull then .ok {}
  else
    match Mapping.ofValue value with
    | .error fault => .error (.noMapping fault)
    | .ok mapping => (ofFields mapping.fields).orInvalid .options

/-- The column that stands for an attribute: the last rename of the name, or else the name. -/
def identityColumn (options : Options) (name : String) : String :=
  (options.identityColumns.reverse.lookup name).getD name

/-- A name between delimiters, with the delimiters inside it doubled. -/
def escape (options : Options) (name : Option String) : String :=
  Text.delimited (String.singleton options.escapeCharacter) name

/-- An alias between delimiters, as it stands. -/
def quoteAlias (options : Options) (aliasText : String) : String :=
  let delimiter := String.singleton options.escapeCharacter
  delimiter ++ aliasText ++ delimiter

/-- A name without a rename stands for itself. -/
theorem identityColumn_of_not_mem {options : Options} {name : String}
    (absent : name ∉ options.identityColumns.map Prod.fst) :
    options.identityColumn name = name := by
  have missing : options.identityColumns.reverse.lookup name = none := by
    rw [List.lookup_eq_none_iff]
    intro entry member
    rw [bne_iff_ne]
    intro same
    exact absent (List.mem_map.2 ⟨entry, List.mem_reverse.1 member, same.symm⟩)
  rw [identityColumn, missing, Option.getD_none]

end Options

end SelectClause

import SelectClause.Validation.Checked

/-! # Checks for the kinds of field

Each check reads one kind of value: texts, truth values, sequences, dictionaries, and lists of
names, where a single name may stand for the list that holds it.
-/

namespace SelectClause.Check

variable {α : Type}

/-- A text, which no other value is taken for. -/
def text : Check String
  | .text content => .ok content
  | _ => .fault .notText

/-- The absent value, or else what another check reads. -/
def nullable (check : Check α) : Check (Option α)
  | .null => .ok none
  | value => some <$> check value

/-- Any value, as it is. -/
def anything : Check Value := .ok

/-- The texts that stand for false, in lower case. -/
def falseWords : List String := ["0", "off", "f", "false", "n", "no"]

/-- The texts that stand for true, in lower case. -/
def trueWords : List String := ["1", "on", "t", "true", "y", "yes"]

/-- A truth value, one of the words that stand for one (upper and lower case ASCII letters are not
told apart), or the number zero or one. -/
def truth : Check Bool
  | .bool truth => .ok truth
  | .text content =>
      let word := String.ofList (content.toList.map Char.toLower)
      if word ∈ falseWords then .ok false
      else if word ∈ trueWords then .ok true
      else .fault .unreadableTruth
  | value =>
      match value.wholeNumber? with
      | some 0 => .ok false
      | some 1 => .ok true
      | some number => .fault (if Value.isWord number then .unreadableTruth else .notTruth)
      | none => .fault .notTruth

/-- The items of a list, each read by one check. -/
def items (check : Check α) (values : List Value) : Checked (List α) :=
  values.zipIdx.mapA fun item => (check item.1).under (.index item.2)

/-- A list whose items are read by one check. -/
def sequence (check : Check α) : Check (List α)
  | .list values => items check values
  | _ => .fault .notSequence

/-- A dictionary whose values are read by one check. -/
def dictionary (check : Check α) (value : Value) : Checked (Dict α) :=
  match value.fields? with
  | none => .fault .notDictionary
  | some fields =>
      Dict.ofList <$> fields.toList.mapA fun entry =>
        (entry.1, ·) <$> (check entry.2).under (.key entry.1)

/-- A list of names. One name stands for itself alone, and the absent value for no names. -/
def names : Check (List String)
  | .null => .ok []
  | .text name => .ok [name]
  | value => sequence text value

/-- A record, whose fields are read by a further check. -/
def record (model : Model) (read : Dict Value → Checked α) (value : Value) : Checked α :=
  match value.fields? with
  | none => .fault (.notRecord model)
  | some fields => read fields

/-- A record is read by its fields. -/
theorem record_ofDict (model : Model) (read : Dict Value → Checked α) (fields : Dict Value) :
    record model read (.ofDict fields) = read fields := by
  rw [record, Value.fields?_ofDict]

/-- Nothing but the absent value is absent. -/
theorem nullable_of_isNull_eq_false (check : Check α) {value : Value}
    (present : value.isNull = false) : nullable check value = some <$> check value := by
  cases value <;> simp_all [nullable, Value.isNull]

end SelectClause.Check

import SelectClause.Text.Quoted

/-! # References to tables and entities

A caller refers to a table or an entity by a name. The reference may also be absent, which matches
the entities that have no table, or a number, which matches nothing.
-/

namespace SelectClause

/-- What a caller gives as the name of a table or an entity. -/
inductive Reference where
  | absent
  | name (content : String)
  | number (value : Int)
  deriving DecidableEq, Repr, Inhabited

namespace Reference

/-- The reference by a name that may be absent. -/
def ofName? : Option String → Reference
  | some content => .name content
  | none => .absent

/-- The reference as error messages show it. -/
def shown : Reference → String
  | .absent => "None"
  | .name content => content
  | .number value => toString value

/-- The reference as events show it, a name between quotes. -/
def quoted : Reference → String
  | .name content => Text.quoted content
  | other => other.shown

/-- Two names that may be absent make one reference only if they are one name. -/
theorem ofName?_injective {first second : Option String} (same : ofName? first = ofName? second) :
    first = second := by
  cases first <;> cases second <;> simp_all [ofName?]

end Reference

end SelectClause

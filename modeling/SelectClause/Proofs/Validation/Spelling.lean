import Mathlib.Data.List.Pairwise
import SelectClause.Proofs.Validation.Given

/-! # The spellings of fields

A field is looked up under its spellings and under no other key (`find_congr`). Where no two fields
of a record have a spelling in common (`Apart`), a field that was left out can be supplied
(`supply`) without a change to the other fields (`find_supply_of_apart`) or to the keys that are no
field's (`others_supply`).
-/

namespace SelectClause

namespace FieldName

/-- A key is one of the spellings of a field. -/
def Spells (name : FieldName) (key : String) : Prop := key = name.preferred ∨ key = name.plain

instance (name : FieldName) (key : String) : Decidable (name.Spells key) :=
  inferInstanceAs (Decidable (key = name.preferred ∨ key = name.plain))

/-- Two fields have no spelling in common. -/
structure Apart (name other : FieldName) : Prop where
  preferred : name.preferred ≠ other.preferred
  preferredPlain : name.preferred ≠ other.plain
  plainPreferred : name.plain ≠ other.preferred
  plain : name.plain ≠ other.plain

variable {name other : FieldName} {fields others : Dict Value} {key : String} {value : Value}

instance : Decidable (name.Apart other) :=
  decidable_of_iff
    (name.preferred ≠ other.preferred ∧ name.preferred ≠ other.plain ∧
      name.plain ≠ other.preferred ∧ name.plain ≠ other.plain)
    ⟨fun ⟨preferred, preferredPlain, plainPreferred, plain⟩ =>
      ⟨preferred, preferredPlain, plainPreferred, plain⟩,
    fun apart => ⟨apart.preferred, apart.preferredPlain, apart.plainPreferred, apart.plain⟩⟩

instance : Std.Symm Apart where
  symm _ _ apart := ⟨apart.preferred.symm, apart.plainPreferred.symm, apart.preferredPlain.symm,
    apart.plain.symm⟩

/-- Fields that are apart share no spelling. -/
theorem Apart.not_spells (apart : name.Apart other) (spells : name.Spells key) :
    ¬ other.Spells key := by
  rcases spells with rfl | rfl
  · rintro (same | same)
    · exact apart.preferred same
    · exact apart.preferredPlain same
  · rintro (same | same)
    · exact apart.plainPreferred same
    · exact apart.plain same

/-- Different fields of a record whose fields are apart are apart. -/
theorem apart_of_mem {names : List FieldName} (apart : names.Pairwise Apart) (member : name ∈ names)
    (otherMember : other ∈ names) (different : name ≠ other) : name.Apart other :=
  apart.forall member otherMember different

/-- A field is found in its preferred spelling, or else in its plain one. -/
theorem find_eq_some_iff :
    name.find fields = some (key, value) ↔
      (key = name.preferred ∧ fields.get? name.preferred = some value) ∨
        (fields.get? name.preferred = none ∧ key = name.plain ∧
          fields.get? name.plain = some value) := by
  rw [find]
  cases fields.get? name.preferred with
  | some held => simp [eq_comm]
  | none => cases fields.get? name.plain <;> simp [eq_comm]

/-- A field passes its check if it is left out, or if the value that counts passes. -/
theorem given_eq_ok_iff_find {α : Type} {check : Check α} {result : Option α} :
    name.given check fields = .ok result ↔
      (name.find fields = none ∧ result = none) ∨
        ∃ key value read, name.find fields = some (key, value) ∧ check value = .ok read ∧
          result = some read := by
  rw [given]
  cases name.find fields with
  | none => simp [eq_comm]
  | some field =>
    obtain ⟨key, value⟩ := field
    simp only [Checked.map_eq_ok_iff, Checked.under_eq_ok_iff, reduceCtorEq, false_and, false_or]
    constructor
    · rintro ⟨read, passed, rfl⟩
      exact ⟨key, value, read, rfl, passed, rfl⟩
    · rintro ⟨_, _, read, found, passed, rfl⟩
      cases found
      exact ⟨read, passed, rfl⟩

/-- Only the spellings of a field are looked up. -/
theorem find_congr (same : ∀ key, name.Spells key → fields.get? key = others.get? key) :
    name.find fields = name.find others := by
  rw [find, find, same _ (.inl rfl), same _ (.inr rfl)]

/-- What is given depends on what is found. -/
theorem given_congr {α : Type} (check : Check α) (same : name.find fields = name.find others) :
    name.given check fields = name.given check others := by
  rw [given, given, same]

/-- A field that is given in its preferred spelling is found there. -/
theorem find_insert (name : FieldName) (fields : Dict Value) (value : Value) :
    name.find (fields.insert name.preferred value) = some (name.preferred, value) :=
  find_of_preferred (by simp [Dict.get?_insert])

/-- Writing one field leaves the others as they are. -/
theorem find_insert_of_apart (apart : name.Apart other) (fields : Dict Value) (value : Value) :
    other.find (fields.insert name.preferred value) = other.find fields := by
  refine find_congr fun key spells => ?_
  have different : key ≠ name.preferred := by
    rintro rfl
    exact apart.not_spells (.inl rfl) spells
  rw [Dict.get?_insert, if_neg different]

/-- The unknown fields are the entries that none of the names is found as. -/
theorem toList_others (names : List FieldName) (fields : Dict Value) :
    (FieldName.others names fields).toList = fields.toList.filter fun entry =>
      !names.any fun name => (name.find fields).any (·.1 == entry.1) := rfl

/-- Giving a value to a field that was left out leaves the keys that are no field's as they are. -/
theorem others_insert {names : List FieldName} (apart : names.Pairwise Apart)
    (member : name ∈ names) (absent : name.find fields = none) (value : Value) :
    FieldName.others names (fields.insert name.preferred value) =
      FieldName.others names fields := by
  have new : name.preferred ∉ fields.toList.map Prod.fst :=
    Dict.get?_eq_none_iff.1 (find_eq_none.1 absent).1
  have kept : ∀ key ∈ fields.toList.map Prod.fst, ∀ other ∈ names,
      (other.find (fields.insert name.preferred value)).any (·.1 == key) =
        (other.find fields).any (·.1 == key) := by
    intro key present other otherMember
    by_cases same : other = name
    · subst same
      have different : other.preferred ≠ key := fun equal => new (equal ▸ present)
      simp [find_insert, absent, different]
    · rw [find_insert_of_apart (apart_of_mem apart member otherMember (Ne.symm same))]
  have dropped : names.any (fun other =>
      (other.find (fields.insert name.preferred value)).any (·.1 == name.preferred)) = true :=
    List.any_eq_true.2 ⟨name, member, by simp [find_insert]⟩
  apply Dict.ext
  rw [toList_others, toList_others, Dict.toList_insert, Dict.insertEntry_of_not_mem value new,
    List.filter_append, List.filter_cons_of_neg (by simp [dropped]), List.filter_nil,
    List.append_nil]
  refine List.filter_congr fun entry present => congrArg not (Bool.eq_iff_iff.2 ?_)
  rw [List.any_eq_true, List.any_eq_true]
  refine exists_congr fun other => and_congr_right fun otherMember => ?_
  rw [kept entry.1 (List.mem_map_of_mem present) other otherMember]

/-- Gives a field a value, in its preferred spelling, where it was left out. -/
def supply (name : FieldName) (value : Value) (fields : Dict Value) : Dict Value :=
  if (name.find fields).isSome then fields else fields.insert name.preferred value

/-- A supplied field is found, as it was or with the supplied value. -/
theorem find_supply (name : FieldName) (value : Value) (fields : Dict Value) :
    name.find (name.supply value fields) =
      some ((name.find fields).getD (name.preferred, value)) := by
  rw [supply]
  cases found : name.find fields with
  | some field => simp [found]
  | none => simp [find_insert]

/-- Supplying one field leaves the others as they are. -/
theorem find_supply_of_apart (apart : name.Apart other) (value : Value) (fields : Dict Value) :
    other.find (name.supply value fields) = other.find fields := by
  rw [supply]
  split
  · rfl
  · exact find_insert_of_apart apart fields value

/-- Supplying one of the names leaves the other fields as they are. -/
theorem others_supply {names : List FieldName} (apart : names.Pairwise Apart)
    (member : name ∈ names) (value : Value) (fields : Dict Value) :
    FieldName.others names (name.supply value fields) = FieldName.others names fields := by
  rw [supply]
  split
  · rfl
  · rename_i missing
    exact others_insert apart member (by simpa using missing) value

end FieldName

end SelectClause

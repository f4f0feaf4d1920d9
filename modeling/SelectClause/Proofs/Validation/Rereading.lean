import Mathlib.Data.List.Nodup
import SelectClause.Proofs.Validation.Spelling
import SelectClause.Validation.Written

/-! # Reading what was written

A record that is written back has its given fields in the preferred spelling and its unknown fields
as they were. Reading it again finds the same fields (`Separate.given_toDict`) and leaves the same
ones over (`Separate.others_toDict`), as long as no unknown field passes for a known one
(`Separate`). What was read from any record is separate (`separate_of_others`): a known field that
was given in its preferred spelling may leave one in the plain spelling among the unknown ones, and
one that was not given leaves none.
-/

namespace SelectClause

namespace Written

variable {written : Written}

/-- No two known fields share a spelling, and no unknown field passes for a known one. -/
structure Separate (written : Written) : Prop where
  apart : (written.known.map Prod.fst).Pairwise FieldName.Apart
  preferred : ∀ field ∈ written.known, field.1.preferred ∉ written.unknown.keys
  plain : ∀ field ∈ written.known, field.2 = none → field.1.plain ∉ written.unknown.keys

/-- The given fields are the known ones with a value. -/
theorem mem_given_iff {name : FieldName} {value : Value} :
    (name, value) ∈ written.given ↔ (name, some value) ∈ written.known := by
  rw [given, List.mem_filterMap]
  constructor
  · rintro ⟨⟨other, _ | held⟩, member, same⟩
    · cases same
    · cases same
      exact member
  · intro member
    exact ⟨_, member, rfl⟩

/-- Known fields that are not apart are one field. -/
theorem Separate.eq_of_not_apart (separate : written.Separate)
    {field other : FieldName × Option Value} (member : field ∈ written.known)
    (otherMember : other ∈ written.known)
    (shared : ¬ field.1.Apart other.1) : field = other := by
  have distinct : (written.known.map Prod.fst).Nodup := by
    refine separate.apart.imp ?_
    rintro name _ apart rfl
    exact apart.preferred rfl
  refine List.inj_on_of_nodup_map distinct member otherMember ?_
  by_contra different
  exact shared (FieldName.apart_of_mem separate.apart (List.mem_map_of_mem member)
    (List.mem_map_of_mem otherMember) different)

/-- Nothing is lost or merged in writing. -/
theorem Separate.toList_toDict (separate : written.Separate) :
    written.toDict.toList =
      written.given.map (fun field => (field.1.preferred, field.2)) ++ written.unknown.toList := by
  refine Dict.toList_ofList ?_
  rw [List.map_append, List.map_map]
  refine List.nodup_append.2 ⟨?_, written.unknown.distinct, ?_⟩
  · have apart : written.known.Pairwise fun field other => field.1.Apart other.1 :=
      List.pairwise_map.1 separate.apart
    refine List.pairwise_map.2 ?_
    rw [given, List.pairwise_filterMap]
    refine apart.imp ?_
    rintro ⟨name, value⟩ ⟨other, held⟩ apart field written later rest
    obtain ⟨read, -, rfl⟩ := Option.map_eq_some_iff.1 written
    obtain ⟨readLater, -, rfl⟩ := Option.map_eq_some_iff.1 rest
    exact apart.preferred
  · intro key member unknown present
    obtain ⟨⟨name, value⟩, field, rfl⟩ := List.mem_map.1 member
    rintro rfl
    exact separate.preferred _ (mem_given_iff.1 field) present

/-- A record is written with the preferred spellings of the given fields and the unknown keys. -/
theorem Separate.mem_keys_toDict (separate : written.Separate) {key : String} :
    key ∈ written.toDict.keys ↔
      (∃ name value, (name, some value) ∈ written.known ∧ name.preferred = key) ∨
        key ∈ written.unknown.keys := by
  rw [Dict.keys, separate.toList_toDict, List.map_append, List.mem_append, List.map_map]
  refine or_congr_left ?_
  rw [List.mem_map]
  constructor
  · rintro ⟨⟨name, value⟩, member, same⟩
    exact ⟨name, value, mem_given_iff.1 member, same⟩
  · rintro ⟨name, value, member, same⟩
    exact ⟨(name, value), mem_given_iff.2 member, same⟩

/-- A known field is found in its preferred spelling if it was given, and not at all else. -/
theorem Separate.find_toDict (separate : written.Separate) {name : FieldName}
    {value : Option Value} (member : (name, value) ∈ written.known) :
    name.find written.toDict = value.map (name.preferred, ·) := by
  cases value with
  | some held =>
    refine FieldName.find_of_preferred (Dict.get?_eq_some_iff.2 ?_)
    rw [separate.toList_toDict, List.mem_append]
    exact .inl (List.mem_map.2 ⟨(name, held), mem_given_iff.2 member, rfl⟩)
  | none =>
    -- A key of this field would be that of a field that was given, which then is this one.
    have absent : ∀ key, name.Spells key → key ∉ written.unknown.keys →
        written.toDict.get? key = none := by
      intro key spells unknown
      rw [Dict.get?_eq_none_iff, separate.mem_keys_toDict]
      rintro (⟨other, held, otherMember, rfl⟩ | present)
      · have same := separate.eq_of_not_apart otherMember member fun apart =>
          apart.not_spells (.inl rfl) spells
        cases same
      · exact unknown present
    exact FieldName.find_eq_none.2 ⟨absent _ (.inl rfl) (separate.preferred _ member),
      absent _ (.inr rfl) (separate.plain _ member rfl)⟩

/-- What is left over of a written record are its unknown fields. -/
theorem Separate.others_toDict (separate : written.Separate) :
    FieldName.others (written.known.map Prod.fst) written.toDict = written.unknown := by
  apply Dict.ext
  rw [FieldName.toList_others, separate.toList_toDict, List.filter_append,
    List.filter_eq_nil_iff.2, List.nil_append, List.filter_eq_self.2]
  · intro entry member
    rw [Bool.not_eq_true', List.any_eq_false]
    intro name known
    obtain ⟨⟨name, value⟩, field, rfl⟩ := List.mem_map.1 known
    have different : name.preferred ≠ entry.1 := fun same =>
      separate.preferred _ field (same ▸ List.mem_map_of_mem member)
    cases value <;> simp [separate.find_toDict field, different]
  · intro entry member
    obtain ⟨⟨name, value⟩, field, rfl⟩ := List.mem_map.1 member
    have known := mem_given_iff.1 field
    have dropped : (written.known.map Prod.fst).any (fun other =>
        (other.find written.toDict).any (·.1 == name.preferred)) = true :=
      List.any_eq_true.2 ⟨name, List.mem_map.2 ⟨_, known, rfl⟩, by
        simp [separate.find_toDict known]⟩
    simp [dropped]

/-- A field that was left out of what is written was not found. -/
theorem find_eq_none_of_map {α : Type} {name : FieldName} {check : Check α} {fields : Dict Value}
    {write : α → Value} {result : Option α} (read : name.given check fields = .ok result)
    (missing : result.map write = none) : name.find fields = none := by
  rcases FieldName.given_eq_ok_iff_find.1 read with ⟨absent, -⟩ | ⟨key, value, read, -, -, rfl⟩
  · exact absent
  · cases missing

/-- A field that is read back from how it is written is read again. -/
theorem Separate.given_toDict (separate : written.Separate) {α : Type} {name : FieldName}
    {check : Check α} {write : α → Value} {result : Option α}
    (member : (name, result.map write) ∈ written.known)
    (reads : ∀ value, result = some value → check (write value) = .ok value) :
    name.given check written.toDict = .ok result := by
  rw [FieldName.given, separate.find_toDict member]
  cases result with
  | none => rfl
  | some value => simp [reads value rfl]

/-- The known fields that were found in a record and the fields that were left over are
separate. -/
theorem separate_of_others {fields : Dict Value}
    (apart : (written.known.map Prod.fst).Pairwise FieldName.Apart)
    (unknown : written.unknown = FieldName.others (written.known.map Prod.fst) fields)
    (given : ∀ field ∈ written.known, field.2 = none → field.1.find fields = none) :
    written.Separate := by
  have leftOver : ∀ key ∈ written.unknown.keys, key ∈ fields.keys ∧
      ∀ field ∈ written.known, ∀ value, field.1.find fields ≠ some (key, value) := by
    intro key present
    rw [unknown] at present
    obtain ⟨entry, member, rfl⟩ := List.mem_map.1 present
    obtain ⟨held, kept⟩ := List.mem_filter.1 member
    refine ⟨List.mem_map_of_mem held, fun field known value found => ?_⟩
    rw [Bool.not_eq_true', List.any_eq_false] at kept
    exact kept field.1 (List.mem_map_of_mem known) (by simp [found])
  refine ⟨apart, ?_, ?_⟩
  · intro field known present
    obtain ⟨held, notFound⟩ := leftOver _ present
    cases value : fields.get? field.1.preferred with
    | none => exact Dict.get?_eq_none_iff.1 value held
    | some read => exact notFound field known read (FieldName.find_of_preferred value)
  · intro field known missing present
    exact Dict.get?_eq_none_iff.1 (FieldName.find_eq_none.1 (given field known missing)).2
      (leftOver _ present).1

end Written

end SelectClause

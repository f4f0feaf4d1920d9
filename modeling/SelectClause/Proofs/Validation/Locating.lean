import Mathlib.Data.List.Nodup
import SelectClause.Proofs.Validation.Spelling

/-! # The places that issues name

The path of an issue leads from the value that was checked down to a place in it (`Value.at?`).
Where a field is missing, it leads to the record that has no such key (`Issue.LiesIn`). A check
locates its issues if they all lie in the value in this way, no two of them at one place
(`Located`). Checks that are made of checks locate their issues because the parts of a value are
told apart by the first step to them: the items of a list by their position, the values of a
dictionary by their key (`Checked.Locates.mapA`), and the fields of a record by the spellings that
they are found in (`Checked.Locates.seq_fields`).
-/

namespace SelectClause

namespace Value

/-- The value that one step leads to. -/
def step? : Value → Step → Option Value
  | value, .key name => value.fields?.bind (·.get? name)
  | .list items, .index position => if 0 ≤ position then items[position.toNat]? else none
  | _, .index _ => none

/-- The value that a path leads to. -/
def at? : Value → Path → Option Value
  | value, [] => some value
  | value, step :: path => (value.step? step).bind (·.at? path)

/-- A key leads to the value that a record holds under it. -/
theorem step?_key {value inner : Value} {fields : Dict Value} {name : String}
    (record : value.fields? = some fields) (held : fields.get? name = some inner) :
    value.step? (.key name) = some inner := by
  simp [step?, record, held]

/-- A position leads to the item that a list has there. -/
theorem step?_index {items : List Value} {inner : Value} {position : Nat}
    (held : items[position]? = some inner) :
    (Value.list items).step? (.index position) = some inner := by
  simp [step?, held]

end Value

/-- An issue names a place of a value, or a key that a record in the value does not have. -/
inductive Issue.LiesIn (value : Value) (issue : Issue) : Prop where
  | missing {place : Path} {record : Value} {fields : Dict Value} {name : String}
      (fault : issue.fault = .fieldMissing) (path : issue.path = place ++ [.key name])
      (leads : value.at? place = some record) (held : record.fields? = some fields)
      (absent : name ∉ fields.keys) : LiesIn value issue
  | present {inner : Value} (fault : issue.fault ≠ .fieldMissing)
      (leads : value.at? issue.path = some inner) : LiesIn value issue

/-- An issue of a part of a value lies in the whole of it. -/
theorem Issue.LiesIn.under {value inner : Value} {step : Step} {issue : Issue}
    (leads : value.step? step = some inner) (lies : issue.LiesIn inner) :
    (issue.under step).LiesIn value := by
  cases lies with
  | @missing place record fields name fault path inside held absent =>
    have outer : (issue.under step).path = (step :: place) ++ [.key name] := by
      rw [Issue.under, path, List.cons_append]
    have whole : value.at? (step :: place) = some record := by
      rw [Value.at?, leads, Option.bind_some, inside]
    exact .missing fault outer whole held absent
  | @present part fault inside =>
    have whole : value.at? (issue.under step).path = some part := by
      rw [Issue.under, Value.at?, leads, Option.bind_some, inside]
    exact .present fault whole

/-- A fault is known as a missing field just if it is one. -/
theorem Fault.code_eq_missing_iff {fault : Fault} :
    fault.code = "missing" ↔ fault = .fieldMissing := by
  cases fault <;> simp [code]

/-- The issues of a value: there are some, they lie in the value at places of one kind, and no two
of them at the same place. -/
structure Located (value : Value) (within : Path → Prop) (issues : List Issue) : Prop where
  nonempty : issues ≠ []
  lies : ∀ issue ∈ issues, issue.LiesIn value
  within : ∀ issue ∈ issues, within issue.path
  distinct : (issues.map Issue.path).Nodup

/-- The places behind a first step. -/
def Behind (step : Step) (path : Path) : Prop := path.head? = some step

/-- The places behind one of the spellings of some fields. -/
def BehindFields (names : List FieldName) (path : Path) : Prop :=
  ∃ name ∈ names, ∃ key, name.Spells key ∧ Behind (.key key) path

namespace Checked

variable {α β : Type} {value inner : Value} {within : Path → Prop} {outcome : Checked α}

/-- What an outcome finds wrong with a value is located in it. -/
def Locates (outcome : Checked α) (value : Value) (within : Path → Prop) : Prop :=
  ∀ issues, outcome = .failed issues → Located value within issues

namespace Locates

theorem ok (result : α) : (Checked.ok result).Locates value within := by
  intro issues impossible
  cases impossible

/-- A value that is at fault as a whole is named by the empty path. -/
theorem fault {cause : Fault} (present : cause ≠ .fieldMissing) (here : within []) :
    (Checked.fault cause : Checked α).Locates value within := by
  rintro issues failed
  cases failed
  exact {
    nonempty := List.cons_ne_nil _ _
    lies := by simpa using Issue.LiesIn.present present rfl
    within := by simpa using here
    distinct := List.nodup_singleton _ }

theorem mono {other : Path → Prop} (locates : outcome.Locates value within)
    (weaker : ∀ path, within path → other path) : outcome.Locates value other := by
  intro issues failed
  have located := locates issues failed
  exact { located with within := fun issue member => weaker _ (located.within issue member) }

theorem map (change : α → β) (locates : outcome.Locates value within) :
    (change <$> outcome).Locates value within := by
  intro issues failed
  cases outcome with
  | ok result => cases failed
  | failed causes =>
    cases failed
    exact locates _ rfl

/-- The issues of a part of a value, seen from the whole of it. -/
theorem under {step : Step} (locates : outcome.Locates inner within)
    (leads : value.step? step = some inner) :
    (outcome.under step).Locates value (Behind step) := by
  intro issues failed
  cases outcome with
  | ok result => cases failed
  | failed causes =>
    cases failed
    have located := locates causes rfl
    refine ⟨by simpa using located.nonempty, ?_, ?_, ?_⟩
    · intro issue member
      obtain ⟨cause, among, rfl⟩ := List.mem_map.1 member
      exact (located.lies cause among).under leads
    · intro issue member
      obtain ⟨cause, -, rfl⟩ := List.mem_map.1 member
      rfl
    · have paths : (causes.map (Issue.under step)).map Issue.path =
          (causes.map Issue.path).map (List.cons step) := by
        simp [Issue.under, Function.comp_def]
      rw [paths]
      exact located.distinct.map List.cons_injective

/-- The issues of both sides are located if the two sides look at different places. -/
theorem seq {other : Path → Prop} {change : Checked (α → β)}
    (first : change.Locates value within) (second : outcome.Locates value other)
    (apart : ∀ path, within path → ¬ other path) :
    (change <*> outcome).Locates value fun path => within path ∨ other path := by
  intro issues failed
  cases change with
  | ok function =>
    cases outcome with
    | ok result => cases failed
    | failed causes =>
      cases failed
      exact second.mono (fun _ => .inr) _ rfl
  | failed earlier =>
    cases outcome with
    | ok result =>
      cases failed
      exact first.mono (fun _ => .inl) _ rfl
    | failed later =>
      cases failed
      have before := first earlier rfl
      have behind := second later rfl
      refine ⟨by simp [before.nonempty], ?_, ?_, ?_⟩
      · intro issue member
        exact (List.mem_append.1 member).elim (before.lies issue) (behind.lies issue)
      · intro issue member
        exact (List.mem_append.1 member).imp (before.within issue) (behind.within issue)
      · rw [List.map_append]
        refine before.distinct.append behind.distinct ?_
        intro path earlierMember laterMember
        obtain ⟨issue, member, rfl⟩ := List.mem_map.1 earlierMember
        obtain ⟨other, otherMember, same⟩ := List.mem_map.1 laterMember
        exact apart _ (before.within issue member) (same ▸ behind.within other otherMember)

/-- The issues of many parts of a value are located if different steps lead to the parts. -/
theorem mapA {items : List β} {check : β → Checked α} {step : β → Step}
    (each : ∀ item ∈ items, (check item).Locates value (Behind (step item)))
    (distinct : (items.map step).Nodup) :
    (items.mapA check).Locates value fun path => ∃ item ∈ items, Behind (step item) path := by
  induction items with
  | nil => exact .ok []
  | cons item items ih =>
    rw [List.map_cons, List.nodup_cons] at distinct
    have first := (each item List.mem_cons_self).map List.cons
    have rest := ih (fun later member => each later (List.mem_cons_of_mem _ member)) distinct.2
    refine (first.seq rest ?_).mono ?_
    · rintro path here ⟨later, member, there⟩
      have same : step item = step later := Option.some.inj (here.symm.trans there)
      exact distinct.1 (same ▸ List.mem_map_of_mem member)
    · rintro path (here | ⟨later, member, there⟩)
      · exact ⟨item, List.mem_cons_self, here⟩
      · exact ⟨later, List.mem_cons_of_mem _ member, there⟩

/-- The issues of further fields are located if no spelling is that of two fields. -/
theorem seq_fields {names others : List FieldName} {change : Checked (α → β)}
    (first : change.Locates value (BehindFields names))
    (second : outcome.Locates value (BehindFields others))
    (apart : ∀ name ∈ names, ∀ other ∈ others, name.Apart other) :
    (change <*> outcome).Locates value (BehindFields (names ++ others)) := by
  refine (first.seq second ?_).mono ?_
  · rintro path ⟨name, member, key, spells, here⟩ ⟨other, otherMember, otherKey, otherSpells, there⟩
    have same : Step.key key = .key otherKey := Option.some.inj (here.symm.trans there)
    cases same
    exact (apart name member other otherMember).not_spells spells otherSpells
  · rintro path (⟨name, member, found⟩ | ⟨name, member, found⟩)
    · exact ⟨name, List.mem_append_left _ member, found⟩
    · exact ⟨name, List.mem_append_right _ member, found⟩

end Locates

end Checked

namespace Check

open Checked (Locates)

variable {α : Type} {check : Check α}

/-- A check locates what it finds wrong. -/
def Locates (check : Check α) : Prop :=
  ∀ value, (check value).Locates value fun _ => True

theorem locates_anything : Locates anything := fun value => .ok value

theorem locates_text : Locates text := by
  intro value
  cases value with
  | text content => exact .ok content
  | _ => exact .fault (by decide) trivial

/-- Truth values are blamed as a whole, whatever form they are given in. -/
theorem locates_truth : Locates truth := by
  intro value
  rw [truth.eq_def]
  split
  · exact .ok _
  · dsimp only
    split
    · exact .ok _
    · split
      · exact .ok _
      · exact .fault (by decide) trivial
  · split
    · exact .ok _
    · exact .ok _
    · split
      · exact .fault (by decide) trivial
      · exact .fault (by decide) trivial
    · exact .fault (by decide) trivial

/-- Where a value may be absent, no issue is added. -/
theorem locates_nullable (locates : Locates check) : Locates (nullable check) := by
  intro value
  cases value with
  | null => exact .ok none
  | _ => exact (locates _).map some

/-- The issues of a sequence are told apart by position. -/
theorem locates_sequence (locates : Locates check) : Locates (sequence check) := by
  intro value
  cases value with
  | list values =>
    have each : ∀ item ∈ values.zipIdx,
        ((check item.1).under (.index item.2)).Locates (.list values) (Behind (.index item.2)) := by
      intro item member
      exact (locates item.1).under (Value.step?_index (List.mem_zipIdx_iff_getElem?.1 member))
    have distinct : (values.zipIdx.map fun item => Step.index item.2).Nodup := by
      have injective : Function.Injective fun position : Nat => Step.index position :=
        fun _ _ same => Int.ofNat.inj (Step.index.inj same)
      have positions : (values.zipIdx.map Prod.snd).Nodup := by
        rw [List.zipIdx_map_snd]
        exact List.nodup_range'
      have steps := positions.map injective
      rwa [List.map_map] at steps
    exact (Checked.Locates.mapA each distinct).mono fun _ _ => trivial
  | _ => exact .fault (by decide) trivial

theorem locates_names : Locates names := by
  intro value
  rw [names.eq_def]
  split
  · exact .ok []
  · exact .ok [_]
  · exact locates_sequence locates_text _

/-- The issues of a dictionary are told apart by key. -/
theorem locates_dictionary (locates : Locates check) : Locates (dictionary check) := by
  intro value
  rw [dictionary]
  split
  · exact .fault (by decide) trivial
  · rename_i fields record
    have each : ∀ entry ∈ fields.toList,
        ((entry.1, ·) <$> (check entry.2).under (.key entry.1)).Locates value
          (Behind (.key entry.1)) := by
      intro entry member
      have held := Dict.get?_eq_some_iff.2 member
      exact ((locates entry.2).under (Value.step?_key record held)).map _
    have distinct : (fields.toList.map fun entry => Step.key entry.1).Nodup := by
      have injective : Function.Injective Step.key := fun _ _ same => Step.key.inj same
      have keys := fields.distinct.map injective
      rwa [List.map_map] at keys
    exact ((Checked.Locates.mapA each distinct).map _).mono fun _ _ => trivial

/-- A record locates its issues if its fields do. -/
theorem locates_record {model : Model} {read : Dict Value → Checked α}
    (reads : ∀ value fields, value.fields? = some fields →
      ∃ within, (read fields).Locates value within) : Locates (record model read) := by
  intro value
  rw [record]
  split
  · exact .fault (by simp) trivial
  · rename_i fields record
    obtain ⟨within, locates⟩ := reads value fields record
    exact locates.mono fun _ _ => trivial

end Check

namespace FieldName

variable {α : Type} {check : Check α} {value : Value} {fields : Dict Value}

/-- A field is found under one of its spellings. -/
theorem get?_of_find {name : FieldName} {key : String} {inner : Value}
    (found : name.find fields = some (key, inner)) :
    name.Spells key ∧ fields.get? key = some inner := by
  rcases find_eq_some_iff.1 found with ⟨rfl, held⟩ | ⟨-, rfl, held⟩
  · exact ⟨.inl rfl, held⟩
  · exact ⟨.inr rfl, held⟩

/-- What is wrong with the value of a field is located behind the spelling that counts. -/
theorem locates_under (name : FieldName) (locates : check.Locates)
    (record : value.fields? = some fields) {key : String} {inner : Value}
    (found : name.find fields = some (key, inner)) :
    ((check inner).under (.key key)).Locates value (BehindFields [name]) := by
  obtain ⟨spells, held⟩ := get?_of_find found
  refine ((locates inner).under (Value.step?_key record held)).mono fun path here => ?_
  exact ⟨name, List.mem_singleton_self name, key, spells, here⟩

/-- A field that may be left out is at fault only where it is given. -/
theorem locates_orElse (name : FieldName) (locates : check.Locates) (default : α)
    (record : value.fields? = some fields) :
    (name.orElse check default fields).Locates value (BehindFields [name]) := by
  rw [orElse, given]
  refine Checked.Locates.map _ ?_
  split
  · exact .ok none
  · rename_i found
    exact (locates_under name locates record found).map some

/-- A field that has to be there is missing from a record that has none of its spellings. -/
theorem locates_required (name : FieldName) (locates : check.Locates)
    (record : value.fields? = some fields) :
    (name.required check fields).Locates value (BehindFields [name]) := by
  rw [required]
  split
  · rename_i left
    have absent : name.preferred ∉ fields.keys :=
      Dict.get?_eq_none_iff.1 (find_eq_none.1 left).1
    rintro issues failed
    cases failed
    exact {
      nonempty := List.cons_ne_nil _ _
      lies := by
        simpa using Issue.LiesIn.missing rfl (List.nil_append _).symm rfl record absent
      within := by
        simpa using ⟨name, List.mem_singleton_self name, _, .inl rfl, rfl⟩
      distinct := List.nodup_singleton _ }
  · rename_i found
    exact locates_under name locates record found

end FieldName

end SelectClause

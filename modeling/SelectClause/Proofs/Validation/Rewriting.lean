import Mathlib.Logic.Relation
import SelectClause.Proofs.Validation.Spelling

/-! # Rewriting records

A record can be rewritten step by step: the keys are permuted, a key is spelled in the other way, a
field's value is put into another form or dropped, and keys that are no field's come and go
(`FieldsRewrite`). As long as no field stands in both spellings, a step does to the value of a field
what the form of the field allows, and nothing to the others (`FieldsRewrite.moves`).
-/

namespace SelectClause

/-- The keys of one record are permuted, which may be inside of other records and lists. -/
inductive Value.Permutes : Value → Value → Prop where
  | keys {fields others : Dict Value} (same : fields.toList.Perm others.toList) :
      Permutes (.ofDict fields) (.ofDict others)
  | field {fields others : Dict Value} {before after : List (String × Value)} {key : String}
      {value other : Value} (held : fields.toList = before ++ [(key, value)] ++ after)
      (written : others.toList = before ++ [(key, other)] ++ after)
      (inside : Permutes value other) : Permutes (.ofDict fields) (.ofDict others)
  | item {before after : List Value} {value other : Value} (inside : Permutes value other) :
      Permutes (.list (before ++ [value] ++ after)) (.list (before ++ [other] ++ after))

/-- Values that differ in nothing but the order of keys. -/
def Value.Reordered : Value → Value → Prop := Relation.ReflTransGen Permutes

/-- Nothing but records and lists can be permuted. -/
theorem Value.Permutes.shape {value other : Value} (permutes : value.Permutes other) :
    (∃ fields others, value = .ofDict fields ∧ other = .ofDict others) ∨
      ∃ items others, value = .list items ∧ other = .list others := by
  cases permutes with
  | keys => exact .inl ⟨_, _, rfl, rfl⟩
  | field => exact .inl ⟨_, _, rfl, rfl⟩
  | item => exact .inr ⟨_, _, rfl, rfl⟩

/-- What is permuted without being a record is a list. -/
theorem Value.Permutes.lists {value other : Value} (permutes : value.Permutes other)
    (noRecord : value.fields? = none) :
    ∃ items others, value = .list items ∧ other = .list others := by
  rcases permutes.shape with ⟨fields, others, rfl, rfl⟩ | lists
  · rw [Value.fields?_ofDict] at noRecord
    cases noRecord
  · exact lists

/-- The forms that a field may be written in. -/
structure FieldForm where
  name : FieldName
  /-- One value may be replaced by another. -/
  rewrites : Value → Value → Prop := Value.Permutes
  /-- The absent value may be left out. -/
  droppable : Prop := False

/-- The entry of a field is spelled in the other way, put into another form or dropped. -/
inductive FieldForm.Changes (form : FieldForm) :
    List (String × Value) → List (String × Value) → Prop where
  | respelled {key other : String} {value : Value} (spells : form.name.Spells key)
      (otherSpells : form.name.Spells other) : form.Changes [(key, value)] [(other, value)]
  | rewritten {key : String} {value other : Value} (spells : form.name.Spells key)
      (rewrites : form.rewrites value other) : form.Changes [(key, value)] [(key, other)]
  | dropped {key : String} (spells : form.name.Spells key) (droppable : form.droppable) :
      form.Changes [(key, .null)] []

/-- The entry of a field is changed, or keys that are no field's are added, removed or given other
values. -/
inductive EntryRewrites (forms : List FieldForm) (old new : List (String × Value)) : Prop where
  | field {form : FieldForm} (member : form ∈ forms) (change : form.Changes old new)
  | unknown (noField : ∀ entry ∈ old ++ new, ∀ form ∈ forms, ¬ form.name.Spells entry.1)

/-- The fields of a record are rewritten in one place, or permuted. -/
inductive FieldsRewrite (forms : List FieldForm) : Dict Value → Dict Value → Prop where
  | entry {fields others : Dict Value} {before old new after : List (String × Value)}
      (held : fields.toList = before ++ old ++ after)
      (written : others.toList = before ++ new ++ after) (change : EntryRewrites forms old new) :
      FieldsRewrite forms fields others
  | keys {fields others : Dict Value} (same : fields.toList.Perm others.toList) :
      FieldsRewrite forms fields others

/-- A record is rewritten, or what stands in the place of a record is permuted. -/
inductive RecordRewrites (forms : List FieldForm) : Value → Value → Prop where
  | record {fields others : Dict Value} (fieldsRewrite : FieldsRewrite forms fields others) :
      RecordRewrites forms (.ofDict fields) (.ofDict others)
  | malformed {value other : Value} (noRecord : value.fields? = none)
      (permutes : value.Permutes other) : RecordRewrites forms value other

namespace Dict

variable {α : Type} {fields others : Dict α} {before old new after : List (String × α)}
  {key other : String} {value : α}

/-- An entry that stands between others is found by its key. -/
theorem get?_of_split (held : fields.toList = before ++ [(key, value)] ++ after) :
    fields.get? key = some value := by
  rw [get?_eq_some_iff, held]
  simp

/-- Keys that are among neither the old nor the new entries keep their values. -/
theorem get?_congr_of_split (held : fields.toList = before ++ old ++ after)
    (written : others.toList = before ++ new ++ after) (absent : key ∉ old.map Prod.fst)
    (otherAbsent : key ∉ new.map Prod.fst) : fields.get? key = others.get? key := by
  ext value
  have notOld : (key, value) ∉ old := fun member => absent (List.mem_map_of_mem member)
  have notNew : (key, value) ∉ new := fun member => otherAbsent (List.mem_map_of_mem member)
  simp [get?_eq_some_iff, held, written, notOld, notNew]

/-- Permuted entries give every key the same value. -/
theorem get?_congr_of_perm (same : fields.toList.Perm others.toList) (key : String) :
    fields.get? key = others.get? key := by
  ext value
  rw [get?_eq_some_iff, get?_eq_some_iff, same.mem_iff]

/-- Records that agree in a key both have it, or both do not. -/
theorem mem_keys_congr (same : fields.get? key = others.get? key) :
    key ∈ fields.keys ↔ key ∈ others.keys := by
  rw [← contains_iff, ← contains_iff, contains, contains, same]

/-- A key is not there twice. -/
theorem not_mem_beside (held : fields.toList = before ++ [(key, value)] ++ after) :
    key ∉ (before ++ after).map Prod.fst := by
  have distinct := fields.distinct
  rw [held] at distinct
  simp only [List.map_append, List.map_cons, List.append_assoc, List.singleton_append,
    List.nodup_append, List.nodup_cons, List.mem_cons] at distinct
  obtain ⟨-, ⟨notAfter, -⟩, notBefore⟩ := distinct
  rw [List.map_append, List.mem_append, not_or]
  exact ⟨fun present => notBefore key present key (.inl rfl) rfl, notAfter⟩

/-- A key that takes the place of another was not there before. -/
theorem not_mem_keys_of_split (held : fields.toList = before ++ [(key, value)] ++ after)
    (written : others.toList = before ++ [(other, value)] ++ after) (different : other ≠ key) :
    other ∉ fields.keys := by
  have beside := not_mem_beside written
  rw [keys, held]
  simp only [List.map_append, List.map_cons, List.map_nil, List.mem_append, List.mem_singleton,
    not_or] at beside ⊢
  exact ⟨⟨beside.1, different⟩, beside.2⟩

end Dict

namespace FieldName

variable {name : FieldName} {fields others : Dict Value} {key : String} {value : Value}

/-- The value of a field, whichever spelling it is given in. -/
def valueIn (name : FieldName) (fields : Dict Value) : Option Value :=
  (name.find fields).map Prod.snd

/-- A record has no field in two spellings. -/
def Single (name : FieldName) (fields : Dict Value) : Prop :=
  name.preferred ∈ fields.keys → name.plain ∈ fields.keys → name.preferred = name.plain

instance (name : FieldName) (fields : Dict Value) : Decidable (name.Single fields) :=
  inferInstanceAs (Decidable (name.preferred ∈ fields.keys → name.plain ∈ fields.keys →
    name.preferred = name.plain))

/-- The value of a field depends on what its spellings hold. -/
theorem valueIn_congr (same : ∀ key, name.Spells key → fields.get? key = others.get? key) :
    name.valueIn fields = name.valueIn others := by
  rw [valueIn, valueIn, find_congr same]

/-- The preferred spelling counts. -/
theorem valueIn_of_preferred (held : fields.get? name.preferred = some value) :
    name.valueIn fields = some value := by
  rw [valueIn, find_of_preferred held]
  rfl

/-- The plain spelling counts where the preferred one is absent. -/
theorem valueIn_of_plain (absent : fields.get? name.preferred = none)
    (held : fields.get? name.plain = some value) : name.valueIn fields = some value := by
  rw [valueIn, find_of_plain absent held]
  rfl

/-- A field with one spelling has the value under it. -/
theorem valueIn_eq_get? (single : name.preferred = name.plain) (fields : Dict Value) :
    name.valueIn fields = fields.get? name.plain := by
  cases held : fields.get? name.plain with
  | some value => exact valueIn_of_preferred (single ▸ held)
  | none =>
    rw [valueIn, find_eq_none.2 ⟨single ▸ held, held⟩]
    rfl

/-- The value under the only spelling that is given is the field's. -/
theorem Single.valueIn (single : name.Single fields) (spells : name.Spells key)
    (held : fields.get? key = some value) : name.valueIn fields = some value := by
  rcases spells with rfl | rfl
  · exact valueIn_of_preferred held
  · cases preferred : fields.get? name.preferred with
    | none => exact valueIn_of_plain preferred held
    | some other =>
      have same := single (Dict.mem_keys_of_get?_eq_some preferred)
        (Dict.mem_keys_of_get?_eq_some held)
      rw [valueIn_of_preferred preferred, ← held, ← same, preferred]

/-- A field that is written once stands under one key. -/
theorem Single.eq_of_spells (single : name.Single fields) {other : String}
    (spells : name.Spells key) (otherSpells : name.Spells other) (present : key ∈ fields.keys)
    (otherPresent : other ∈ fields.keys) : key = other := by
  rcases spells with rfl | rfl <;> rcases otherSpells with rfl | rfl
  · rfl
  · exact single present otherPresent
  · exact (single otherPresent present).symm
  · rfl

/-- With fewer keys a field is still written at most once. -/
theorem Single.mono (single : name.Single fields)
    (fewer : ∀ key, name.Spells key → key ∈ others.keys → key ∈ fields.keys) :
    name.Single others := fun preferred plain =>
  single (fewer _ (.inl rfl) preferred) (fewer _ (.inr rfl) plain)

/-- A field that can be given in another spelling is given in one. -/
theorem single_of_split {before after : List (String × Value)} {other : String}
    (otherSpells : name.Spells other) (different : other ≠ key)
    (held : fields.toList = before ++ [(key, value)] ++ after)
    (written : others.toList = before ++ [(other, value)] ++ after) : name.Single fields := by
  intro preferred plain
  refine absurd ?_ (Dict.not_mem_keys_of_split held written different)
  rcases otherSpells with rfl | rfl
  · exact preferred
  · exact plain

end FieldName

namespace FieldForm

variable {forms : List FieldForm} {form other : FieldForm} {fields others : Dict Value}
  {before old new after : List (String × Value)}

/-- What a step of rewriting does to the value of a field. -/
inductive Moves (form : FieldForm) : Option Value → Option Value → Prop where
  | kept (value : Option Value) : form.Moves value value
  | rewritten {value other : Value} (rewrites : form.rewrites value other) :
      form.Moves (some value) (some other)
  | dropped (droppable : form.droppable) : form.Moves (some .null) none

/-- No two fields of a record have a spelling in common. -/
def Distinct (forms : List FieldForm) : Prop :=
  forms.Pairwise fun form other => form.name.Apart other.name

instance (forms : List FieldForm) : Decidable (Distinct forms) :=
  inferInstanceAs (Decidable (forms.Pairwise fun form other => form.name.Apart other.name))

/-- A form changes entries of its own field only. -/
theorem Changes.spells (change : form.Changes old new) {entry : String × Value}
    (member : entry ∈ old ++ new) : form.name.Spells entry.1 := by
  cases change with
  | respelled spells otherSpells =>
    rcases List.mem_cons.1 member with rfl | member
    · exact spells
    · rw [List.mem_singleton.1 member]
      exact otherSpells
  | rewritten spells rewrites =>
    rcases List.mem_cons.1 member with rfl | member
    · exact spells
    · rw [List.mem_singleton.1 member]
      exact spells
  | dropped spells droppable =>
    rw [List.mem_singleton.1 member]
    exact spells

/-- The entries that a rewriting replaces are all of one field or none of them is. -/
theorem changes_or_not_spells (distinct : Distinct forms) (member : form ∈ forms)
    (change : EntryRewrites forms old new) :
    form.Changes old new ∨ ∀ entry ∈ old ++ new, ¬ form.name.Spells entry.1 := by
  cases change with
  | unknown noField => exact .inr fun entry among => noField entry among form member
  | @field other otherMember change =>
    by_cases same : other = form
    · exact .inl (same ▸ change)
    · have symmetric : Std.Symm fun form other : FieldForm => form.name.Apart other.name :=
        ⟨fun _ _ apart => Std.Symm.symm _ _ apart⟩
      exact .inr fun entry among =>
        (List.Pairwise.forall distinct otherMember member same).not_spells (change.spells among)

/-- Keys that are not among the replaced entries keep their values. -/
theorem get?_congr_of_not_spells (held : fields.toList = before ++ old ++ after)
    (written : others.toList = before ++ new ++ after)
    (apart : ∀ entry ∈ old ++ new, ¬ form.name.Spells entry.1) {key : String}
    (spells : form.name.Spells key) : fields.get? key = others.get? key := by
  have absent : ∀ entry ∈ old ++ new, entry.1 ≠ key := by
    rintro entry member rfl
    exact apart entry member spells
  refine Dict.get?_congr_of_split held written ?_ ?_
  · rintro present
    obtain ⟨entry, member, same⟩ := List.mem_map.1 present
    exact absent entry (List.mem_append_left _ member) same
  · rintro present
    obtain ⟨entry, member, same⟩ := List.mem_map.1 present
    exact absent entry (List.mem_append_right _ member) same

/-- A field that is respelled keeps its value: the new spelling was not there before, and the old
one is not there any more. -/
theorem moves_of_respelled {key other : String} {value : Value} (spells : form.name.Spells key)
    (otherSpells : form.name.Spells other)
    (held : fields.toList = before ++ [(key, value)] ++ after)
    (written : others.toList = before ++ [(other, value)] ++ after) :
    form.Moves (form.name.valueIn fields) (form.name.valueIn others) := by
  by_cases same : other = key
  · subst same
    rw [Dict.ext (held.trans written.symm)]
    exact .kept _
  · have single := FieldName.single_of_split otherSpells same held written
    have otherSingle := FieldName.single_of_split spells (Ne.symm same) written held
    rw [single.valueIn spells (Dict.get?_of_split held),
      otherSingle.valueIn otherSpells (Dict.get?_of_split written)]
    exact .kept _

/-- A value that is rewritten is the field's, unless its spelling does not count. -/
theorem moves_of_rewritten {key : String} {value other : Value} (spells : form.name.Spells key)
    (rewrites : form.rewrites value other)
    (held : fields.toList = before ++ [(key, value)] ++ after)
    (written : others.toList = before ++ [(key, other)] ++ after) :
    form.Moves (form.name.valueIn fields) (form.name.valueIn others) := by
  have found := Dict.get?_of_split held
  have otherFound := Dict.get?_of_split written
  by_cases counts : key = form.name.preferred
  · subst counts
    rw [FieldName.valueIn_of_preferred found, FieldName.valueIn_of_preferred otherFound]
    exact .rewritten rewrites
  · -- The plain spelling counts only where the preferred one is not given, before as after.
    have plain : key = form.name.plain := spells.resolve_left counts
    have same : fields.get? form.name.preferred = others.get? form.name.preferred :=
      Dict.get?_congr_of_split held written (by simpa using Ne.symm counts)
        (by simpa using Ne.symm counts)
    rw [plain] at found otherFound
    cases preferred : fields.get? form.name.preferred with
    | none =>
      rw [FieldName.valueIn_of_plain preferred found,
        FieldName.valueIn_of_plain (same ▸ preferred) otherFound]
      exact .rewritten rewrites
    | some counted =>
      rw [FieldName.valueIn_of_preferred preferred,
        FieldName.valueIn_of_preferred (same ▸ preferred)]
      exact .kept _

/-- A field that is dropped under its only spelling is left out. -/
theorem moves_of_dropped {key : String} (spells : form.name.Spells key)
    (droppable : form.droppable) (single : form.name.Single fields)
    (held : fields.toList = before ++ [(key, .null)] ++ after)
    (written : others.toList = before ++ [] ++ after) :
    form.Moves (form.name.valueIn fields) (form.name.valueIn others) := by
  have found := Dict.get?_of_split held
  have keys : others.keys = (before ++ after).map Prod.fst := by
    rw [Dict.keys, written, List.append_nil]
  have absent : ∀ other, form.name.Spells other → others.get? other = none := by
    intro other otherSpells
    rw [Dict.get?_eq_none_iff, keys]
    intro present
    have kept : other ∈ fields.keys := by
      rw [Dict.keys, held]
      simp only [List.map_append, List.mem_append] at present ⊢
      exact present.imp_left .inl
    have same := single.eq_of_spells otherSpells spells kept
      (Dict.mem_keys_of_get?_eq_some found)
    exact Dict.not_mem_beside held (same ▸ present)
  rw [single.valueIn spells found, FieldName.valueIn,
    FieldName.find_eq_none.2 ⟨absent _ (.inl rfl), absent _ (.inr rfl)⟩]
  exact .dropped droppable

/-- A change of a field's entry moves the value of the field. -/
theorem Changes.moves (change : form.Changes old new)
    (single : form.droppable → form.name.Single fields)
    (held : fields.toList = before ++ old ++ after)
    (written : others.toList = before ++ new ++ after) :
    form.Moves (form.name.valueIn fields) (form.name.valueIn others) := by
  cases change with
  | respelled spells otherSpells => exact moves_of_respelled spells otherSpells held written
  | rewritten spells rewrites => exact moves_of_rewritten spells rewrites held written
  | dropped spells droppable =>
    exact moves_of_dropped spells droppable (single droppable) held written

end FieldForm

/-- The value of a field moves as its form allows. -/
theorem FieldsRewrite.moves {forms : List FieldForm} {form : FieldForm} {fields others : Dict Value}
    (distinct : FieldForm.Distinct forms) (member : form ∈ forms)
    (single : form.droppable → form.name.Single fields)
    (rewrite : FieldsRewrite forms fields others) :
    form.Moves (form.name.valueIn fields) (form.name.valueIn others) := by
  have kept : (∀ key, form.name.Spells key → fields.get? key = others.get? key) →
      form.Moves (form.name.valueIn fields) (form.name.valueIn others) := by
    intro same
    rw [FieldName.valueIn_congr same]
    exact .kept _
  cases rewrite with
  | keys same => exact kept fun key _ => Dict.get?_congr_of_perm same key
  | entry held written change =>
    rcases FieldForm.changes_or_not_spells distinct member change with change | apart
    · exact change.moves single held written
    · exact kept fun key spells => FieldForm.get?_congr_of_not_spells held written apart spells

/-- All values move as their forms allow, if only fields of one spelling may be dropped. -/
theorem FieldsRewrite.moves_all {forms : List FieldForm} {fields others : Dict Value}
    (distinct : FieldForm.Distinct forms)
    (single : ∀ form ∈ forms, form.droppable → form.name.preferred = form.name.plain)
    (rewrite : FieldsRewrite forms fields others) :
    ∀ form ∈ forms, form.Moves (form.name.valueIn fields) (form.name.valueIn others) :=
  fun _ member => rewrite.moves distinct member fun droppable _ _ => single _ member droppable

/-- Rewriting gives no field a second spelling. -/
theorem FieldsRewrite.single {forms : List FieldForm} {form : FieldForm}
    {fields others : Dict Value} (distinct : FieldForm.Distinct forms) (member : form ∈ forms)
    (rewrite : FieldsRewrite forms fields others) (single : form.name.Single fields) :
    form.name.Single others := by
  have kept : (∀ key, form.name.Spells key → fields.get? key = others.get? key) →
      form.name.Single others := fun same =>
    single.mono fun key spells => (Dict.mem_keys_congr (same key spells)).2
  cases rewrite with
  | keys same => exact kept fun key _ => Dict.get?_congr_of_perm same key
  | entry held written change =>
    rcases FieldForm.changes_or_not_spells distinct member change with change | apart
    · cases change with
      | @respelled key other value spells otherSpells =>
        by_cases same : other = key
        · subst same
          rwa [← Dict.ext (held.trans written.symm)]
        · exact FieldName.single_of_split spells (Ne.symm same) written held
      | rewritten spells rewrites =>
        refine single.mono fun key _ present => ?_
        rw [Dict.keys, written] at present
        rw [Dict.keys, held]
        simpa using present
      | dropped spells droppable =>
        refine single.mono fun key _ present => ?_
        rw [Dict.keys, written] at present
        rw [Dict.keys, held]
        simp only [List.append_nil, List.map_append, List.mem_append] at present ⊢
        exact present.imp_left .inl
    · exact kept fun key spells => FieldForm.get?_congr_of_not_spells held written apart spells

end SelectClause

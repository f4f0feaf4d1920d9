import Mathlib.Data.List.Basic
import SelectClause.Proofs.Catalog.ColumnName
import SelectClause.Proofs.Validation.Rewriting
import SelectClause.Proofs.Validation.Traversal

/-! # Renames as they are written down

Renames are given as a record or as a list of pairs. The entries of a record are sorted by key, and
since no key is there twice, the sorted list is strictly increasing (`pairwise_sortedByKey`) and
depends on nothing but the entries (`sortedByKey_congr`). Pairs are kept in their order. In both
cases the other options are read as if no renames were given (`ofFields_of_given`). What stands for
a name afterwards is its value in the record, or the column of the last pair with the name
(`ofValue_identityColumns`).
-/

namespace SelectClause

namespace FieldName

/-- A field whose spellings have the same values in two records is read alike. -/
theorem orElse_congr {α : Type} {name : FieldName} {fields others : Dict Value} (check : Check α)
    (default : α) (same : ∀ key, name.Spells key → fields.get? key = others.get? key) :
    name.orElse check default fields = name.orElse check default others := by
  rw [orElse, orElse, given_congr check (find_congr same)]

/-- A field that is given has the value that is read from it. -/
theorem orElse_of_find {α : Type} {name : FieldName} {fields : Dict Value} {check : Check α}
    {default result : α} {key : String} {value : Value}
    (found : name.find fields = some (key, value)) (passed : check value = .ok result) :
    name.orElse check default fields = .ok result := by
  simp [orElse, given, found, passed]

/-- A field that is left out has its default. -/
theorem orElse_of_left_out {α : Type} {name : FieldName} {fields : Dict Value} {check : Check α}
    {default : α} (leftOut : name.find fields = none) :
    name.orElse check default fields = .ok default := by
  simp [orElse, given, leftOut]

end FieldName

namespace Options

/-- What a record of options gives for the identity columns: the value under the preferred spelling,
or else that under the plain one. -/
inductive GivesIdentityColumns (fields : Dict Value) (value : Value) : Prop where
  | preferred (held : fields.get? "identityColumns" = some value)
  | plain (absent : fields.get? "identityColumns" = none)
      (held : fields.get? "identity_columns" = some value)

/-- A record of options without what it gives for the identity columns. -/
def withoutIdentityColumns (fields : Dict Value) : Dict Value :=
  fields.filterKeys fun key => key ≠ "identityColumns" ∧ key ≠ "identity_columns"

/-- The options with other identity columns. -/
def withIdentityColumns (pairs : List (String × String)) (options : Options) : Options :=
  { options with identityColumns := pairs }

/-- A pair as it is written down. -/
def pairValue (pair : String × String) : Value := .list [.text pair.1, .text pair.2]

variable {α : Type} {entries others : List (String × α)} {fields : Dict Value} {value : Value}
  {pairs : List (String × String)}

/-- Sorting by key neither drops nor adds an entry. -/
theorem sortedByKey_perm (entries : List (String × α)) : (sortedByKey entries).Perm entries :=
  List.mergeSort_perm _ _

/-- Entries without repeated keys are sorted in strictly increasing order. -/
theorem pairwise_sortedByKey (distinct : (entries.map Prod.fst).Nodup) :
    (sortedByKey entries).Pairwise fun first second => first.1 < second.1 := by
  have ascending : (sortedByKey entries).Pairwise fun first second => first.1 ≤ second.1 := by
    have transitive : ∀ first second third : String × α, decide (first.1 ≤ second.1) = true →
        decide (second.1 ≤ third.1) = true → decide (first.1 ≤ third.1) = true := by
      intro first second third below above
      rw [decide_eq_true_iff] at below above ⊢
      exact String.le_trans below above
    have total : ∀ first second : String × α,
        (decide (first.1 ≤ second.1) || decide (second.1 ≤ first.1)) = true := by
      intro first second
      simpa using String.le_total first.1 second.1
    exact (List.pairwise_mergeSort transitive total entries).imp of_decide_eq_true
  have different : (sortedByKey entries).Pairwise fun first second => first.1 ≠ second.1 :=
    List.pairwise_map.1 (((sortedByKey_perm entries).map Prod.fst).nodup_iff.2 distinct)
  refine (ascending.and different).imp fun {first second} both => ?_
  exact String.not_le.1 fun above => both.2 (String.le_antisymm both.1 above)

/-- Sorting depends on the entries and not on their order. -/
theorem sortedByKey_congr (distinct : (entries.map Prod.fst).Nodup) (same : entries.Perm others) :
    sortedByKey entries = sortedByKey others := by
  refine List.Perm.eq_of_pairwise (fun first second _ _ below above => ?_)
    (pairwise_sortedByKey distinct)
    (pairwise_sortedByKey ((same.map Prod.fst).nodup_iff.1 distinct))
    (((sortedByKey_perm entries).trans same).trans (sortedByKey_perm others).symm)
  exact absurd (String.lt_trans below above) (String.lt_irrefl _)

/-- Sorting sees the keys only. -/
theorem sortedByKey_map {β : Type} (change : α → β) (entries : List (String × α)) :
    sortedByKey (entries.map fun entry => (entry.1, change entry.2)) =
      (sortedByKey entries).map fun entry => (entry.1, change entry.2) := by
  symm
  refine List.map_mergeSort ?_
  intro first _ second _
  rfl

theorem checkPair_pairValue (pair : String × String) : checkPair (pairValue pair) = .ok pair := rfl

/-- Pairs are read back from what they are written as. -/
theorem items_checkPair (pairs : List (String × String)) :
    Check.items checkPair (pairs.map pairValue) = .ok pairs := by
  rw [Check.items_eq_ok_iff, List.forall₂_map_left_iff]
  exact List.forall₂_same.2 fun pair _ => checkPair_pairValue pair

/-- A record of renames is read as its entries, sorted. -/
theorem checkIdentityColumns_record (renames : Dict String) :
    checkIdentityColumns (.ofDict (renames.map .text)) = .ok (sortedByKey renames.toList) := by
  rw [checkIdentityColumns, Value.fields?_ofDict]
  show Check.items checkPair _ = _
  rw [Dict.toList_map, sortedByKey_map, List.map_map]
  exact items_checkPair _

/-- A list of pairs is read as it stands. -/
theorem checkIdentityColumns_pairs (pairs : List (String × String)) :
    checkIdentityColumns (.list (pairs.map pairValue)) = .ok pairs :=
  items_checkPair pairs

/-- Identity columns that are given are found under one of the spellings. -/
theorem find_of_gives (gives : GivesIdentityColumns fields value) :
    ∃ key, identityColumnsField.find fields = some (key, value) := by
  cases gives with
  | preferred held => exact ⟨_, FieldName.find_of_preferred held⟩
  | plain absent held => exact ⟨_, FieldName.find_of_plain absent held⟩

/-- Without the identity columns a record has its other fields. -/
theorem get?_withoutIdentityColumns (fields : Dict Value) (key : String) :
    (withoutIdentityColumns fields).get? key =
      if identityColumnsField.Spells key then none else fields.get? key := by
  rw [withoutIdentityColumns, Dict.get?_filterKeys]
  by_cases spells : identityColumnsField.Spells key
  · have dropped : ¬ (key ≠ "identityColumns" ∧ key ≠ "identity_columns") :=
      fun apart => spells.elim apart.1 apart.2
    simp only [dropped, spells, decide_false, Bool.false_eq_true, ↓reduceIte]
  · have kept : key ≠ "identityColumns" ∧ key ≠ "identity_columns" := not_or.1 spells
    simp only [kept, spells, decide_true, ↓reduceIte, ne_eq, not_false_eq_true, and_self]

/-- The other options are read as if no renames were given. -/
theorem ofFields_of_given (gives : GivesIdentityColumns fields value)
    (read : checkIdentityColumns value = .ok pairs) :
    ofFields fields = withIdentityColumns pairs <$> ofFields (withoutIdentityColumns fields) := by
  have other : ∀ {α : Type} (name : FieldName) (check : Check α) (default : α),
      name.Apart identityColumnsField → name.orElse check default fields =
        name.orElse check default (withoutIdentityColumns fields) := by
    intro α name check default apart
    refine FieldName.orElse_congr check default fun key spells => ?_
    rw [get?_withoutIdentityColumns, if_neg (apart.not_spells spells)]
  obtain ⟨key, found⟩ := find_of_gives gives
  have leftOut : identityColumnsField.find (withoutIdentityColumns fields) = none := by
    rw [FieldName.find_eq_none, get?_withoutIdentityColumns, get?_withoutIdentityColumns,
      if_pos (.inl rfl), if_pos (.inr rfl)]
    exact ⟨rfl, rfl⟩
  simp only [ofFields]
  rw [FieldName.orElse_of_find found read, FieldName.orElse_of_left_out leftOut,
    other escapeCharacterField _ _ (by decide), other castField _ _ (by decide),
    other wildcardField _ _ (by decide), other aliasSeparatorField _ _ (by decide),
    other aliasTableMarkField _ _ (by decide)]
  -- Each of the other fields passes or fails in both alike, and the renames take their own place.
  cases escapeCharacterField.orElse checkEscapeCharacter _ (withoutIdentityColumns fields) <;>
    cases castField.orElse Check.truth _ (withoutIdentityColumns fields) <;>
    cases wildcardField.orElse Check.text _ (withoutIdentityColumns fields) <;>
    cases aliasSeparatorField.orElse Check.text _ (withoutIdentityColumns fields) <;>
    cases aliasTableMarkField.orElse Check.text _ (withoutIdentityColumns fields) <;> rfl

/-- Options depend on what is looked up in the record, not on the order of its fields. -/
theorem ofFields_congr {others : Dict Value} (same : ∀ key, fields.get? key = others.get? key) :
    ofFields fields = ofFields others := by
  have read : ∀ {α : Type} (name : FieldName) (check : Check α) (default : α),
      name.orElse check default fields = name.orElse check default others :=
    fun name check default => FieldName.orElse_congr check default fun key _ => same key
  simp only [ofFields, read]

theorem ofValue_ofDict (fields : Dict Value) :
    ofValue (.ofDict fields) = (ofFields fields).orInvalid .options := by
  rw [ofValue, Mapping.ofValue_ofDict]
  simp only [Value.ofDict, Value.isNull, Bool.false_eq_true, ↓reduceIte, Mapping.fields_ofDict]

/-- Options are read as if no renames were given, and have the given ones then. -/
def ReadsWith (fields : Dict Value) (pairs : List (String × String)) : Prop :=
  ofValue (.ofDict fields) =
    (ofValue (.ofDict (withoutIdentityColumns fields))).map (withIdentityColumns pairs)

/-- Options read from a record have the identity columns that it gives. -/
theorem readsWith_of_given (gives : GivesIdentityColumns fields value)
    (read : checkIdentityColumns value = .ok pairs) : ReadsWith fields pairs := by
  rw [ReadsWith, ofValue_ofDict, ofValue_ofDict, ofFields_of_given gives read]
  cases ofFields (withoutIdentityColumns fields) <;> rfl

/-- A name stands for its value in the record of renames, or for itself. -/
theorem identityColumn_of_perm {renames : Dict String} (same : pairs.Perm renames.toList)
    (options : Options) (name : String) :
    (withIdentityColumns pairs options).identityColumn name =
      (renames.get? name).getD name := by
  have entries : pairs.reverse.Perm renames.toList := (List.reverse_perm pairs).trans same
  let read : Dict String := ⟨pairs.reverse, (entries.map Prod.fst).nodup_iff.2 renames.distinct⟩
  have found : read.get? name = renames.get? name := Dict.get?_congr_of_perm entries name
  show (read.get? name).getD name = _
  rw [found]

/-- The same renames in another order, and under whichever spelling, give the same options. -/
theorem ofValue_congr_of_perm {renames reordered : Dict String} {others : Dict Value}
    (gives : GivesIdentityColumns fields (.ofDict (renames.map .text)))
    (othersGive : GivesIdentityColumns others (.ofDict (reordered.map .text)))
    (same : reordered.toList.Perm renames.toList)
    (besides : ∀ key, ¬ identityColumnsField.Spells key → others.get? key = fields.get? key) :
    ofValue (.ofDict others) = ofValue (.ofDict fields) := by
  have rest : ofFields (withoutIdentityColumns others) =
      ofFields (withoutIdentityColumns fields) := by
    refine ofFields_congr fun key => ?_
    rw [get?_withoutIdentityColumns, get?_withoutIdentityColumns]
    by_cases spells : identityColumnsField.Spells key
    · rw [if_pos spells, if_pos spells]
    · rw [if_neg spells, if_neg spells, besides key spells]
  rw [ofValue_ofDict, ofValue_ofDict,
    ofFields_of_given gives (checkIdentityColumns_record renames),
    ofFields_of_given othersGive (checkIdentityColumns_record reordered),
    sortedByKey_congr reordered.distinct same, rest]

/-- **Renames do not depend on how they are written down.** Those of a record are stored as its
entries, strictly increasing by key in the order of code points, whatever the order of the record
is, and a name stands for its value in the record. Pairs are stored as they are given, and a name
stands for the column of the last pair with the name. A name without rename stands for itself, and
the other options are read as if no renames were given. -/
theorem ofValue_identityColumns (fields : Dict Value) :
    (∀ renames : Dict String, GivesIdentityColumns fields (.ofDict (renames.map .text)) →
      ∃ pairs, ReadsWith fields pairs ∧ pairs.Perm renames.toList ∧
        pairs.Pairwise (fun first second => first.1 < second.1) ∧
        (∀ options name, (withIdentityColumns pairs options).identityColumn name =
          (renames.get? name).getD name) ∧
        ∀ (reordered : Dict String) (others : Dict Value),
          GivesIdentityColumns others (.ofDict (reordered.map .text)) →
            reordered.toList.Perm renames.toList →
              (∀ key, ¬ identityColumnsField.Spells key → others.get? key = fields.get? key) →
                ofValue (.ofDict others) = ofValue (.ofDict fields)) ∧
      ∀ pairs : List (String × String),
        GivesIdentityColumns fields (.list (pairs.map pairValue)) →
          ReadsWith fields pairs ∧
            ∀ options name column, (withIdentityColumns pairs options).Renames name column ↔
              column = (withIdentityColumns pairs options).identityColumn name := by
  refine ⟨fun renames gives => ?_, fun pairs gives => ⟨?_, fun options name column => ?_⟩⟩
  · have sorted := sortedByKey_perm renames.toList
    exact ⟨sortedByKey renames.toList,
      readsWith_of_given gives (checkIdentityColumns_record renames), sorted,
      pairwise_sortedByKey renames.distinct, identityColumn_of_perm sorted,
      fun reordered others othersGive same besides =>
        ofValue_congr_of_perm gives othersGive same besides⟩
  · exact readsWith_of_given gives (checkIdentityColumns_pairs pairs)
  · exact renames_iff_eq_identityColumn

/-- Two renames to one column. -/
def keyRenames : Dict String := ⟨[("key", "@rid"), ("id", "@rid")], by decide⟩

/-- The renames of `keyRenames` the other way round. -/
def idRenames : Dict String := ⟨[("id", "@rid"), ("key", "@rid")], by decide⟩

/-- The renames of `keyRenames` in the plain spelling, with casts. -/
def castOptions : Dict Value :=
  ⟨[("cast", .bool true), ("identity_columns", .ofDict (keyRenames.map .text))], by decide⟩

/-- The same options in another order and in the preferred spelling. -/
def respelledOptions : Dict Value :=
  ⟨[("identityColumns", .ofDict (idRenames.map .text)), ("cast", .bool true)], by decide⟩

/-- Options that rename one name twice. -/
def repeatedOptions : Dict Value :=
  ⟨[("identityColumns", .list ([("id", "@rid"), ("id", "@key")].map pairValue))], by decide⟩

/-- Options in two orders and spellings are the same, and of two renames of a name the last one
counts. -/
theorem ofValue_identityColumns_respelled :
    GivesIdentityColumns castOptions (.ofDict (keyRenames.map .text)) ∧
      GivesIdentityColumns respelledOptions (.ofDict (idRenames.map .text)) ∧
      idRenames.toList.Perm keyRenames.toList ∧
      ofValue (.ofDict respelledOptions) = ofValue (.ofDict castOptions) ∧
      (∃ pairs, ofValue (.ofDict castOptions) =
        .ok { cast := true, identityColumns := pairs } ∧ pairs.Perm keyRenames.toList) ∧
      GivesIdentityColumns repeatedOptions
        (.list ([("id", "@rid"), ("id", "@key")].map pairValue)) ∧
      ofValue (.ofDict repeatedOptions) =
        .ok { identityColumns := [("id", "@rid"), ("id", "@key")] } := by
  have gives : GivesIdentityColumns castOptions (.ofDict (keyRenames.map .text)) :=
    .plain rfl rfl
  have respelled : GivesIdentityColumns respelledOptions (.ofDict (idRenames.map .text)) :=
    .preferred rfl
  have repeated : GivesIdentityColumns repeatedOptions
      (.list ([("id", "@rid"), ("id", "@key")].map pairValue)) := .preferred rfl
  have swapped : idRenames.toList.Perm keyRenames.toList := .swap _ _ _
  have besides : ∀ key, ¬ identityColumnsField.Spells key →
      respelledOptions.get? key = castOptions.get? key := by
    intro key apart
    obtain ⟨preferred, plain⟩ : key ≠ "identityColumns" ∧ key ≠ "identity_columns" :=
      not_or.1 apart
    simp [Dict.get?, respelledOptions, castOptions, List.lookup_cons,
      beq_eq_false_iff_ne.2 preferred, beq_eq_false_iff_ne.2 plain]
  obtain ⟨pairs, reads, same, -, -, reordered⟩ :=
    (ofValue_identityColumns castOptions).1 keyRenames gives
  exact ⟨gives, respelled, swapped, reordered idRenames respelledOptions respelled swapped besides,
    ⟨pairs, reads, same⟩, repeated, ((ofValue_identityColumns repeatedOptions).2 _ repeated).1⟩

end Options

end SelectClause

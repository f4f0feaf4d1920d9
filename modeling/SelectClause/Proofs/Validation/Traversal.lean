import Mathlib.Data.List.Forall2
import SelectClause.Proofs.Validation.Given

/-! # Checks of many values

A traversal passes just if all its steps do, with what they read in order
(`Checked.mapA_eq_ok_iff`). A dictionary is read value by value, under the same keys
(`Check.dictionary_eq_ok_iff`).
-/

namespace SelectClause

/-- Two relations, one behind the other, between the items of lists. -/
theorem exists_forall₂_iff {α β γ : Type} {first : α → β → Prop} {second : β → γ → Prop}
    {items : List α} {results : List γ} :
    (∃ middle, List.Forall₂ first items middle ∧ List.Forall₂ second middle results) ↔
      List.Forall₂ (fun item result => ∃ between, first item between ∧ second between result)
        items results := by
  constructor
  · rintro ⟨middle, before, after⟩
    induction before generalizing results with
    | nil =>
      cases after
      exact .nil
    | cons related _ ih =>
      cases after with
      | cons further rest => exact .cons ⟨_, related, further⟩ (ih rest)
  · intro related
    induction related with
    | nil => exact ⟨[], .nil, .nil⟩
    | cons both _ ih =>
      obtain ⟨between, before, after⟩ := both
      obtain ⟨middle, befores, afters⟩ := ih
      exact ⟨between :: middle, .cons before befores, .cons after afters⟩

/-- A computation in two steps succeeds just if both steps do. -/
theorem bind_eq_ok_iff {ε α β : Type} {first : Except ε α} {next : α → Except ε β} {result : β} :
    first >>= next = .ok result ↔ ∃ value, first = .ok value ∧ next value = .ok result := by
  cases first <;> simp [bind, Except.bind]

/-- A traversal succeeds just if all its steps do, with the values of the steps in order. -/
theorem mapM_eq_ok_iff {ε α β : Type} {step : α → Except ε β} {items : List α} {values : List β} :
    items.mapM step = .ok values ↔
      List.Forall₂ (fun item value => step item = .ok value) items values := by
  induction items generalizing values with
  | nil =>
    rw [List.forall₂_nil_left_iff, List.mapM_nil]
    constructor
    · intro same
      cases same
      rfl
    · rintro rfl
      rfl
  | cons item items ih =>
    simp only [List.mapM_cons, List.forall₂_cons_left_iff, bind_eq_ok_iff, ih]
    constructor
    · rintro ⟨value, passed, others, rest, same⟩
      cases same
      exact ⟨value, others, passed, rest, rfl⟩
    · rintro ⟨value, others, passed, rest, rfl⟩
      exact ⟨value, passed, others, rest, rfl⟩

namespace Checked

variable {α β : Type}

/-- A traversal is good just if each item is, with the values in their order. -/
theorem mapA_eq_ok_iff {check : α → Checked β} {items : List α} {values : List β} :
    items.mapA check = .ok values ↔
      List.Forall₂ (fun item value => check item = .ok value) items values := by
  induction items generalizing values with
  | nil =>
    rw [List.forall₂_nil_left_iff]
    constructor
    · intro same
      cases same
      rfl
    · rintro rfl
      rfl
  | cons item items ih =>
    rw [List.mapA, List.forall₂_cons_left_iff, seq_eq_ok_iff]
    simp only [map_eq_ok_iff, ih]
    constructor
    · rintro ⟨-, rest, ⟨value, read, rfl⟩, others, rfl⟩
      exact ⟨value, rest, read, others, rfl⟩
    · rintro ⟨value, rest, read, others, rfl⟩
      exact ⟨_, rest, ⟨value, read, rfl⟩, others, rfl⟩

end Checked

/-- Relations between the items of lists follow one another. -/
theorem forall₂_trans {α : Type} {related : α → α → Prop}
    (transitive : ∀ first second third, related first second → related second third →
      related first third) {first second third : List α}
    (before : List.Forall₂ related first second) (later : List.Forall₂ related second third) :
    List.Forall₂ related first third :=
  (exists_forall₂_iff.1 ⟨second, before, later⟩).imp fun _ _ ⟨_, before, later⟩ =>
    transitive _ _ _ before later

/-- Lists that are related but for one item, which is related, are related. -/
theorem forall₂_of_split {α : Type} {related : α → α → Prop}
    (reflexive : ∀ value, related value value) {before after : List α} {value other : α}
    (same : related value other) :
    List.Forall₂ related (before ++ [value] ++ after) (before ++ [other] ++ after) := by
  have unchanged : ∀ items, List.Forall₂ related items items :=
    fun items => List.forall₂_same.2 fun value _ => reflexive value
  exact List.rel_append (List.rel_append (unchanged before) (.cons same .nil)) (unchanged after)

/-- Items that each have a result have results in order. -/
theorem exists_forall₂_of_forall {α β : Type} {relation : α → β → Prop} {items : List α}
    (each : ∀ item ∈ items, ∃ result, relation item result) :
    ∃ results, List.Forall₂ relation items results := by
  induction items with
  | nil => exact ⟨[], .nil⟩
  | cons item items ih =>
    obtain ⟨result, first⟩ := each item List.mem_cons_self
    obtain ⟨results, rest⟩ := ih fun later member => each later (List.mem_cons_of_mem _ member)
    exact ⟨result :: results, .cons first rest⟩

/-- Every result is that of an item. -/
theorem exists_of_forall₂ {α β : Type} {relation : α → β → Prop} {items : List α}
    {results : List β} (related : List.Forall₂ relation items results) {result : β}
    (member : result ∈ results) : ∃ item ∈ items, relation item result := by
  induction related with
  | nil => cases member
  | cons first _ ih =>
    rcases List.mem_cons.1 member with rfl | later
    · exact ⟨_, List.mem_cons_self, first⟩
    · obtain ⟨item, among, rest⟩ := ih later
      exact ⟨item, List.mem_cons_of_mem _ among, rest⟩

/-- Results that are kept under the keys of their items have the keys of the items. -/
theorem map_fst_of_forall₂ {α β : Type} {relation : String × α → String × β → Prop}
    {items : List (String × α)} {results : List (String × β)}
    (related : List.Forall₂ (fun item result => result.1 = item.1 ∧ relation item result) items
      results) : results.map Prod.fst = items.map Prod.fst := by
  induction related with
  | nil => rfl
  | cons both _ ih => rw [List.map_cons, List.map_cons, both.1, ih]

/-- Items pass just if each of them does. -/
theorem Check.items_eq_ok_iff {α : Type} {check : Check α} {values : List Value} {reads : List α} :
    items check values = .ok reads ↔
      List.Forall₂ (fun value read => check value = .ok read) values reads := by
  conv_rhs => rw [← List.zipIdx_map_fst 0 values, List.forall₂_map_left_iff]
  rw [items, Checked.mapA_eq_ok_iff]
  simp only [Checked.under_eq_ok_iff]

/-- Entries pass just if each of their values does; what they are read as is kept under their
keys. -/
theorem Check.mapA_entries_eq_ok_iff {α : Type} {check : Check α} {entries : List (String × Value)}
    {reads : List (String × α)} :
    (entries.mapA fun entry => (entry.1, ·) <$> (check entry.2).under (.key entry.1)) = .ok reads ↔
      List.Forall₂ (fun given read => read.1 = given.1 ∧ check given.2 = .ok read.2) entries
        reads := by
  have entry : ∀ (given : String × Value) (read : String × α),
      ((given.1, ·) <$> (check given.2).under (.key given.1) : Checked (String × α)) = .ok read ↔
        read.1 = given.1 ∧ check given.2 = .ok read.2 := by
    intro given read
    simp only [Checked.map_eq_ok_iff, Checked.under_eq_ok_iff]
    constructor
    · rintro ⟨value, passed, rfl⟩
      exact ⟨rfl, passed⟩
    · rintro ⟨key, passed⟩
      exact ⟨read.2, passed, Prod.ext key.symm rfl⟩
  simp only [Checked.mapA_eq_ok_iff, entry]

/-- A dictionary passes just if each of its values does. -/
theorem Check.dictionary_eq_ok_iff {α : Type} {check : Check α} {value : Value} {result : Dict α} :
    Check.dictionary check value = .ok result ↔
      ∃ dict, value.fields? = some dict ∧
        List.Forall₂ (fun given read => read.1 = given.1 ∧ check given.2 = .ok read.2) dict.toList
          result.toList := by
  rw [Check.dictionary]
  cases value.fields? with
  | none => simp [Checked.fault]
  | some dict =>
    simp only [Checked.map_eq_ok_iff, mapA_entries_eq_ok_iff, Option.some.injEq, exists_eq_left']
    constructor
    · rintro ⟨reads, related, rfl⟩
      have distinct : (reads.map Prod.fst).Nodup := map_fst_of_forall₂ related ▸ dict.distinct
      rwa [Dict.toList_ofList distinct]
    · intro related
      exact ⟨result.toList, related, Dict.ofList_toList result⟩

end SelectClause

import SelectClause.Validation.Issue

/-! # Checks that collect every issue

The outcome of a check is the value that was read or the list of everything that is wrong with it.
Combining two outcomes keeps the issues of both, in order, so a record is checked field by field
without stopping at the first fault.

`failed_seq_failed` says that the issues of both sides are kept, and `seq_eq_ok_iff` that a
combination passes just if both sides do.
-/

namespace SelectClause

/-- A value that passed its check, or the issues that were found. -/
inductive Checked (α : Type) where
  | ok (value : α)
  | failed (issues : List Issue)
  deriving Repr

/-- A check reads what it expects out of a value of any shape. -/
abbrev Check (α : Type) := Value → Checked α

namespace Checked

variable {α β : Type}

/-- Applies a function to the value, if the check passed. -/
def map (change : α → β) : Checked α → Checked β
  | .ok value => .ok (change value)
  | .failed issues => .failed issues

/-- Combines two outcomes; the issues of both are kept, in order. -/
def seq : Checked (α → β) → Checked α → Checked β
  | .ok change, .ok value => .ok (change value)
  | .ok _, .failed issues => .failed issues
  | .failed issues, .ok _ => .failed issues
  | .failed first, .failed second => .failed (first ++ second)

instance : Applicative Checked where
  map := map
  pure := .ok
  seq change value := change.seq (value ())

/-- Goes on with a further check of the value that was read. -/
def andThen (outcome : Checked α) (next : α → Checked β) : Checked β :=
  match outcome with
  | .ok value => next value
  | .failed issues => .failed issues

/-- One issue, at the place that is being checked. -/
def fault (cause : Fault) : Checked α := .failed [⟨[], cause⟩]

/-- The same outcome, with its issues seen from one step further out. -/
def under (step : Step) : Checked α → Checked α
  | .ok value => .ok value
  | .failed issues => .failed (issues.map (Issue.under step))

@[simp] theorem pure_eq (value : α) : (pure value : Checked α) = .ok value := rfl

@[simp] theorem map_ok (change : α → β) (value : α) :
    (change <$> (.ok value : Checked α)) = .ok (change value) := rfl

@[simp] theorem map_failed (change : α → β) (issues : List Issue) :
    (change <$> (.failed issues : Checked α)) = .failed issues := rfl

@[simp] theorem ok_seq_ok (change : α → β) (value : α) :
    (.ok change : Checked (α → β)) <*> .ok value = .ok (change value) := rfl

@[simp] theorem ok_seq_failed (change : α → β) (issues : List Issue) :
    (.ok change : Checked (α → β)) <*> .failed issues = .failed issues := rfl

@[simp] theorem failed_seq_ok (issues : List Issue) (value : α) :
    (.failed issues : Checked (α → β)) <*> .ok value = .failed issues := rfl

@[simp] theorem failed_seq_failed (first second : List Issue) :
    (.failed first : Checked (α → β)) <*> .failed second = .failed (first ++ second) := rfl

@[simp] theorem under_ok (step : Step) (value : α) : (ok value).under step = .ok value := rfl

@[simp] theorem under_failed (step : Step) (issues : List Issue) :
    (failed issues : Checked α).under step = .failed (issues.map (Issue.under step)) := rfl

/-- A combination passes just if both sides do. -/
theorem seq_eq_ok_iff {change : Checked (α → β)} {outcome : Checked α} {result : β} :
    change <*> outcome = .ok result ↔
      ∃ function value, change = .ok function ∧ outcome = .ok value ∧ function value = result := by
  cases change <;> cases outcome <;> simp

/-- The outcome seen from further out passes just if the outcome does. -/
theorem under_eq_ok_iff {step : Step} {outcome : Checked α} {value : α} :
    outcome.under step = .ok value ↔ outcome = .ok value := by
  cases outcome <;> simp

instance : LawfulApplicative Checked where
  map_const := rfl
  seqLeft_eq first second := by cases first <;> cases second <;> rfl
  seqRight_eq first second := by cases first <;> cases second <;> rfl
  pure_seq change outcome := by cases outcome <;> rfl
  map_pure _ _ := rfl
  seq_pure outcome value := by cases outcome <;> rfl
  seq_assoc first second third := by
    cases first <;> cases second <;> cases third <;> simp
  id_map outcome := by cases outcome <;> rfl
  comp_map first second outcome := by cases outcome <;> rfl

end Checked

end SelectClause

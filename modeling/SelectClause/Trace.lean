import SelectClause.Failure
import SelectClause.Query.Strategy

/-! # Traced computations

A compilation reports what it does as a list of events. A traced computation is an outcome
together with the events up to it; a failure keeps the events that came before.

`events_bind_ok` and `events_bind_error` say which events a computation in two steps has, and
`outcome_bind_eq_error_iff` when it fails.
-/

namespace SelectClause

/-- What happened on the way to a result. -/
inductive Event where
  /-- A table was resolved to the one entity that it holds. -/
  | tableResolved (table : Reference) (identity : String)
  /-- The items of an aggregate clause were written. -/
  | aggregateWritten (items : Nat) (table : Option String)
  | aggregateCompiled (identity : String)
  /-- A requested attribute is a collection and has no column. -/
  | collectionSkipped (name identity : String)
  | joinLeft (name : String) (strategy : Strategy)
  | joinInlined (child name table : String)
  | projectionCompiled (columns : Nat) (identity : String)
  deriving DecidableEq, Repr

/-- The sentence that records an event, with names between quotes. -/
def Event.message : Event → String
  | .tableResolved table identity =>
      "Resolved table " ++ table.quoted ++ " to identity " ++ Text.quoted identity
  | .aggregateWritten items table =>
      s!"Compiled {items} aggregate fragments for " ++ Text.quotedOrNone table
  | .aggregateCompiled identity => "Compiled aggregate SELECT for " ++ Text.quoted identity
  | .collectionSkipped name identity =>
      "Skipping collection attribute " ++ Text.quoted name ++ " on " ++ Text.quoted identity
  | .joinLeft name strategy =>
      "Leaving " ++ Text.quoted name ++ " to downstream join logic (strategy " ++
        strategy.name ++ ")"
  | .joinInlined child name table =>
      "Inlining " ++ Text.quoted child ++ " columns into " ++ Text.quoted name ++ " as " ++
        Text.quoted table
  | .projectionCompiled columns identity =>
      s!"Compiled {columns} projected columns for " ++ Text.quoted identity

/-- An outcome and the events up to it. -/
structure Traced (α : Type) where
  events : List Event
  outcome : Except Failure α

namespace Traced

variable {α β : Type}

/-- Runs one computation and then another on its value. The second does not run, and adds no
events, where the first fails. -/
def bind (first : Traced α) (next : α → Traced β) : Traced β :=
  match first.outcome with
  | .ok value => ⟨first.events ++ (next value).events, (next value).outcome⟩
  | .error failure => ⟨first.events, .error failure⟩

instance : Monad Traced where
  pure value := ⟨[], .ok value⟩
  bind := bind

/-- Records an event. -/
def log (event : Event) : Traced Unit := ⟨[event], .ok ()⟩

/-- An outcome without events. -/
def ofExcept (outcome : Except Failure α) : Traced α := ⟨[], outcome⟩

instance : MonadLift (Except Failure) Traced := ⟨ofExcept⟩

@[simp] theorem events_pure (value : α) : (pure value : Traced α).events = [] := rfl

@[simp] theorem outcome_pure (value : α) : (pure value : Traced α).outcome = .ok value := rfl

@[simp] theorem events_log (event : Event) : (log event).events = [event] := rfl

@[simp] theorem outcome_log (event : Event) : (log event).outcome = .ok () := rfl

@[simp] theorem events_ofExcept (outcome : Except Failure α) : (ofExcept outcome).events = [] := rfl

@[simp] theorem outcome_ofExcept (outcome : Except Failure α) :
    (ofExcept outcome).outcome = outcome := rfl

@[simp] theorem liftM_eq (outcome : Except Failure α) : (liftM outcome : Traced α) =
    ofExcept outcome := rfl

@[simp] theorem ofExcept_ok_bind (value : α) (next : α → Traced β) :
    ofExcept (.ok value) >>= next = next value := rfl

@[simp] theorem ofExcept_error_bind (failure : Failure) (next : α → Traced β) :
    ofExcept (.error failure) >>= next = ofExcept (.error failure) := rfl

/-- After a step with a value the events of the next step follow. -/
theorem events_bind_ok {first : Traced α} {value : α} (succeeded : first.outcome = .ok value)
    (next : α → Traced β) : (first >>= next).events = first.events ++ (next value).events := by
  show (first.bind next).events = _
  simp [bind, succeeded]

/-- After a step with a value the outcome is that of the next step. -/
theorem outcome_bind_ok {first : Traced α} {value : α} (succeeded : first.outcome = .ok value)
    (next : α → Traced β) : (first >>= next).outcome = (next value).outcome := by
  show (first.bind next).outcome = _
  simp [bind, succeeded]

/-- After a failure no further events follow. -/
theorem events_bind_error {first : Traced α} {failure : Failure}
    (failed : first.outcome = .error failure) (next : α → Traced β) :
    (first >>= next).events = first.events := by
  show (first.bind next).events = _
  simp [bind, failed]

/-- A failure is the outcome of all that would follow. -/
theorem outcome_bind_error {first : Traced α} {failure : Failure}
    (failed : first.outcome = .error failure) (next : α → Traced β) :
    (first >>= next).outcome = .error failure := by
  show (first.bind next).outcome = _
  simp [bind, failed]

/-- The outcomes follow each other as without a trace. -/
theorem outcome_bind (first : Traced α) (next : α → Traced β) :
    (first >>= next).outcome = first.outcome.bind fun value => (next value).outcome := by
  show (first.bind next).outcome = _
  cases succeeded : first.outcome <;> simp [bind, succeeded, Except.bind]

/-- Two steps fail just if the first one fails or the second one fails on its value. -/
theorem outcome_bind_eq_error_iff {first : Traced α} {next : α → Traced β} {failure : Failure} :
    (first >>= next).outcome = .error failure ↔
      first.outcome = .error failure ∨
        ∃ value, first.outcome = .ok value ∧ (next value).outcome = .error failure := by
  cases ran : first.outcome with
  | error cause => simp [outcome_bind_error ran]
  | ok value => simp [outcome_bind_ok ran]

instance : LawfulMonad Traced := LawfulMonad.mk' Traced
  (by
    intro α traced
    obtain ⟨events, outcome⟩ := traced
    cases outcome <;> simp [Functor.map, bind])
  (by intros; rfl)
  (by
    intro α β γ first second third
    obtain ⟨events, outcome⟩ := first
    show (Traced.bind _ _).bind _ = Traced.bind _ _
    cases outcome with
    | error failure => rfl
    | ok value =>
      show (Traced.bind ⟨events, .ok value⟩ second).bind third =
        Traced.bind ⟨events, .ok value⟩ fun value => (second value).bind third
      cases inner : (second value).outcome <;> simp [bind, inner])

end Traced

end SelectClause

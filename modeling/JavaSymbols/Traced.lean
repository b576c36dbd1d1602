import JavaSymbols.Event

/-!
# Traced computations

Looking names up and converting types depends on the declaration tree alone:
such a computation has an outcome, which is a value or a fault, and on the way
reports events.  `Traced` pairs the two.  Events never influence an outcome,
which the equations for `outcome` make explicit.
-/

namespace JavaSymbols

/-- An outcome together with the events reported on the way, in order. -/
structure Traced (α : Type) where
  events : List Event
  outcome : Except Fault α

namespace Traced

variable {α β : Type}

/-- Run one computation after another; a fault ends the run. -/
def andThen (first : Traced α) (next : α → Traced β) : Traced β :=
  match first.outcome with
  | .error fault => ⟨first.events, .error fault⟩
  | .ok value =>
      let second := next value
      ⟨first.events ++ second.events, second.outcome⟩

instance : Monad Traced where
  pure value := ⟨[], .ok value⟩
  bind := andThen

/-- End with a fault. -/
def fail (fault : Fault) : Traced α :=
  ⟨[], .error fault⟩

/-- Report an event. -/
def report (event : Event) : Traced Unit :=
  ⟨[event], .ok ()⟩

/-- The same events, with the outcome as a value. -/
def attempt (run : Traced α) : Traced (Except Fault α) :=
  ⟨run.events, .ok run.outcome⟩

/-- A value, or a fault where it is missing. -/
def orFault (fault : Fault) : Option α → Traced α
  | some value => pure value
  | none => fail fault

@[simp]
theorem outcome_pure (value : α) : (pure value : Traced α).outcome = .ok value :=
  rfl

@[simp]
theorem outcome_fail (fault : Fault) : (fail fault : Traced α).outcome = .error fault :=
  rfl

@[simp]
theorem outcome_report (event : Event) : (report event).outcome = .ok () :=
  rfl

@[simp]
theorem outcome_attempt (run : Traced α) : run.attempt.outcome = .ok run.outcome :=
  rfl

/-- The outcome of a sequence is the sequence of the outcomes. -/
@[simp]
theorem outcome_bind (first : Traced α) (next : α → Traced β) :
    (first >>= next).outcome = first.outcome.bind fun value => (next value).outcome := by
  change (first.andThen next).outcome = _
  unfold andThen
  cases first.outcome <;> rfl

/-- A function of the value is a function of the outcome. -/
@[simp]
theorem outcome_map (change : α → β) (run : Traced α) :
    (change <$> run).outcome = run.outcome.map change := by
  change (run.andThen fun value => pure (change value)).outcome = _
  unfold andThen
  cases run.outcome <;> rfl

/-- Two traced computations with equal events and outcomes are equal. -/
@[ext]
theorem ext {first second : Traced α} (events : first.events = second.events)
    (outcome : first.outcome = second.outcome) : first = second := by
  cases first
  cases second
  simp_all

instance : LawfulMonad Traced :=
  LawfulMonad.mk' Traced
    (by
      intro α run
      change run.andThen _ = run
      rcases run with ⟨events, outcome | value⟩
      · rfl
      · simp [andThen])
    (by
      intro α β value next
      change Traced.andThen ⟨[], .ok value⟩ next = next value
      simp [andThen])
    (by
      intro α β γ first second third
      change (first.andThen second).andThen third = first.andThen fun value =>
        (second value).andThen third
      rcases first with ⟨events, outcome | value⟩
      · rfl
      · simp only [andThen]
        cases h : (second value).outcome with
        | error fault => simp
        | ok result => simp)

end Traced

end JavaSymbols

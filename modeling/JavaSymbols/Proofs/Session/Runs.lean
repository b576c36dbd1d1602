import Mathlib.Data.List.Forall2
import Mathlib.Order.Defs.Unbundled
import JavaSymbols.Session

/-!
# What a query does to its session

A statement about a run says that the session keeps an invariant, that it goes
on from the old session to the new one in some permitted way, and what holds of
the outcome.  Such statements are put together along the structure of queries.
-/

namespace JavaSymbols

/-- Two outcomes agree when both are the same fault, or both are values that a
relation connects. -/
inductive Agree {α β : Type} (related : α → β → Prop) :
    Except Fault α → Except Fault β → Prop where
  | fault (fault : Fault) : Agree related (.error fault) (.error fault)
  | value {expected : α} {value : β} (holds : related expected value) :
      Agree related (.ok expected) (.ok value)

theorem Agree.mono {α β : Type} {related weaker : α → β → Prop} {expected : Except Fault α}
    {outcome : Except Fault β} (agree : Agree related expected outcome)
    (weaken : ∀ a b, related a b → weaker a b) : Agree weaker expected outcome := by
  cases agree with
  | fault fault => exact .fault fault
  | value holds => exact .value (weaken _ _ holds)

/-- The values that agree can be used to show more of them. -/
theorem Agree.refine {α β : Type} {related finer : α → β → Prop} {expected : Except Fault α}
    {outcome : Except Fault β} (agree : Agree related expected outcome)
    (more : ∀ a b, expected = .ok a → outcome = .ok b → related a b → finer a b) :
    Agree finer expected outcome := by
  cases agree with
  | fault fault => exact .fault fault
  | value holds => exact .value (more _ _ rfl rfl holds)

theorem Agree.of_error {α β : Type} {related : α → β → Prop} {expected : Except Fault α}
    {fault : Fault} (agree : Agree related expected (.error fault)) : expected = .error fault := by
  cases agree
  rfl

theorem Agree.of_ok {α β : Type} {related : α → β → Prop} {expected : Except Fault α}
    {value : β} (agree : Agree related expected (.ok value)) :
    ∃ wanted, expected = .ok wanted ∧ related wanted value := by
  cases agree with
  | value holds => exact ⟨_, rfl, holds⟩

theorem Agree.answers {α β : Type} {related : α → β → Prop} {expected : α}
    {outcome : Except Fault β} (agree : Agree related (.ok expected) outcome) :
    ∃ value, outcome = .ok value ∧ related expected value := by
  cases agree with
  | value holds => exact ⟨_, rfl, holds⟩

theorem Agree.fails {α β : Type} {related : α → β → Prop} {fault : Fault}
    {outcome : Except Fault β} (agree : Agree related (.error fault) outcome) :
    outcome = .error fault := by
  cases agree
  rfl

namespace Query

/-- What holds of a run of a query from a session: the invariant holds after it,
the new session follows the old one, and the outcome is as told. -/
structure Runs {α : Type} (invariant : Session → Prop) (follows : Session → Session → Prop)
    (session : Session) (query : Query α) (good : Session → Except Fault α → Prop) : Prop where
  invariant : invariant (query session).2
  follows : follows session (query session).2
  good : good (query session).2 (query session).1

/-- A statement about the value of an outcome, if it is one. -/
def OnValue {α : Type} (good : Session → α → Prop) (session : Session)
    (outcome : Except Fault α) : Prop :=
  ∀ value, outcome = .ok value → good session value

/-- A statement about the value of an outcome, if it is one, and about its fault. -/
structure Judged {α : Type} (allowed : Fault → Prop) (good : Session → α → Prop)
    (session : Session) (outcome : Except Fault α) : Prop where
  fault : ∀ fault, outcome = .error fault → allowed fault
  value : OnValue good session outcome

theorem judged_ok {α : Type} {allowed : Fault → Prop} {good : Session → α → Prop}
    {session : Session} {value : α} (holds : good session value) :
    Judged allowed good session (.ok value) where
  fault _ failed := by cases failed
  value other same := by
    cases same
    exact holds

/-- No fault is allowed if something is sure. -/
abbrev NoneIf (sure : Prop) : Fault → Prop :=
  fun _ => ¬ sure

/-- A statement about the value of an outcome, which there is if that is sure. -/
abbrev Answered {α : Type} (sure : Prop) (good : Session → α → Prop) :
    Session → Except Fault α → Prop :=
  Judged (NoneIf sure) good

section

variable {α : Type} {sure : Prop} {good : Session → α → Prop} {session : Session}
variable {outcome : Except Fault α}

theorem Answered.answers (answered : Answered sure good session outcome) (isSure : sure) :
    ∃ value, outcome = .ok value := by
  cases outcome with
  | ok value => exact ⟨value, rfl⟩
  | error fault => exact absurd isSure (answered.fault fault rfl)

theorem answered_of_exists (answers : sure → ∃ value, outcome = .ok value)
    (value : OnValue good session outcome) : Answered sure good session outcome where
  fault fault failed isSure := by
    obtain ⟨value, same⟩ := answers isSure
    cases failed.symm.trans same
  value := value

end

/-- Nothing is claimed of a value. -/
abbrev Anything {α : Type} : Session → Except Fault α → Prop :=
  OnValue fun _ _ => True

theorem anything {α : Type} (session : Session) (outcome : Except Fault α) :
    Anything session outcome :=
  fun _ _ => trivial

variable {α β γ δ : Type} {invariant : Session → Prop} {follows : Session → Session → Prop}
variable {session : Session}

theorem Runs.mono {query : Query α} {good fine : Session → Except Fault α → Prop}
    (runs : Runs invariant follows session query good)
    (weaken : ∀ after outcome, invariant after → follows session after → good after outcome →
      fine after outcome) : Runs invariant follows session query fine where
  invariant := runs.invariant
  follows := runs.follows
  good := weaken _ _ runs.invariant runs.follows runs.good

theorem Runs.anything {query : Query α} {good : Session → Except Fault α → Prop}
    (runs : Runs invariant follows session query good) :
    Runs invariant follows session query Anything :=
  runs.mono fun after outcome _ _ _ => Query.anything after outcome

theorem Runs.attempt {query : Query α} {good : Session → Except Fault α → Prop}
    (runs : Runs invariant follows session query good) :
    Runs invariant follows session query.attempt fun after outcome =>
      ∃ inner, outcome = .ok inner ∧ good after inner :=
  ⟨runs.invariant, runs.follows, _, rfl, runs.good⟩

/-- A computation without events or faults is its value. -/
theorem ofTraced_pure (value : α) : ofTraced (pure value : Traced α) = pure value := by
  funext session
  rw [ofTraced_apply]
  change (_, { session with events := session.events ++ [] }) = _
  rw [List.append_nil]
  rfl

/-- A computation on its own, when the invariant is not about events. -/
theorem runs_ofTraced {run : Traced α} {good : Session → Except Fault α → Prop}
    (kept : invariant { session with events := session.events ++ run.events })
    (onward : follows session { session with events := session.events ++ run.events })
    (holds : good { session with events := session.events ++ run.events } run.outcome) :
    Runs invariant follows session (ofTraced run) good :=
  ⟨kept, onward, holds⟩

/-- A query that reads the cells first. -/
theorem Runs.bind_cells {next : Cells → Query α} {good : Session → Except Fault α → Prop}
    (runs : Runs invariant follows session (next session.cells) good) :
    Runs invariant follows session (Query.cells >>= next) good :=
  ⟨runs.invariant, runs.follows, runs.good⟩

/-- A query that reads the session first. -/
theorem Runs.bind_current {next : Session → Query α} {good : Session → Except Fault α → Prop}
    (runs : Runs invariant follows session (next session) good) :
    Runs invariant follows session (Query.current >>= next) good :=
  ⟨runs.invariant, runs.follows, runs.good⟩

/-- The outcome of a query whose value is only changed. -/
theorem outcome_bind_pure (query : Query α) (change : α → β) (session : Session) :
    ((query >>= fun value => pure (change value)) session).1 = (query session).1.map change := by
  rw [bind_apply]
  rcases query session with ⟨fault | value, after⟩ <;> rfl

/-- A query that ends with a change of the session. -/
theorem runs_update {change : Session → Session} {good : Session → Except Fault Unit → Prop}
    (kept : invariant (change session)) (onward : follows session (change session))
    (holds : good (change session) (.ok ())) :
    Runs invariant follows session (update change) good :=
  ⟨kept, onward, holds⟩

section

variable [IsPreorder Session follows]

theorem runs_pure {value : α} {good : Session → Except Fault α → Prop}
    (before : invariant session) (holds : good session (.ok value)) :
    Runs invariant follows session (pure value) good where
  invariant := before
  follows := refl_of follows session
  good := holds

theorem runs_fail {fault : Fault} {good : Session → Except Fault α → Prop}
    (before : invariant session) (holds : good session (.error fault)) :
    Runs invariant follows session (fail fault) good where
  invariant := before
  follows := refl_of follows session
  good := holds

/-- One query after another.  A fault of the first is the outcome of both. -/
theorem Runs.bind {first : Query α} {next : α → Query β} {good : Session → Except Fault α → Prop}
    {fine : Session → Except Fault β → Prop} (head : Runs invariant follows session first good)
    (fault : ∀ after cause, follows session after → good after (.error cause) →
      fine after (.error cause))
    (tail : ∀ after value, invariant after → follows session after → good after (.ok value) →
      Runs invariant follows after (next value) fine) :
    Runs invariant follows session (first >>= next) fine := by
  obtain ⟨kept, onward, holds⟩ := head
  rcases ran : first session with ⟨cause | value, after⟩
  · rw [ran] at kept onward holds
    have same : (first >>= next) session = (.error cause, after) := by rw [bind_apply, ran]
    exact ⟨by rwa [same], by rwa [same], by rw [same]; exact fault after cause onward holds⟩
  · rw [ran] at kept onward holds
    have same : (first >>= next) session = next value after := by rw [bind_apply, ran]
    obtain ⟨keptLater, later, final⟩ := tail after value kept onward holds
    exact ⟨by rwa [same], by rw [same]; exact trans_of follows onward later, by rwa [same]⟩

/-- One query after another, when only values matter. -/
theorem Runs.bind_value {first : Query α} {next : α → Query β} {good : Session → α → Prop}
    {fine : Session → β → Prop} (head : Runs invariant follows session first (OnValue good))
    (tail : ∀ after value, invariant after → follows session after → good after value →
      Runs invariant follows after (next value) (OnValue fine)) :
    Runs invariant follows session (first >>= next) (OnValue fine) := by
  refine head.bind ?_ ?_
  · intro after cause _ _ value same
    cases same
  · intro after value kept onward holds
    exact tail after value kept onward (holds value rfl)

/-- One query after another, when the faults of both are judged. -/
theorem Runs.bind_judged {first : Query α} {next : α → Query β} {allowed : Fault → Prop}
    {good : Session → α → Prop} {fine : Session → β → Prop}
    (head : Runs invariant follows session first (Judged allowed good))
    (tail : ∀ after value, invariant after → follows session after → good after value →
      Runs invariant follows after (next value) (Judged allowed fine)) :
    Runs invariant follows session (first >>= next) (Judged allowed fine) := by
  refine head.bind ?_ ?_
  · intro after cause _ judged
    exact ⟨fun fault same => judged.fault fault (by cases same; rfl), nofun⟩
  · intro after value kept onward judged
    exact tail after value kept onward (judged.value value rfl)

omit [IsPreorder Session follows] in
/-- No value is promised. -/
theorem Runs.unsure {query : Query α} {good : Session → α → Prop}
    (runs : Runs invariant follows session query (OnValue good)) :
    Runs invariant follows session query (Answered False good) :=
  runs.mono fun _ _ _ _ holds => ⟨fun _ _ => not_false, holds⟩

/-- A query of which only the effects matter. -/
theorem Runs.discard {query : Query α} {good : Session → Except Fault α → Prop}
    (runs : Runs invariant follows session query good) :
    Runs invariant follows session (Functor.discard query) Anything := by
  change Runs invariant follows session (query >>= fun _ => pure ()) Anything
  refine runs.anything.bind_value ?_
  intro after _ kept _ _
  exact runs_pure kept (Query.anything _ _)

/-- A query whose outcome agrees with an expected one, and then another. -/
theorem Runs.bind_agree {first : Query α} {next : α → Query β} {expected : Except Fault γ}
    {related : Session → γ → α → Prop} {later : γ → Except Fault δ}
    {fine : Session → δ → β → Prop}
    (head : Runs invariant follows session first fun after => Agree (related after) expected)
    (tail : ∀ after wanted value, invariant after → follows session after →
      expected = .ok wanted → related after wanted value →
      Runs invariant follows after (next value) fun last => Agree (fine last) (later wanted)) :
    Runs invariant follows session (first >>= next) fun after =>
      Agree (fine after) (expected >>= later) := by
  refine head.bind ?_ ?_
  · intro after cause _ agree
    cases agree
    exact .fault cause
  · intro after value kept onward agree
    cases agree with
    | value holds => exact tail after _ value kept onward rfl holds

/-- Queries for each entry of a list, when their faults are judged. -/
theorem runs_mapM_judged {entries : List α} {query : α → Query β} {allowed : Fault → Prop}
    {good : Session → β → Prop} (before : invariant session)
    (mono : ∀ old new value, follows old new → good old value → good new value)
    (each : ∀ entry ∈ entries, ∀ after, invariant after → follows session after →
      Runs invariant follows after (query entry) (Judged allowed good)) :
    Runs invariant follows session (entries.mapM query)
      (Judged allowed fun after values => ∀ value ∈ values, good after value) := by
  induction entries generalizing session with
  | nil =>
      rw [List.mapM_nil]
      exact runs_pure before (judged_ok (by simp))
  | cons entry rest ih =>
      rw [List.mapM_cons]
      have here := each entry List.mem_cons_self session before (refl_of follows session)
      refine here.bind_judged ?_
      intro after value kept onward holds
      have later := ih kept fun other member last keptLast followed =>
        each other (List.mem_cons_of_mem entry member) last keptLast
          (trans_of follows onward followed)
      refine later.bind_judged ?_
      intro last values keptLast followed all
      refine runs_pure keptLast (judged_ok ?_)
      exact List.forall_mem_cons.mpr ⟨mono _ _ _ followed holds, all⟩

/-- Queries for each entry of a list, whose outcomes agree with expected ones.
A count that never falls stays the same just when it does so for each entry. -/
theorem runs_mapM_counted {wanted : List γ} {entries : List α} {query : α → Query β}
    {expect : γ → Except Fault δ} {related : Session → δ → β → Prop} {paired : γ → α → Prop}
    (follows : Session → Session → Prop) [IsPreorder Session follows] (count : Session → Nat)
    (quiet : γ → Prop) (before : invariant session)
    (pairs : List.Forall₂ paired wanted entries)
    (mono : ∀ old new one other, follows old new → related old one other → related new one other)
    (grows : ∀ old new, follows old new → count old ≤ count new)
    (each : ∀ one ∈ wanted, ∀ entry, paired one entry → ∀ after, invariant after →
      follows session after → Runs invariant follows after (query entry) fun last outcome =>
        Agree (related last) (expect one) outcome ∧
          ∀ value, outcome = .ok value → (count last = count after ↔ quiet one)) :
    Runs invariant follows session (entries.mapM query) fun after outcome =>
      Agree (List.Forall₂ (related after)) (wanted.mapM expect) outcome ∧
        ∀ values, outcome = .ok values →
          (count after = count session ↔ ∀ one ∈ wanted, quiet one) := by
  induction pairs generalizing session with
  | nil =>
      rw [List.mapM_nil, List.mapM_nil]
      exact runs_pure before ⟨.value .nil, by simp⟩
  | @cons one entry wanted entries pair pairs ih =>
      rw [List.mapM_cons, List.mapM_cons]
      have here := each one List.mem_cons_self entry pair session before (refl_of follows session)
      refine here.bind ?_ ?_
      · rintro after cause _ ⟨agree, _⟩
        rw [agree.of_error]
        exact ⟨.fault cause, by simp⟩
      · rintro after value kept onward ⟨agree, counted⟩
        obtain ⟨expected, given, holds⟩ := agree.of_ok
        rw [given]
        have later := ih kept fun other member entry pair last keptLast followed =>
          each other (List.mem_cons_of_mem one member) entry pair last keptLast
            (trans_of follows onward followed)
        refine later.bind ?_ ?_
        · rintro last cause _ ⟨agree, _⟩
          rw [agree.of_error]
          exact ⟨.fault cause, by simp⟩
        · rintro last values keptLast followed ⟨agree, countedLast⟩
          obtain ⟨others, givenOthers, all⟩ := agree.of_ok
          rw [givenOthers]
          refine runs_pure keptLast ⟨.value (.cons (mono _ _ _ _ followed holds) all), ?_⟩
          intro _ _
          have first := counted value rfl
          have rest := countedLast values rfl
          have early := grows _ _ onward
          have late := grows _ _ followed
          rw [List.forall_mem_cons, ← first, ← rest]
          omega

/-- Queries for each entry of a list, whose outcomes agree with expected ones. -/
theorem runs_mapM_agree {wanted : List γ} {entries : List α} {query : α → Query β}
    {expect : γ → Except Fault δ} {related : Session → δ → β → Prop} {paired : γ → α → Prop}
    (before : invariant session) (pairs : List.Forall₂ paired wanted entries)
    (mono : ∀ old new one other, follows old new → related old one other → related new one other)
    (each : ∀ one ∈ wanted, ∀ entry, paired one entry → ∀ after, invariant after →
      follows session after →
      Runs invariant follows after (query entry) fun last => Agree (related last) (expect one)) :
    Runs invariant follows session (entries.mapM query) fun after =>
      Agree (List.Forall₂ (related after)) (wanted.mapM expect) := by
  have counted := runs_mapM_counted follows (fun _ => 0) (fun _ => True) before pairs mono
    (fun _ _ _ => Nat.le_refl 0) (fun one member entry pair after kept onward =>
      (each one member entry pair after kept onward).mono fun _ _ _ _ agree => ⟨agree, by simp⟩)
  exact counted.mono fun _ _ _ _ both => both.1

/-- Queries for each entry of a list, with an expected outcome for each entry. -/
theorem runs_mapM_expected {entries : List α} {query : α → Query β} {expect : α → Except Fault δ}
    {related : Session → δ → β → Prop} (before : invariant session)
    (mono : ∀ old new one other, follows old new → related old one other → related new one other)
    (each : ∀ entry ∈ entries, ∀ after, invariant after → follows session after →
      Runs invariant follows after (query entry) fun last => Agree (related last) (expect entry)) :
    Runs invariant follows session (entries.mapM query) fun after =>
      Agree (List.Forall₂ (related after)) (entries.mapM expect) := by
  have pairs : List.Forall₂ Eq entries entries := List.forall₂_refl entries
  refine runs_mapM_agree before pairs mono ?_
  rintro one member _ rfl after kept onward
  exact each one member after kept onward

end

end Query

end JavaSymbols

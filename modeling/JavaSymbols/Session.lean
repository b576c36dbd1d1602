import JavaSymbols.Traced
import JavaSymbols.Ty.View

/-!
# Sessions

Queries that defer or force types, or that remember earlier answers, run in a
session.  A session holds the cells of deferred types, the remembered supertype
lists and field lists, the declarations whose inherited fields are being
collected, and the events reported so far.

A query that ends with a fault keeps the changes it made to its session.
-/

namespace JavaSymbols

/-- A field as seen from the declaration on which it was looked up. -/
structure Field where
  name : String
  /-- The type, which is deferred when it does not resolve. -/
  type : Ty
  access : Access
  isStatic : Bool
  isVolatile : Bool
  /-- The item that declares the field. -/
  declaring : ItemId
  /-- Whether a record header gives rise to the field. -/
  isDerived : Bool
  deriving Inhabited

/-- The state of a session. -/
structure Session where
  cells : Cells
  /-- Remembered supertype lists, by item and leniency. -/
  supertypes : List ((ItemId × Bool) × List Reference)
  /-- Remembered field lists, by item. -/
  fields : List (ItemId × List Field)
  /-- The items whose inherited fields are being collected. -/
  expanding : List ItemId
  /-- How often the collection of fields was cut at a cycle. -/
  cuts : Nat
  /-- The events reported so far, in order. -/
  events : List Event
  deriving Inhabited

/-- The session in which nothing has been asked. -/
def Session.start : Session where
  cells := .empty
  supertypes := []
  fields := []
  expanding := []
  cuts := 0
  events := []

/-- A computation that reads and changes a session. -/
def Query (α : Type) : Type :=
  Session → Except Fault α × Session

namespace Query

variable {α β : Type}

/-- Run one query after another; a fault ends the run. -/
def andThen (first : Query α) (next : α → Query β) : Query β := fun session =>
  match first session with
  | (.error fault, session) => (.error fault, session)
  | (.ok value, session) => next value session

instance : Monad Query where
  pure value := fun session => (.ok value, session)
  bind := andThen

/-- End with a fault. -/
def fail (fault : Fault) : Query α := fun session =>
  (.error fault, session)

/-- The current session. -/
def current : Query Session := fun session =>
  (.ok session, session)

/-- The current cells. -/
def cells : Query Cells := fun session =>
  (.ok session.cells, session)

/-- Change the session. -/
def update (change : Session → Session) : Query Unit := fun session =>
  (.ok (), change session)

/-- A computation that depends on the environment alone, with its events. -/
def ofTraced (run : Traced α) : Query α := fun session =>
  (run.outcome, { session with events := session.events ++ run.events })

instance : MonadLift Traced Query where
  monadLift := ofTraced

/-- Report an event. -/
def report (event : Event) : Query Unit :=
  ofTraced (Traced.report event)

/-- The same effects, with the outcome as a value. -/
def attempt (query : Query α) : Query (Except Fault α) := fun session =>
  match query session with
  | (outcome, session) => (.ok outcome, session)

/-- Put the conversion of a written type off: a deferred type with a new cell. -/
def postpone (source : TypeExpr) (site : ItemId) : Query Ty := fun session =>
  (.ok (.deferred session.cells.size source site),
    { session with cells := session.cells.grow source site })

/-- Store a type in a cell. -/
def settleCell (cell : Nat) (type : Ty) : Query Unit :=
  update fun session => { session with cells := session.cells.set cell type }

/-- Run a query while an item counts as being expanded, which ends with the
query whatever its outcome. -/
def whileExpanding (item : ItemId) (query : Query α) : Query α := fun session =>
  match query { session with expanding := item :: session.expanding } with
  | (outcome, session) => (outcome, { session with expanding := session.expanding.erase item })

/-! ## Running queries -/

@[simp]
theorem pure_apply (value : α) (session : Session) :
    (pure value : Query α) session = (.ok value, session) :=
  rfl

theorem bind_apply (first : Query α) (next : α → Query β) (session : Session) :
    (first >>= next) session =
      match first session with
      | (.error fault, session) => (.error fault, session)
      | (.ok value, session) => next value session :=
  rfl

@[simp]
theorem fail_apply (fault : Fault) (session : Session) :
    (fail fault : Query α) session = (.error fault, session) :=
  rfl

@[simp]
theorem current_apply (session : Session) : current session = (.ok session, session) :=
  rfl

@[simp]
theorem cells_apply (session : Session) : cells session = (.ok session.cells, session) :=
  rfl

@[simp]
theorem update_apply (change : Session → Session) (session : Session) :
    update change session = (.ok (), change session) :=
  rfl

@[simp]
theorem ofTraced_apply (run : Traced α) (session : Session) :
    ofTraced run session =
      (run.outcome, { session with events := session.events ++ run.events }) :=
  rfl

@[simp]
theorem attempt_apply (query : Query α) (session : Session) :
    query.attempt session = (.ok (query session).1, (query session).2) :=
  rfl

instance : LawfulMonad Query :=
  LawfulMonad.mk' Query
    (by
      intro α query
      funext session
      change query.andThen _ session = query session
      unfold andThen
      rcases query session with ⟨outcome | value, after⟩ <;> rfl)
    (by
      intro α β value next
      rfl)
    (by
      intro α β γ first second third
      funext session
      change (first.andThen second).andThen third session =
        first.andThen (fun value => (second value).andThen third) session
      simp only [andThen]
      rcases first session with ⟨outcome | value, after⟩ <;> rfl)

end Query

end JavaSymbols

import JavaSymbols.Methods

/-!
# Events are written and never read

A session collects events, and no query looks at those that are there.  So from
sessions that differ in their events alone, the search for a method and the
signature of what it finds have the same outcome, and they leave sessions that
differ in their events alone.
-/

namespace JavaSymbols

/-- A session without its events. -/
def Session.withoutEvents (session : Session) : Session :=
  { session with events := [] }

/-- The events of a session have no part in what a query answers and does. -/
def Query.IgnoresEvents {α : Type} (query : Query α) : Prop :=
  ∀ session, (query session.withoutEvents).1 = (query session).1 ∧
    (query session.withoutEvents).2.withoutEvents = (query session).2.withoutEvents

namespace Query

variable {α β : Type}

/-- From sessions that differ in events alone, a query has one outcome and leaves
sessions that differ in events alone. -/
theorem IgnoresEvents.same {query : Query α} (ignores : query.IgnoresEvents)
    {session twin : Session} (alike : twin.withoutEvents = session.withoutEvents) :
    (query twin).1 = (query session).1 ∧
      (query twin).2.withoutEvents = (query session).2.withoutEvents := by
  rcases ignores session with ⟨sameOutcome, sameAfter⟩
  rcases ignores twin with ⟨twinOutcome, twinAfter⟩
  rw [alike] at twinOutcome twinAfter
  exact ⟨twinOutcome.symm.trans sameOutcome, twinAfter.symm.trans sameAfter⟩

theorem ignoresEvents_pure (value : α) : (pure value : Query α).IgnoresEvents :=
  fun _ => ⟨rfl, rfl⟩

theorem ignoresEvents_fail (fault : Fault) : (fail fault : Query α).IgnoresEvents :=
  fun _ => ⟨rfl, rfl⟩

theorem ignoresEvents_cells : cells.IgnoresEvents :=
  fun _ => ⟨rfl, rfl⟩

/-- A computation on its own only adds events. -/
theorem ignoresEvents_ofTraced (run : Traced α) : (ofTraced run).IgnoresEvents :=
  fun _ => ⟨rfl, rfl⟩

theorem ignoresEvents_postpone (source : TypeExpr) (site : ItemId) :
    (postpone source site).IgnoresEvents :=
  fun _ => ⟨rfl, rfl⟩

theorem ignoresEvents_settleCell (cell : Nat) (type : Ty) :
    (settleCell cell type).IgnoresEvents :=
  fun _ => ⟨rfl, rfl⟩

theorem IgnoresEvents.bind {query : Query α} {next : α → Query β} (head : query.IgnoresEvents)
    (tail : ∀ value, (next value).IgnoresEvents) : (query >>= next).IgnoresEvents := by
  intro session
  rcases head session with ⟨sameOutcome, sameAfter⟩
  simp only [bind_apply]
  rcases here : query session with ⟨outcome, after⟩
  rcases there : query session.withoutEvents with ⟨otherOutcome, otherAfter⟩
  rw [here, there] at sameOutcome sameAfter
  cases sameOutcome
  cases outcome with
  | error fault => exact ⟨rfl, sameAfter⟩
  | ok value => exact (tail value).same sameAfter

/-- A query that reads the session first, and not its events. -/
theorem ignoresEvents_bind_current {next : Session → Query α}
    (unread : ∀ session, next session.withoutEvents = next session)
    (tail : ∀ session, (next session).IgnoresEvents) : (current >>= next).IgnoresEvents := by
  intro session
  simp only [bind_apply, current_apply, unread]
  exact tail session session

theorem IgnoresEvents.attempt {query : Query α} (ignores : query.IgnoresEvents) :
    query.attempt.IgnoresEvents := by
  intro session
  rcases ignores session with ⟨sameOutcome, sameAfter⟩
  exact ⟨congrArg Except.ok sameOutcome, sameAfter⟩

theorem ignoresEvents_mapM {query : β → Query α} (each : ∀ entry, (query entry).IgnoresEvents)
    (entries : List β) : (entries.mapM query).IgnoresEvents := by
  induction entries with
  | nil => exact ignoresEvents_pure []
  | cons entry rest ih =>
      rw [List.mapM_cons]
      apply (each entry).bind
      intro value
      apply ih.bind
      intro values
      exact ignoresEvents_pure (value :: values)

end Query

/-! ## Searches -/

namespace Search

variable {Node Key Edge Answer : Type} {search : Search Query Node Key Edge Answer}

/-- The steps of a search do not look at events. -/
structure IgnoresEvents (search : Search Query Node Key Edge Answer) : Prop where
  visit : ∀ node, (search.visit node).IgnoresEvents
  edges : ∀ node, (search.edges node).IgnoresEvents
  enter : ∀ node edge, (search.enter node edge).IgnoresEvents

theorem IgnoresEvents.follow (steps : search.IgnoresEvents)
    {explore : List Node → Node → Query (List Node × Option Answer)}
    (each : ∀ seen node, (explore seen node).IgnoresEvents) (node : Node) (edges : List Edge) :
    ∀ seen, (search.follow explore node seen edges).IgnoresEvents := by
  induction edges with
  | nil =>
      intro seen
      exact Query.ignoresEvents_pure _
  | cons edge rest ih =>
      intro seen
      apply (steps.enter node edge).bind
      intro next
      cases next with
      | none => exact ih seen
      | some next =>
          apply (each seen next).bind
          rintro ⟨after, answer⟩
          cases answer with
          | some answer => exact Query.ignoresEvents_pure _
          | none => exact ih after

variable [DecidableEq Key]

theorem IgnoresEvents.explore (steps : search.IgnoresEvents) (depth : Nat) :
    ∀ seen node, (search.explore depth seen node).IgnoresEvents := by
  induction depth with
  | zero =>
      intro seen node
      exact Query.ignoresEvents_pure _
  | succ depth ih =>
      intro seen node
      rw [Search.explore]
      by_cases isSeen : search.isSeen seen node = true
      · rw [if_pos isSeen]
        exact Query.ignoresEvents_pure _
      · rw [if_neg isSeen]
        apply (steps.visit node).bind
        intro found
        cases found with
        | some answer => exact Query.ignoresEvents_pure _
        | none =>
            apply (steps.edges node).bind
            intro edges
            exact steps.follow ih node edges _

end Search

namespace Environment

open Query

variable {env : Environment}

/-! ## Forcing -/

theorem ignoresEvents_forceCell (cell : Nat) (source : TypeExpr) (site : ItemId) :
    (env.forceCell cell source site).IgnoresEvents := by
  apply ignoresEvents_cells.bind
  intro cells
  split
  · exact ignoresEvents_pure _
  · apply (ignoresEvents_ofTraced (env.convert site source)).bind
    intro type
    apply (ignoresEvents_settleCell cell type).bind
    intro _
    exact ignoresEvents_pure type

mutual

theorem ignoresEvents_force : (type : Ty) → (env.force type).IgnoresEvents
  | .deferred cell source site => ignoresEvents_forceCell cell source site
  | .reference _ _ args => (ignoresEvents_forceAll args).bind fun _ => ignoresEvents_pure _
  | .array component => (ignoresEvents_force component).bind fun _ => ignoresEvents_pure _
  | .upperBounded bound => (ignoresEvents_force bound).bind fun _ => ignoresEvents_pure _
  | .lowerBounded bound => (ignoresEvents_force bound).bind fun _ => ignoresEvents_pure _
  | .primitive _ => ignoresEvents_pure _
  | .void => ignoresEvents_pure _
  | .null => ignoresEvents_pure _
  | .typeVar _ => ignoresEvents_pure _
  | .wildcard => ignoresEvents_pure _

theorem ignoresEvents_forceAll : (types : List Ty) → (env.forceAll types).IgnoresEvents
  | [] => ignoresEvents_pure _
  | type :: rest =>
      (ignoresEvents_force type).bind fun _ =>
        (ignoresEvents_forceAll rest).bind fun _ => ignoresEvents_pure _

end

theorem ignoresEvents_forceEdge (supertype : Reference) :
    (env.forceEdge supertype).IgnoresEvents := by
  have forced : (env.forceReference supertype).IgnoresEvents :=
    (ignoresEvents_forceAll supertype.args).bind fun _ => ignoresEvents_pure _
  apply forced.attempt.bind
  intro outcome
  cases outcome with
  | ok edge => exact ignoresEvents_pure edge
  | error fault =>
      dsimp only
      split
      · apply (ignoresEvents_ofTraced _).bind
        intro _
        exact ignoresEvents_pure supertype
      · exact ignoresEvents_fail fault

/-! ## Ancestors -/

theorem ignoresEvents_instantiate (item : ItemId) (supertype : Supertype) :
    (env.instantiate item supertype).IgnoresEvents := by
  have each : ∀ arg, (env.instantiateArg item arg).IgnoresEvents := by
    intro arg
    cases arg with
    | written source => exact ignoresEvents_postpone source item
    | self => exact ignoresEvents_pure _
  apply (ignoresEvents_mapM each supertype.args).bind
  intro args
  exact ignoresEvents_pure _

theorem ignoresEvents_itemAncestors (id : ItemId) (lenient : Bool) :
    (env.itemAncestors id lenient).IgnoresEvents := by
  unfold itemAncestors
  apply ignoresEvents_bind_current
  · intro session
    rfl
  · intro session
    split
    · exact ignoresEvents_pure _
    · apply (ignoresEvents_ofTraced (env.supertypesOf id lenient)).bind
      intro supertypes
      apply (ignoresEvents_mapM (ignoresEvents_instantiate id) supertypes).bind
      intro ancestors
      have remember : (update fun session =>
          { session with supertypes := ((id, lenient), ancestors) :: session.supertypes
            }).IgnoresEvents := fun _ => ⟨rfl, rfl⟩
      apply remember.bind
      intro _
      exact ignoresEvents_pure ancestors

/-! ## Choosing among overloads -/

theorem ignoresEvents_isAssignable (source target : Ty) :
    (env.isAssignable source target).IgnoresEvents :=
  (ignoresEvents_force source).bind fun _ =>
    (ignoresEvents_force target).bind fun _ => ignoresEvents_ofTraced _

theorem ignoresEvents_allAssignable (sources : List Ty) :
    ∀ targets, (env.allAssignable sources targets).IgnoresEvents := by
  induction sources with
  | nil =>
      intro targets
      exact ignoresEvents_pure true
  | cons source sources ih =>
      intro targets
      cases targets with
      | nil => exact ignoresEvents_pure true
      | cons target targets =>
          apply (ignoresEvents_isAssignable source target).bind
          intro accepted
          cases accepted with
          | true => exact ih targets
          | false => exact ignoresEvents_pure false

theorem ignoresEvents_applicable? (call : Call) (item : ItemId) (view : Option Reference)
    (overload : Nat × MethodDecl) : (env.applicable? call item view overload).IgnoresEvents := by
  apply (ignoresEvents_ofTraced (env.paramTypes ⟨item, .declared overload.1⟩)).attempt.bind
  intro outcome
  cases outcome with
  | ok params =>
      apply ignoresEvents_cells.bind
      intro cells
      apply (ignoresEvents_allAssignable call.args _).bind
      intro accepted
      exact ignoresEvents_pure _
  | error fault =>
      dsimp only
      split
      · apply (ignoresEvents_ofTraced _).bind
        intro _
        exact ignoresEvents_pure none
      · exact ignoresEvents_fail fault

theorem ignoresEvents_applicables (call : Call) (item : ItemId) (view : Option Reference) :
    (env.applicables call item view).IgnoresEvents :=
  (ignoresEvents_mapM (ignoresEvents_applicable? call item view) _).bind fun _ =>
    ignoresEvents_pure _

theorem ignoresEvents_passesToAll (method : Applicable) (others : List Applicable) :
    (env.passesToAll method others).IgnoresEvents := by
  induction others with
  | nil => exact ignoresEvents_pure true
  | cons other rest ih =>
      apply (ignoresEvents_allAssignable method.params other.params).bind
      intro passes
      cases passes with
      | true => exact ih
      | false => exact ignoresEvents_pure false

theorem ignoresEvents_firstPassingToAll (all methods : List Applicable) :
    (env.firstPassingToAll all methods).IgnoresEvents := by
  induction methods with
  | nil => exact ignoresEvents_pure none
  | cons method rest ih =>
      apply (ignoresEvents_passesToAll method all).bind
      intro passes
      cases passes with
      | true => exact ignoresEvents_pure _
      | false => exact ih

theorem ignoresEvents_mostSpecific (all : List Applicable) :
    (env.mostSpecific all).IgnoresEvents := by
  unfold mostSpecific
  split
  · exact ignoresEvents_pure none
  · exact ignoresEvents_pure _
  · apply (ignoresEvents_firstPassingToAll _ _).bind
    intro found
    exact ignoresEvents_pure _

/-! ## Searching for a method -/

theorem ignoresEvents_methodSearch (call : Call) : (env.methodSearch call).IgnoresEvents where
  visit ascent := by
    apply (ignoresEvents_applicables call ascent.item ascent.view).bind
    intro all
    apply (ignoresEvents_mostSpecific all).bind
    intro method
    exact ignoresEvents_pure _
  edges ascent := ignoresEvents_itemAncestors ascent.item true
  enter ascent ancestor := by
    apply (ignoresEvents_forceEdge ancestor).bind
    intro edge
    apply ignoresEvents_cells.bind
    intro cells
    apply (ignoresEvents_ofTraced _).bind
    intro _
    exact ignoresEvents_pure _

/-- The search for a method does not look at events. -/
theorem ignoresEvents_findMethod (call : Call) (item : ItemId) :
    (env.findMethod call item).IgnoresEvents :=
  ((ignoresEvents_methodSearch call).explore _ _ _).bind fun _ => ignoresEvents_pure _

end Environment

end JavaSymbols

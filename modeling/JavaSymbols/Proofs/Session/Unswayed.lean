import JavaSymbols.Fields
import JavaSymbols.Proofs.Resolution.Unswayed
import JavaSymbols.Proofs.Subtyping.Reachability

/-!
# Queries that ids outside the tree do not sway

Queries pass over names that denote nothing and never over an id outside the
tree.  So a query that does not end with the fault that the source of names
strayed has the outcome, and does to its session, what it does with any other
source of names that agrees within the tree.

Subtyping is judged by the outcome alone: the positions of a declaration are all
resolved before the first of them is followed, and the search can be over before
it comes to one that strayed.
-/

namespace JavaSymbols

open Environment

variable {env : Environment} {solve : String → Option ItemId}

/-- A query ends because the source of names strays, or another one has the same
outcome and leaves the same session. -/
def Query.Unswayed {α : Type} (env : Environment) (query other : Query α) : Prop :=
  ∀ session, env.Astray (query session).1 ∨ other session = query session

namespace Query

variable {α β : Type}

theorem unswayed_rfl {query : Query α} : Unswayed env query query :=
  fun _ => .inr rfl

theorem Unswayed.outcome {query other : Query α} (same : Unswayed env query other)
    (session : Session) : env.SameUnlessAstray (query session).1 (other session).1 :=
  (same session).imp id (congrArg Prod.fst)

theorem unswayed_lift {run other : Traced α} (same : Traced.Unswayed env run other) :
    Unswayed env (ofTraced run) (ofTraced other) := by
  intro session
  rcases same with astray | rfl
  · exact .inl astray
  · exact .inr rfl

theorem Unswayed.bind {query other : Query α} {next onward : α → Query β}
    (head : Unswayed env query other) (tail : ∀ value, Unswayed env (next value) (onward value)) :
    Unswayed env (query >>= next) (other >>= onward) := by
  intro session
  simp only [bind_apply]
  rcases head session with ⟨fault, failed, stray⟩ | same
  · left
    rcases ran : query session with ⟨outcome, after⟩
    rw [ran] at failed
    subst failed
    exact ⟨fault, rfl, stray⟩
  · rw [same]
    rcases query session with ⟨fault | value, after⟩
    · exact .inr rfl
    · exact tail value after

/-- Handling a fault does no harm as long as a stray id is not passed over. -/
theorem Unswayed.handle {query other : Query α} {next onward : Except Fault α → Query β}
    (head : Unswayed env query other)
    (tail : ∀ outcome, Unswayed env (next outcome) (onward outcome))
    (ends : ∀ fault, env.Stray fault → next (.error fault) = fail fault) :
    Unswayed env (query.attempt >>= next) (other.attempt >>= onward) := by
  intro session
  simp only [bind_apply, attempt_apply]
  rcases head session with ⟨fault, failed, stray⟩ | same
  · left
    rw [failed, ends fault stray]
    exact ⟨fault, rfl, stray⟩
  · rw [same]
    exact tail _ _

theorem unswayed_mapM {query other : β → Query α}
    (each : ∀ entry, Unswayed env (query entry) (other entry)) (entries : List β) :
    Unswayed env (entries.mapM query) (entries.mapM other) := by
  induction entries with
  | nil => exact unswayed_rfl
  | cons entry rest ih =>
      rw [List.mapM_cons, List.mapM_cons]
      apply (each entry).bind
      intro value
      apply ih.bind
      intro values
      exact unswayed_rfl

theorem Unswayed.whileExpanding {query other : Query α} (same : Unswayed env query other)
    (item : ItemId) : Unswayed env (query.whileExpanding item) (other.whileExpanding item) := by
  intro session
  unfold Query.whileExpanding
  rcases same { session with expanding := item :: session.expanding } with astray | same
  · exact .inl astray
  · exact .inr (by rw [same])

end Query

/-! ## Searches -/

namespace Search

variable {Node Key Edge Answer : Type} {search other : Search Query Node Key Edge Answer}

/-- The steps of a search are not swayed. -/
structure Unswayed (env : Environment) (search other : Search Query Node Key Edge Answer) :
    Prop where
  key : other.key = search.key
  visit : ∀ node, Query.Unswayed env (search.visit node) (other.visit node)
  edges : ∀ node, Query.Unswayed env (search.edges node) (other.edges node)
  enter : ∀ node edge, Query.Unswayed env (search.enter node edge) (other.enter node edge)

theorem Unswayed.follow (steps : Unswayed env search other)
    {explore onward : List Node → Node → Query (List Node × Option Answer)}
    (each : ∀ seen node, Query.Unswayed env (explore seen node) (onward seen node)) (node : Node)
    (edges : List Edge) : ∀ seen, Query.Unswayed env (search.follow explore node seen edges)
      (other.follow onward node seen edges) := by
  induction edges with
  | nil =>
      intro seen
      exact Query.unswayed_rfl
  | cons edge rest ih =>
      intro seen
      apply (steps.enter node edge).bind
      intro next
      cases next with
      | none => exact ih seen
      | some next =>
          apply (each seen next).bind
          rintro ⟨after, answer⟩
          cases answer with
          | some answer => exact Query.unswayed_rfl
          | none => exact ih after

variable [DecidableEq Key]

theorem Unswayed.explore (steps : Unswayed env search other) (depth : Nat) :
    ∀ seen node, Query.Unswayed env (search.explore depth seen node)
      (other.explore depth seen node) := by
  induction depth with
  | zero =>
      intro seen node
      exact Query.unswayed_rfl
  | succ depth ih =>
      intro seen node
      have sameSeen : other.isSeen seen node = search.isSeen seen node := by
        unfold isSeen
        rw [steps.key]
      simp only [Search.explore, sameSeen]
      split
      · exact Query.unswayed_rfl
      · apply (steps.visit node).bind
        intro found
        cases found with
        | some answer => exact Query.unswayed_rfl
        | none =>
            apply (steps.edges node).bind
            intro edges
            exact steps.follow ih node edges _

end Search

namespace Environment

open Query (unswayed_rfl)

/-! ## Forcing -/

theorem unswayed_forceCell (agrees : env.AgreesInTree solve) (cell : Nat) (source : TypeExpr)
    (site : ItemId) : Query.Unswayed env (env.forceCell cell source site)
      ((env.withSource solve).forceCell cell source site) := by
  apply unswayed_rfl.bind
  intro cells
  split
  · exact unswayed_rfl
  · apply (Query.unswayed_lift (unswayed_convertAt agrees ⟨site, none⟩ source)).bind
    intro type
    exact unswayed_rfl

mutual

theorem unswayed_force (agrees : env.AgreesInTree solve) :
    (type : Ty) → Query.Unswayed env (env.force type) ((env.withSource solve).force type)
  | .deferred cell source site => unswayed_forceCell agrees cell source site
  | .reference _ _ args => (unswayed_forceAll agrees args).bind fun _ => unswayed_rfl
  | .array component => (unswayed_force agrees component).bind fun _ => unswayed_rfl
  | .upperBounded bound => (unswayed_force agrees bound).bind fun _ => unswayed_rfl
  | .lowerBounded bound => (unswayed_force agrees bound).bind fun _ => unswayed_rfl
  | .primitive _ => unswayed_rfl
  | .void => unswayed_rfl
  | .null => unswayed_rfl
  | .typeVar _ => unswayed_rfl
  | .wildcard => unswayed_rfl

theorem unswayed_forceAll (agrees : env.AgreesInTree solve) :
    (types : List Ty) →
      Query.Unswayed env (env.forceAll types) ((env.withSource solve).forceAll types)
  | [] => unswayed_rfl
  | type :: rest =>
      (unswayed_force agrees type).bind fun _ =>
        (unswayed_forceAll agrees rest).bind fun _ => unswayed_rfl

end

theorem unswayed_forceEdge (agrees : env.AgreesInTree solve) (supertype : Reference) :
    Query.Unswayed env (env.forceEdge supertype) ((env.withSource solve).forceEdge supertype) := by
  have forced : Query.Unswayed env (env.forceReference supertype)
      ((env.withSource solve).forceReference supertype) :=
    (unswayed_forceAll agrees supertype.args).bind fun _ => unswayed_rfl
  apply forced.handle
  · intro outcome
    exact unswayed_rfl
  · intro fault stray
    simp [stray.hard]

/-! ## Ancestors -/

theorem unswayed_ancestorsOf (agrees : env.AgreesInTree solve) (decl : Decl) (lenient : Bool) :
    Query.Unswayed env (env.ancestorsOf decl lenient)
      ((env.withSource solve).ancestorsOf decl lenient) := by
  cases decl with
  | parameter param =>
      exact Query.unswayed_lift (unswayed_supertypesOfParameter agrees param lenient)
  | item id =>
      apply unswayed_rfl.bind
      intro session
      split
      · exact unswayed_rfl
      · apply (Query.unswayed_lift (unswayed_supertypesOf agrees id lenient)).bind
        intro supertypes
        exact unswayed_rfl

theorem unswayed_allAncestorsOf (agrees : env.AgreesInTree solve) (decl : Decl) :
    Query.Unswayed env (env.allAncestorsOf decl true)
      ((env.withSource solve).allAncestorsOf decl true) := by
  have steps : Search.Unswayed env (env.ancestorSearch true)
      ((env.withSource solve).ancestorSearch true) := by
    constructor
    · rfl
    · intro ascent
      exact unswayed_rfl
    · intro ascent
      exact unswayed_ancestorsOf agrees ascent.decl true
    · intro ascent ancestor
      apply (unswayed_forceEdge agrees ancestor).bind
      intro edge
      exact unswayed_rfl
  exact (steps.explore _ _ _).bind fun _ => unswayed_rfl

/-! ## Fields -/

theorem unswayed_memberType (agrees : env.AgreesInTree solve) (item : ItemId) (type : TypeExpr) :
    Query.Unswayed env (env.memberType item type)
      ((env.withSource solve).memberType item type) := by
  apply (Query.unswayed_lift (unswayed_convertAt agrees ⟨item, none⟩ type)).handle
  · intro outcome
    exact unswayed_rfl
  · intro fault stray
    simp [stray.hard]

theorem unswayed_declaredFields (agrees : env.AgreesInTree solve) (item : ItemId) :
    Query.Unswayed env (env.declaredFields item)
      ((env.withSource solve).declaredFields item) := by
  have body : ∀ inInterface, Query.Unswayed env (env.bodyFields item inInterface)
      ((env.withSource solve).bodyFields item inInterface) := by
    intro inInterface
    apply Query.unswayed_mapM
    intro field
    exact (unswayed_memberType agrees item field.type).bind fun _ => unswayed_rfl
  have components : Query.Unswayed env (env.componentFields item)
      ((env.withSource solve).componentFields item) := by
    apply Query.unswayed_mapM
    intro component
    exact (unswayed_memberType agrees item component.type).bind fun _ => unswayed_rfl
  simp only [declaredFields]
  split
  · exact body false
  · exact body true
  · exact body true
  · exact (body false).bind fun _ => unswayed_rfl
  · exact components.bind fun _ => (body false).bind fun _ => unswayed_rfl

theorem unswayed_declaredFieldsOf (agrees : env.AgreesInTree solve) (decl : Decl) :
    Query.Unswayed env (env.declaredFieldsOf decl)
      ((env.withSource solve).declaredFieldsOf decl) := by
  cases decl with
  | item id => exact unswayed_declaredFields agrees id
  | parameter param => exact unswayed_rfl

theorem unswayed_expandFields (agrees : env.AgreesInTree solve)
    {collect other : ItemId → Query (List Field)}
    (each : ∀ item, Query.Unswayed env (collect item) (other item)) (item : ItemId) :
    Query.Unswayed env (env.expandFields collect item)
      ((env.withSource solve).expandFields other item) := by
  apply unswayed_rfl.bind
  intro session
  apply (unswayed_declaredFields agrees item).bind
  intro own
  apply (unswayed_ancestorsOf agrees (.item item) true).bind
  intro ancestors
  have inherited : ∀ ancestor, Query.Unswayed env (env.inheritedThrough collect ancestor)
      ((env.withSource solve).inheritedThrough other ancestor) := by
    intro ancestor
    apply (unswayed_forceEdge agrees ancestor).bind
    intro edge
    apply unswayed_rfl.bind
    intro _
    apply (each edge.item).bind
    intro fields
    exact unswayed_rfl
  apply (Query.unswayed_mapM inherited ancestors).bind
  intro inherited
  exact unswayed_rfl

theorem unswayed_collectFields (agrees : env.AgreesInTree solve) (depth : Nat) :
    ∀ item, Query.Unswayed env (env.collectFields depth item)
      ((env.withSource solve).collectFields depth item) := by
  induction depth with
  | zero =>
      intro item
      exact unswayed_rfl
  | succ depth ih =>
      intro item
      apply unswayed_rfl.bind
      intro session
      split
      · exact unswayed_rfl
      · split
        · apply unswayed_rfl.bind
          intro _
          apply unswayed_rfl.bind
          intro _
          exact unswayed_declaredFields agrees item
        · exact (unswayed_expandFields agrees ih item).whileExpanding item

theorem unswayed_allFieldsOf (agrees : env.AgreesInTree solve) (decl : Decl) :
    Query.Unswayed env (env.allFieldsOf decl) ((env.withSource solve).allFieldsOf decl) := by
  cases decl with
  | item id => exact unswayed_collectFields agrees _ id
  | parameter param => exact unswayed_rfl

theorem unswayed_lookupSymbol (agrees : env.AgreesInTree solve) (scope : Scope) (name : String) :
    Query.Unswayed env (env.lookupSymbol scope name)
      ((env.withSource solve).lookupSymbol scope name) := by
  have outward : ∀ items, Query.Unswayed env (env.symbolOutward name items)
      ((env.withSource solve).symbolOutward name items) := by
    intro items
    induction items with
    | nil => exact unswayed_rfl
    | cons item outer ih =>
        apply (unswayed_collectFields agrees _ item).bind
        intro fields
        split
        · exact unswayed_rfl
        · exact ih
  cases scope with
  | unit id => exact unswayed_rfl
  | body item => exact unswayed_rfl.bind fun _ => outward _

/-! ## Subtyping -/

theorem sameUnlessAstray_positionOutcomes (agrees : env.AgreesInTree solve) (decl : Decl) :
    List.Forall₂ env.SameUnlessAstray (env.positionOutcomes decl)
      ((env.withSource solve).positionOutcomes decl) := by
  cases decl with
  | item id =>
      apply List.forall₂_map_left_iff.mpr
      apply List.forall₂_map_right_iff.mpr
      apply (unswayed_supertypePositions agrees id).imp
      intro position other same
      exact same.outcome.map _
  | parameter param =>
      have same := unswayed_supertypesOfParameter agrees param true
      exact .cons (same.outcome.map _) .nil

/-- The edges of two searches are the same up to one that strayed. -/
inductive SameUntilStray (env : Environment) :
    List (Except Fault ItemId) → List (Except Fault ItemId) → Prop where
  | nil : SameUntilStray env [] []
  | cons (edge : Except Fault ItemId) {rest others : List (Except Fault ItemId)}
      (same : SameUntilStray env rest others) : SameUntilStray env (edge :: rest) (edge :: others)
  | stray {fault : Fault} (isStray : env.Stray fault) (rest others : List (Except Fault ItemId)) :
      SameUntilStray env (.error fault :: rest) others

theorem SameUntilStray.append {rest others : List (Except Fault ItemId)}
    (same : env.SameUntilStray rest others) (edges : List (Except Fault ItemId)) :
    env.SameUntilStray (edges ++ rest) (edges ++ others) := by
  induction edges with
  | nil => exact same
  | cons edge edges ih => exact .cons edge ih

theorem sameUntilStray_positionEdges {outcomes others : List (Except Fault (List ItemId))}
    (same : List.Forall₂ env.SameUnlessAstray outcomes others) :
    env.SameUntilStray (positionEdges outcomes) (positionEdges others) := by
  induction same with
  | nil => exact .nil
  | cons here _ ih =>
      rcases here with ⟨fault, rfl, stray⟩ | rfl
      · exact .stray stray _ _
      · exact ih.append _

variable {target : String}

/-- A search that comes to an edge that strayed ends there. -/
theorem sameUnlessAstray_follow
    {explore onward : List Decl → Decl → Traced (List Decl × Option Unit)}
    (each : ∀ seen decl,
      env.SameUnlessAstray (explore seen decl).outcome (onward seen decl).outcome) (decl : Decl)
    {edges others : List (Except Fault ItemId)} (same : env.SameUntilStray edges others) :
    ∀ seen, env.SameUnlessAstray
      ((env.supertypeSearch target false).follow explore decl seen edges).outcome
      (((env.withSource solve).supertypeSearch target false).follow onward decl seen
        others).outcome := by
  induction same with
  | nil =>
      intro seen
      exact .inr rfl
  | @stray fault isStray rest others =>
      intro seen
      left
      refine ⟨fault, ?_, isStray⟩
      simp [Search.follow, supertypeSearch, isStray.hard, Except.bind]
  | cons edge _ ih =>
      intro seen
      rw [Search.follow, Search.follow, Traced.outcome_bind, Traced.outcome_bind]
      have entered : env.SameUnlessAstray
          ((env.supertypeSearch target false).enter decl edge).outcome
          (((env.withSource solve).supertypeSearch target false).enter decl edge).outcome :=
        .inr rfl
      apply entered.bind
      intro next
      cases next with
      | none => exact ih seen
      | some next =>
          simp only [Traced.outcome_bind]
          apply (each seen next).bind
          rintro ⟨after, answer⟩
          cases answer with
          | some answer => exact .inr rfl
          | none => exact ih after

theorem outcome_supertypeEdges (env : Environment) (target : String) (decl : Decl) :
    ((env.supertypeSearch target false).edges decl).outcome =
      .ok (positionEdges (env.positionOutcomes decl)) := by
  simp [supertypeSearch, outcome_positionTargets, Except.map]

theorem sameUnlessAstray_explore (agrees : env.AgreesInTree solve) (target : String) (depth : Nat) :
    ∀ seen decl, env.SameUnlessAstray
      ((env.supertypeSearch target false).explore depth seen decl).outcome
      (((env.withSource solve).supertypeSearch target false).explore depth seen decl).outcome := by
  induction depth with
  | zero =>
      intro seen decl
      rw [Search.explore, Search.explore]
      exact .inr rfl
  | succ depth ih =>
      intro seen decl
      have sameKey : ((env.withSource solve).supertypeSearch target false).key =
        (env.supertypeSearch target false).key := by
        simp only [supertypeSearch]
      have sameSeen : ((env.withSource solve).supertypeSearch target false).isSeen seen decl =
          (env.supertypeSearch target false).isSeen seen decl := by
        rw [Search.isSeen, Search.isSeen, sameKey]
      rw [Search.explore, Search.explore, sameSeen]
      split
      · exact .inr rfl
      · have visited : env.SameUnlessAstray
            ((env.supertypeSearch target false).visit decl).outcome
            (((env.withSource solve).supertypeSearch target false).visit decl).outcome :=
          .inr rfl
        rw [Traced.outcome_bind, Traced.outcome_bind]
        apply visited.bind
        intro found
        cases found with
        | some answer => exact .inr rfl
        | none =>
            have same := sameUnlessAstray_positionOutcomes agrees decl
            simp only [Traced.outcome_bind, outcome_supertypeEdges, Except.bind]
            exact sameUnlessAstray_follow ih decl (sameUntilStray_positionEdges same) _

theorem sameUnlessAstray_canBeAssignedTo (agrees : env.AgreesInTree solve) (decl other : Decl) :
    env.SameUnlessAstray (env.canBeAssignedTo decl other).outcome
      ((env.withSource solve).canBeAssignedTo decl other).outcome := by
  have searched := sameUnlessAstray_explore agrees (env.tree.qualifiedNameOf other) env.searchDepth
    [] decl
  rw [canBeAssignedTo, assignableTo, canBeAssignedTo, assignableTo, Traced.outcome_bind,
    Traced.outcome_bind]
  apply searched.bind
  intro result
  exact .inr rfl

end Environment

end JavaSymbols

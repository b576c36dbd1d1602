import Mathlib.Data.List.Forall2
import JavaSymbols.Proofs.Resolution.Supertypes

/-!
# Ids outside the tree sway nothing

When the source of names answers an id outside the tree, the computation that
asked ends with a fault, or the answer had no part in what it found.  So wherever
a computation does not end with such a fault, it does the same with any other
source of names that agrees on the names for which this one keeps to the tree.
-/

namespace JavaSymbols

namespace Environment

/-- The environment with another source of names. -/
abbrev withSource (env : Environment) (solve : String → Option ItemId) : Environment :=
  { env with solve := solve }

/-- Another source of names answers the same, except for names for which that of
the environment answers an id outside the tree. -/
def AgreesInTree (env : Environment) (solve : String → Option ItemId) : Prop :=
  ∀ name, solve name = env.solve name ∨ ∃ id, env.solve name = some id ∧ env.tree.size ≤ id

/-- The outcome is the fault that the source of names strayed from the tree. -/
def Astray {α : Type} (env : Environment) (outcome : Except Fault α) : Prop :=
  ∃ fault, outcome = .error fault ∧ env.Stray fault

/-- An outcome is the fault that the source of names strayed, or another one is
the same. -/
def SameUnlessAstray {α : Type} (env : Environment) (outcome other : Except Fault α) : Prop :=
  env.Astray outcome ∨ other = outcome

variable {env : Environment}

theorem SameUnlessAstray.bind {α β : Type} {first other : Except Fault α}
    {next onward : α → Except Fault β} (head : env.SameUnlessAstray first other)
    (tail : ∀ value, env.SameUnlessAstray (next value) (onward value)) :
    env.SameUnlessAstray (first.bind next) (other.bind onward) := by
  rcases head with ⟨fault, rfl, stray⟩ | rfl
  · exact .inl ⟨fault, rfl, stray⟩
  · cases other with
    | error fault => exact .inr rfl
    | ok value => exact tail value

theorem SameUnlessAstray.map {α β : Type} {outcome other : Except Fault α}
    (same : env.SameUnlessAstray outcome other) (change : α → β) :
    env.SameUnlessAstray (outcome.map change) (other.map change) := by
  rcases same with ⟨fault, rfl, stray⟩ | rfl
  · exact .inl ⟨fault, rfl, stray⟩
  · exact .inr rfl

end Environment

namespace Traced

variable {α β : Type} {env : Environment}

/-- A computation ends because the source of names strays, or another one does
the same, its events included. -/
def Unswayed {α : Type} (env : Environment) (run other : Traced α) : Prop :=
  env.Astray run.outcome ∨ other = run

theorem unswayed_rfl {run : Traced α} : Unswayed env run run :=
  .inr rfl

theorem Unswayed.bind {run other : Traced α} {next onward : α → Traced β}
    (head : Unswayed env run other) (tail : ∀ value, Unswayed env (next value) (onward value)) :
    Unswayed env (run >>= next) (other >>= onward) := by
  rcases head with ⟨fault, failed, stray⟩ | rfl
  · left
    refine ⟨fault, ?_, stray⟩
    rw [Traced.outcome_bind, failed]
    rfl
  · cases ran : other.outcome with
    | error fault =>
        right
        apply Traced.ext
        · change (other.andThen onward).events = (other.andThen next).events
          simp only [Traced.andThen, ran]
        · rw [Traced.outcome_bind, Traced.outcome_bind, ran]
          rfl
    | ok value =>
        rcases tail value with ⟨fault, failed, stray⟩ | same
        · left
          refine ⟨fault, ?_, stray⟩
          rw [Traced.outcome_bind, ran]
          exact failed
        · right
          apply Traced.ext
          · change (other.andThen onward).events = (other.andThen next).events
            simp only [Traced.andThen, ran, same]
          · rw [Traced.outcome_bind, Traced.outcome_bind, ran]
            exact congrArg Traced.outcome same

/-- Handling a fault does no harm as long as a stray id is not passed over. -/
theorem Unswayed.handle {run other : Traced α} {next onward : Except Fault α → Traced β}
    (head : Unswayed env run other)
    (tail : ∀ outcome, Unswayed env (next outcome) (onward outcome))
    (ends : ∀ fault, env.Stray fault → next (.error fault) = .fail fault) :
    Unswayed env (run.attempt >>= next) (other.attempt >>= onward) := by
  rcases head with ⟨fault, failed, stray⟩ | rfl
  · left
    refine ⟨fault, ?_, stray⟩
    rw [Traced.outcome_bind, Traced.outcome_attempt, failed]
    change (next (.error fault)).outcome = .error fault
    rw [ends fault stray]
    rfl
  · exact unswayed_rfl.bind tail

theorem unswayed_mapM {run other : β → Traced α}
    (each : ∀ entry, Unswayed env (run entry) (other entry)) (entries : List β) :
    Unswayed env (entries.mapM run) (entries.mapM other) := by
  induction entries with
  | nil => exact unswayed_rfl
  | cons entry rest ih =>
      rw [List.mapM_cons, List.mapM_cons]
      apply (each entry).bind
      intro value
      apply ih.bind
      intro values
      exact unswayed_rfl

theorem Unswayed.outcome {run other : Traced α} (same : Unswayed env run other) :
    env.SameUnlessAstray run.outcome other.outcome :=
  same.imp id (congrArg Traced.outcome)

end Traced

namespace Environment

variable {env : Environment} {solve : String → Option ItemId}

open Traced (unswayed_rfl)

/-! ## Names -/

theorem unswayed_solveQualified (agrees : env.AgreesInTree solve) (name : String) :
    Traced.Unswayed env (env.solveQualified name) ((env.withSource solve).solveQualified name) := by
  rcases agrees name with same | ⟨id, known, outside⟩
  · right
    have sameAnswer : (env.withSource solve).solve name = env.solve name := same
    rw [solveQualified, sameAnswer]
    rfl
  · left
    refine ⟨.inconsistent (.unknownItem id), ?_, name, id, known, outside, rfl⟩
    simp only [solveQualified, known]
    rw [declaration_of_size_le outside]
    rfl

theorem unswayed_firstSolved (agrees : env.AgreesInTree solve) (names : List String) :
    Traced.Unswayed env (env.firstSolved names) ((env.withSource solve).firstSolved names) := by
  induction names with
  | nil => exact unswayed_rfl
  | cons name rest ih =>
      apply (unswayed_solveQualified agrees name).bind
      intro found
      cases found with
      | none => exact ih
      | some decl => exact unswayed_rfl

theorem unswayed_lookupInUnit (agrees : env.AgreesInTree solve) (unit : UnitId)
    (path : List String) :
    Traced.Unswayed env (env.lookupInUnit unit path)
      ((env.withSource solve).lookupInUnit unit path) := by
  simp only [lookupInUnit]
  split
  · exact unswayed_rfl
  · exact unswayed_firstSolved agrees _

theorem unswayed_lookupOutward (agrees : env.AgreesInTree solve) (unit : UnitId)
    (enclosing : List ItemId) : ∀ path, Traced.Unswayed env (env.lookupOutward unit enclosing path)
      ((env.withSource solve).lookupOutward unit enclosing path) := by
  induction enclosing with
  | nil => exact unswayed_lookupInUnit agrees unit
  | cons id outer ih =>
      intro path
      simp only [lookupOutward]
      split
      · exact unswayed_rfl
      · apply unswayed_rfl.bind
        intro _
        exact ih _

theorem unswayed_lookup (agrees : env.AgreesInTree solve) (scope : Scope) (name : String) :
    Traced.Unswayed env (env.lookup scope name) ((env.withSource solve).lookup scope name) := by
  cases scope with
  | unit id => exact unswayed_lookupInUnit agrees id _
  | body item =>
      apply unswayed_rfl.bind
      intro _
      exact unswayed_lookupOutward agrees _ _ _

theorem unswayed_lookupAround (agrees : env.AgreesInTree solve) (item : ItemId) (name : String) :
    Traced.Unswayed env (env.lookupAround item name)
      ((env.withSource solve).lookupAround item name) := by
  simp only [lookupAround]
  split
  · exact unswayed_lookup agrees _ _
  · exact unswayed_lookup agrees _ _

theorem unswayed_annotationsOf (agrees : env.AgreesInTree solve) (decl : Decl) :
    Traced.Unswayed env (env.annotationsOf decl) ((env.withSource solve).annotationsOf decl) := by
  cases decl with
  | parameter param => exact unswayed_rfl
  | item id =>
      apply Traced.unswayed_mapM
      intro name
      apply (unswayed_lookupAround agrees id name.dotted).bind
      intro found
      exact unswayed_rfl

/-! ## Conversion -/

theorem unswayed_classTypeNamed (agrees : env.AgreesInTree solve) (site : TypeSite) (name : String)
    {args others : Traced (List Ty)} (sameArgs : Traced.Unswayed env args others) :
    Traced.Unswayed env (env.classTypeNamed site name args)
      ((env.withSource solve).classTypeNamed site name others) := by
  apply (unswayed_lookup agrees _ name).bind
  intro found
  cases found with
  | none => exact unswayed_rfl
  | some decl =>
      cases decl with
      | parameter param => exact unswayed_rfl
      | item id =>
          apply sameArgs.bind
          intro types
          exact unswayed_rfl

mutual

theorem unswayed_convertAt (agrees : env.AgreesInTree solve) (site : TypeSite) :
    (type : TypeExpr) →
      Traced.Unswayed env (env.convertAt site type) ((env.withSource solve).convertAt site type)
  | .primitive _ => unswayed_rfl
  | .void => unswayed_rfl
  | .named type => unswayed_convertClassAt agrees site type
  | .array component => (unswayed_convertAt agrees site component).bind fun _ => unswayed_rfl
  | .wildcard => unswayed_rfl
  | .upperBounded bound => (unswayed_convertAt agrees site bound).bind fun _ => unswayed_rfl
  | .lowerBounded bound => (unswayed_convertAt agrees site bound).bind fun _ => unswayed_rfl

theorem unswayed_convertClassAt (agrees : env.AgreesInTree solve) (site : TypeSite) :
    (type : ClassExpr) →
      Traced.Unswayed env (env.convertClassAt site type)
        ((env.withSource solve).convertClassAt site type)
  | .simple name args => by
      have sameParameter : (env.withSource solve).methodParameter? site name =
        env.methodParameter? site name := rfl
      unfold convertClassAt
      rw [sameParameter]
      split
      · exact unswayed_rfl
      · exact unswayed_classTypeNamed agrees site name
          (unswayed_convertArgumentsAt agrees site args)
  | .within scope name args => by
      unfold convertClassAt
      exact unswayed_classTypeNamed agrees site _ (unswayed_convertArgumentsAt agrees site args)

theorem unswayed_convertArgumentsAt (agrees : env.AgreesInTree solve) (site : TypeSite) :
    (args : Option (List TypeExpr)) → Traced.Unswayed env (env.convertArgumentsAt site args)
      ((env.withSource solve).convertArgumentsAt site args)
  | none => unswayed_rfl
  | some args => unswayed_convertAllAt agrees site args

theorem unswayed_convertAllAt (agrees : env.AgreesInTree solve) (site : TypeSite) :
    (types : List TypeExpr) → Traced.Unswayed env (env.convertAllAt site types)
      ((env.withSource solve).convertAllAt site types)
  | [] => unswayed_rfl
  | type :: rest =>
      (unswayed_convertAt agrees site type).bind fun _ =>
        (unswayed_convertAllAt agrees site rest).bind fun _ => unswayed_rfl

end

/-! ## Supertypes -/

theorem unswayed_rootSupertype (agrees : env.AgreesInTree solve) (name : String)
    (args : List SupertypeArg) : Traced.Unswayed env (env.rootSupertype name args)
      ((env.withSource solve).rootSupertype name args) := by
  rcases agrees name with same | ⟨id, known, outside⟩
  · right
    have sameAnswer : (env.withSource solve).solve name = env.solve name := same
    rw [rootSupertype, sameAnswer]
    rfl
  · left
    refine ⟨.inconsistent (.unknownItem id), ?_, name, id, known, outside, rfl⟩
    simp only [rootSupertype, known]
    rw [declaration_of_size_le outside]
    rfl

theorem unswayed_clauseSupertype (agrees : env.AgreesInTree solve) (id : ItemId)
    (clause : ClassExpr) : Traced.Unswayed env (env.clauseSupertype id clause)
      ((env.withSource solve).clauseSupertype id clause) := by
  have target : Traced.Unswayed env (env.clauseTarget id clause)
      ((env.withSource solve).clauseTarget id clause) := by
    apply (unswayed_lookup agrees _ _).bind
    intro found
    split
    · exact unswayed_lookup agrees _ _
    · exact unswayed_rfl
  apply target.bind
  intro found
  split
  · exact unswayed_rfl
  · exact unswayed_rfl

theorem unswayed_superclass (agrees : env.AgreesInTree solve) (id : ItemId) :
    Traced.Unswayed env (env.superclass id) ((env.withSource solve).superclass id) := by
  simp only [superclass]
  split
  · split
    · exact unswayed_rfl
    · split
      · exact unswayed_rfl
      · exact (unswayed_clauseSupertype agrees id _).bind fun _ => unswayed_rfl
  · exact (unswayed_rootSupertype agrees _ _).bind fun _ => unswayed_rfl
  · exact unswayed_rfl
  · exact unswayed_rfl
  · exact unswayed_rfl

theorem unswayed_superPosition (agrees : env.AgreesInTree solve) (id : ItemId) :
    Traced.Unswayed env (env.superPosition id) ((env.withSource solve).superPosition id) := by
  simp only [superPosition]
  split
  · split
    · exact unswayed_rfl
    · exact unswayed_rfl
  · exact (unswayed_rootSupertype agrees _ _).bind fun _ => unswayed_rfl
  · exact unswayed_superclass agrees id

theorem unswayed_supertypePositions (agrees : env.AgreesInTree solve) (id : ItemId) :
    List.Forall₂ (Traced.Unswayed env) (env.supertypePositions id)
      ((env.withSource solve).supertypePositions id) := by
  refine .cons ((unswayed_superPosition agrees id).bind fun _ => unswayed_rfl) ?_
  have sameClauses : (env.withSource solve).interfaceClauses id = env.interfaceClauses id := rfl
  rw [sameClauses]
  apply List.forall₂_map_left_iff.mpr
  apply List.forall₂_map_right_iff.mpr
  apply List.forall₂_same.mpr
  intro clause _
  exact (unswayed_clauseSupertype agrees id clause).bind fun _ => unswayed_rfl

theorem unswayed_admitSupertypes (id : ItemId) (lenient : Bool)
    {positions others : List (Traced (List Supertype))}
    (same : List.Forall₂ (Traced.Unswayed env) positions others) :
    Traced.Unswayed env (env.admitSupertypes id lenient positions)
      ((env.withSource solve).admitSupertypes id lenient others) := by
  induction same with
  | nil => exact unswayed_rfl
  | cons here _ ih =>
      apply here.handle
      · intro outcome
        cases outcome with
        | ok found => exact ih.bind fun _ => unswayed_rfl
        | error fault =>
            simp only
            split
            · exact unswayed_rfl.bind fun _ => ih
            · exact unswayed_rfl
      · intro fault stray
        simp [stray.hard]

theorem unswayed_supertypesOf (agrees : env.AgreesInTree solve) (id : ItemId) (lenient : Bool) :
    Traced.Unswayed env (env.supertypesOf id lenient)
      ((env.withSource solve).supertypesOf id lenient) := by
  simp only [supertypesOf]
  split
  · exact unswayed_rfl
  · exact unswayed_admitSupertypes id lenient (unswayed_supertypePositions agrees id)

theorem unswayed_admitBounds (agrees : env.AgreesInTree solve) (site : TypeSite) (lenient : Bool)
    (bounds : List ClassExpr) : Traced.Unswayed env (env.admitBounds site lenient bounds)
      ((env.withSource solve).admitBounds site lenient bounds) := by
  induction bounds with
  | nil => exact unswayed_rfl
  | cons bound rest ih =>
      apply (unswayed_convertClassAt agrees site bound).handle
      · intro outcome
        cases outcome with
        | ok type => exact ih.bind fun _ => unswayed_rfl
        | error fault =>
            simp only
            split
            · exact unswayed_rfl.bind fun _ => ih
            · exact unswayed_rfl
      · intro fault stray
        simp [stray.hard]

theorem unswayed_supertypesOfParameter (agrees : env.AgreesInTree solve) (param : TypeParameter)
    (lenient : Bool) : Traced.Unswayed env (env.supertypesOfParameter param lenient)
      ((env.withSource solve).supertypesOfParameter param lenient) :=
  (unswayed_admitBounds agrees _ lenient _).bind fun _ => unswayed_rfl

end Environment

end JavaSymbols

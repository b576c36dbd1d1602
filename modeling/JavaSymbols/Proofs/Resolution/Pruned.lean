import JavaSymbols.Proofs.DeclTree.Pruned
import JavaSymbols.Proofs.Resolution.Redeclared

/-!
# Resolution without unused lists

Looking names up, converting types and finding supertypes use no list that the
kind of a declaration gives no meaning.  Over pruned declarations each of them
gives the same, with the same events.
-/

namespace JavaSymbols.Environment

open DeclTree

variable (env : Environment)

/-- The environment of pruned declarations. -/
abbrev pruned : Environment :=
  env.redeclare TypeDecl.pruned

/-! ## Names -/

@[simp]
theorem known_pruned : env.pruned.known = env.known :=
  funext known_redeclare

@[simp]
theorem declaration_pruned : env.pruned.declaration = env.declaration :=
  funext declaration_redeclare

@[simp]
theorem solveQualified_pruned : env.pruned.solveQualified = env.solveQualified := by
  funext name
  simp only [solveQualified, solve_redeclare, declaration_pruned]

@[simp]
theorem declarationAt_pruned : env.pruned.declarationAt = env.declarationAt := by
  funext node
  cases node with
  | type item => simp only [declarationAt, declaration_pruned]
  | typeParameter item index =>
      simp only [declarationAt, declaration_pruned, tree_redeclare, paramsOf_pruned]
  | enumConstant item index =>
      simp only [declarationAt, declaration_pruned, tree_redeclare, decl_pruned]
      rfl
  | field item index => rfl
  | method item index => rfl

@[simp]
theorem lookup_pruned : env.pruned.lookup = env.lookup := by
  funext scope name
  exact lookup_redeclare keepsNames_pruned scope name

@[simp]
theorem lookupFrom_pruned : env.pruned.lookupFrom = env.lookupFrom := by
  funext decl name
  simp only [lookupFrom, lookup_pruned]

@[simp]
theorem lookupAround_pruned : env.pruned.lookupAround = env.lookupAround := by
  funext id name
  simp only [lookupAround, lookup_pruned, tree_redeclare, Item.parent, enclosing_redeclare,
    itemUnit_redeclare]

@[simp]
theorem annotationsOf_pruned : env.pruned.annotationsOf = env.annotationsOf := by
  funext decl
  cases decl with
  | parameter param => rfl
  | item id =>
      have sameType : env.pruned.annotationType? = env.annotationType? := by
        funext found
        rcases found with _ | (id | param)
        · rfl
        · simp only [annotationType?, tree_redeclare, decl_pruned]
          rfl
        · rfl
      simp only [annotationsOf, lookupAround_pruned, sameType, tree_redeclare, decl_pruned]
      rfl

@[simp]
theorem hasAnnotation_pruned : hasAnnotation env.pruned = hasAnnotation env := by
  funext decl name
  unfold hasAnnotation
  simp only [annotationsOf_pruned, tree_redeclare, qualifiedName_pruned]

/-! ## Types -/

@[simp]
theorem methodParameter?_pruned : env.pruned.methodParameter? = env.methodParameter? := by
  funext site name
  exact methodParameter?_redeclare keepsNames_pruned site name

@[simp]
theorem classTypeNamed_pruned : env.pruned.classTypeNamed = env.classTypeNamed := by
  funext site name args
  simp only [classTypeNamed, lookup_pruned, tree_redeclare, variableOf_pruned,
    qualifiedName_pruned]

mutual

theorem convertAt_pruned (site : TypeSite) (type : TypeExpr) :
    env.pruned.convertAt site type = env.convertAt site type := by
  cases type with
  | primitive type => rfl
  | void => rfl
  | named type => exact convertClassAt_pruned site type
  | wildcard => rfl
  | array component => simp only [convertAt, convertAt_pruned site component]
  | upperBounded bound => simp only [convertAt, convertAt_pruned site bound]
  | lowerBounded bound => simp only [convertAt, convertAt_pruned site bound]

theorem convertClassAt_pruned (site : TypeSite) (type : ClassExpr) :
    env.pruned.convertClassAt site type = env.convertClassAt site type := by
  cases type with
  | simple name args =>
      simp only [convertClassAt, methodParameter?_pruned, classTypeNamed_pruned,
        convertArgumentsAt_pruned site args, tree_redeclare, variableOf_pruned]
  | within scope name args =>
      simp only [convertClassAt, classTypeNamed_pruned, convertArgumentsAt_pruned site args]

theorem convertArgumentsAt_pruned (site : TypeSite) (args : Option (List TypeExpr)) :
    env.pruned.convertArgumentsAt site args = env.convertArgumentsAt site args := by
  cases args with
  | none => rfl
  | some args => exact convertAllAt_pruned site args

theorem convertAllAt_pruned (site : TypeSite) (types : List TypeExpr) :
    env.pruned.convertAllAt site types = env.convertAllAt site types := by
  cases types with
  | nil => rfl
  | cons type rest =>
      simp only [convertAllAt, convertAt_pruned site type, convertAllAt_pruned site rest]

end

@[simp]
theorem convert_pruned : env.pruned.convert = env.convert := by
  funext id type
  exact convertAt_pruned env ⟨id, none⟩ type

@[simp]
theorem boundsOf_pruned : env.pruned.boundsOf = env.boundsOf := by
  funext param
  have sameBound : ∀ site, env.pruned.convertClassAt site = env.convertClassAt site :=
    fun site => funext (convertClassAt_pruned env site)
  simp only [boundsOf, sameBound, tree_redeclare, param_pruned]

/-! ## Supertypes -/

@[simp]
theorem rawSupertype_pruned : env.pruned.rawSupertype = env.rawSupertype := by
  funext id
  simp only [rawSupertype, tree_redeclare, qualifiedName_pruned]

@[simp]
theorem rawReference_pruned : env.pruned.rawReference = env.rawReference := by
  funext id
  simp only [rawReference, tree_redeclare, qualifiedName_pruned]

@[simp]
theorem rootSupertype_pruned : env.pruned.rootSupertype = env.rootSupertype := by
  funext name args
  simp only [rootSupertype, declaration_pruned, solve_redeclare, tree_redeclare,
    qualifiedName_pruned]

@[simp]
theorem clauseSupertype_pruned : env.pruned.clauseSupertype = env.clauseSupertype := by
  funext id clause
  simp only [clauseSupertype, clauseTarget, lookup_pruned, tree_redeclare, qualifiedName_pruned]

/-- A class uses the first entry of its clause, other kinds use none. -/
@[simp]
theorem superclass_pruned : env.pruned.superclass = env.superclass := by
  funext id
  unfold superclass
  rw [tree_redeclare, decl_pruned, clauseSupertype_pruned, rootSupertype_pruned,
    rawSupertype_pruned]
  cases kind : (env.tree.decl id).kind with
  | classType =>
      cases written : (env.tree.decl id).extended with
      | nil => simp [TypeDecl.pruned, kind, written]
      | cons clause rest => simp [TypeDecl.pruned, kind, written]
  | _ => simp [TypeDecl.pruned, kind]

@[simp]
theorem superPosition_pruned : env.pruned.superPosition = env.superPosition := by
  funext id
  unfold superPosition
  rw [tree_redeclare, decl_pruned, superclass_pruned, rootSupertype_pruned, rawSupertype_pruned]
  cases kind : (env.tree.decl id).kind with
  | _ => simp [TypeDecl.pruned, kind]

@[simp]
theorem interfaceClauses_pruned : env.pruned.interfaceClauses = env.interfaceClauses := by
  funext id
  unfold interfaceClauses
  rw [tree_redeclare, decl_pruned]
  cases kind : (env.tree.decl id).kind with
  | _ => simp [TypeDecl.pruned, kind]

@[simp]
theorem supertypePositions_pruned : env.pruned.supertypePositions = env.supertypePositions := by
  funext id
  simp only [supertypePositions, superPosition_pruned, interfaceClauses_pruned,
    clauseSupertype_pruned]

theorem admitSupertypes_pruned (id : ItemId) (lenient : Bool)
    (positions : List (Traced (List Supertype))) :
    env.pruned.admitSupertypes id lenient positions = env.admitSupertypes id lenient positions := by
  induction positions with
  | nil => rfl
  | cons position rest ih =>
      simp only [admitSupertypes, ih, tree_redeclare, hasNested_pruned, qualifiedName_pruned]

@[simp]
theorem supertypesOf_pruned : env.pruned.supertypesOf = env.supertypesOf := by
  funext id lenient
  simp only [supertypesOf, admitSupertypes_pruned, supertypePositions_pruned]
  rfl

theorem admitBounds_pruned (site : TypeSite) (lenient : Bool) (bounds : List ClassExpr) :
    env.pruned.admitBounds site lenient bounds = env.admitBounds site lenient bounds := by
  induction bounds with
  | nil => rfl
  | cons bound rest ih => simp only [admitBounds, ih, convertClassAt_pruned]

@[simp]
theorem supertypesOfParameter_pruned :
    env.pruned.supertypesOfParameter = env.supertypesOfParameter := by
  funext param lenient
  simp only [supertypesOfParameter, admitBounds_pruned, tree_redeclare, param_pruned,
    rawReference_pruned]
  rfl

@[simp]
theorem referenceBoundsOf_pruned : env.pruned.referenceBoundsOf = env.referenceBoundsOf := by
  funext param
  simp only [referenceBoundsOf, boundsOf_pruned]

/-! ## Subtyping -/

@[simp]
theorem positionTargets_pruned : env.pruned.positionTargets = env.positionTargets := by
  funext strict decl
  cases decl with
  | item id => simp only [positionTargets, supertypePositions_pruned]
  | parameter param => simp only [positionTargets, supertypesOfParameter_pruned]

@[simp]
theorem searchDepth_pruned : env.pruned.searchDepth = env.searchDepth :=
  congrArg (fun size => size + 2) size_redeclare

@[simp]
theorem assignableTo_pruned : env.pruned.assignableTo = env.assignableTo := by
  funext decl other strict
  simp only [assignableTo, supertypeSearch, positionTargets_pruned, searchDepth_pruned,
    known_pruned, tree_redeclare, qualifiedNameOf_pruned]

@[simp]
theorem canBeAssignedTo_pruned : env.pruned.canBeAssignedTo = env.canBeAssignedTo := by
  funext decl other
  simp only [canBeAssignedTo, assignableTo_pruned]

@[simp]
theorem tryCanBeAssignedTo_pruned : env.pruned.tryCanBeAssignedTo = env.tryCanBeAssignedTo := by
  funext decl other
  simp only [tryCanBeAssignedTo, assignableTo_pruned]

@[simp]
theorem acceptsArrays_pruned : env.pruned.acceptsArrays = env.acceptsArrays := by
  funext id
  simp only [acceptsArrays, tree_redeclare, qualifiedName_pruned, object_redeclare]

@[simp]
theorem assignable_pruned : env.pruned.assignable = env.assignable := by
  funext source target
  induction source, target using assignable.induct with
  | case1 target source same =>
      rw [assignable.eq_def, assignable.eq_def env, if_pos same, if_pos same]
  | _ => simp_all [assignable]

end JavaSymbols.Environment

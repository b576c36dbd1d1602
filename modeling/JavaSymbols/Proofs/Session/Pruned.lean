import JavaSymbols.Fields
import JavaSymbols.Proofs.Resolution.Pruned

/-!
# Queries without unused lists

Forcing types, assigning them and collecting ancestors and fields use no list that
the kind of a declaration gives no meaning.  Over pruned declarations each of
them gives the same in every session, and leaves the same session behind.
-/

namespace JavaSymbols.Environment

open DeclTree

variable (env : Environment)

/-! ## Forcing -/

@[simp]
theorem forceCell_pruned : env.pruned.forceCell = env.forceCell := by
  funext cell source site
  simp only [forceCell, convert_pruned]

mutual

theorem force_pruned (type : Ty) : env.pruned.force type = env.force type := by
  cases type with
  | deferred cell source site => simp only [force, forceCell_pruned]
  | reference item name args => simp only [force, forceAll_pruned args]
  | array component => simp only [force, force_pruned component]
  | upperBounded bound => simp only [force, force_pruned bound]
  | lowerBounded bound => simp only [force, force_pruned bound]
  | primitive type => rfl
  | void => rfl
  | null => rfl
  | typeVar var => rfl
  | wildcard => rfl

theorem forceAll_pruned (types : List Ty) : env.pruned.forceAll types = env.forceAll types := by
  cases types with
  | nil => rfl
  | cons type rest => simp only [forceAll, force_pruned type, forceAll_pruned rest]

end

@[simp]
theorem forceReference_pruned : env.pruned.forceReference = env.forceReference := by
  funext reference
  simp only [forceReference, forceAll_pruned]

@[simp]
theorem forceEdge_pruned : env.pruned.forceEdge = env.forceEdge := by
  funext supertype
  simp only [forceEdge, forceReference_pruned]

/-! ## Ancestors -/

@[simp]
theorem instantiate_pruned : env.pruned.instantiate = env.instantiate := by
  funext id supertype
  have sameArg : env.pruned.instantiateArg id = env.instantiateArg id := by
    funext arg
    cases arg with
    | written type => rfl
    | self => simp only [instantiateArg, rawReference_pruned]
  simp only [instantiate, sameArg]

@[simp]
theorem clauseReference_pruned : env.pruned.clauseReference = env.clauseReference := by
  funext id clause
  simp only [clauseReference, clauseSupertype_pruned, instantiate_pruned]

@[simp]
theorem superclassOf_pruned : env.pruned.superclassOf = env.superclassOf := by
  funext decl
  cases decl with
  | item id => simp only [superclassOf, superclass_pruned, instantiate_pruned]
  | parameter param => rfl

@[simp]
theorem interfacesOf_pruned : env.pruned.interfacesOf = env.interfacesOf := by
  funext decl
  cases decl with
  | item id => simp only [interfacesOf, interfaceClauses_pruned, clauseReference_pruned]
  | parameter param => simp only [interfacesOf, referenceBoundsOf_pruned]

@[simp]
theorem ancestorsOf_pruned : env.pruned.ancestorsOf = env.ancestorsOf := by
  funext decl lenient
  cases decl with
  | item id => simp only [ancestorsOf, itemAncestors, supertypesOf_pruned, instantiate_pruned]
  | parameter param => simp only [ancestorsOf, supertypesOfParameter_pruned]

@[simp]
theorem allAncestorsOf_pruned : env.pruned.allAncestorsOf = env.allAncestorsOf := by
  funext decl lenient
  simp only [allAncestorsOf, ancestorSearch, ancestorsOf_pruned, forceEdge_pruned,
    forceReference_pruned, known_pruned, searchDepth_pruned, tree_redeclare,
    qualifiedNameOf_pruned]

/-! ## Assignment -/

@[simp]
theorem isAssignable_pruned : env.pruned.isAssignable = env.isAssignable := by
  funext source target
  simp only [isAssignable, force_pruned, assignable_pruned]

@[simp]
theorem allAssignable_pruned : env.pruned.allAssignable = env.allAssignable := by
  funext sources targets
  induction sources generalizing targets with
  | nil => rfl
  | cons source sources ih =>
      cases targets with
      | nil => rfl
      | cons target targets => simp only [allAssignable, isAssignable_pruned, ih]

@[simp]
theorem itemAccepts_pruned : env.pruned.itemAccepts = env.itemAccepts := by
  funext id other
  simp only [itemAccepts, allAncestorsOf_pruned, tree_redeclare, qualifiedName_pruned,
    qualifiedNameOf_pruned, object_redeclare]

@[simp]
theorem declAccepts_pruned : env.pruned.declAccepts = env.declAccepts := by
  funext decl other
  cases decl with
  | item id => simp only [declAccepts, itemAccepts_pruned]
  | parameter param => rfl

@[simp]
theorem declAcceptsType_pruned : env.pruned.declAcceptsType = env.declAcceptsType := by
  funext decl type
  cases decl with
  | parameter param => rfl
  | item id =>
      simp only [declAcceptsType, force_pruned, known_pruned, itemAccepts_pruned,
        acceptsArrays_pruned]

/-! ## Fields -/

@[simp]
theorem memberType_pruned : env.pruned.memberType = env.memberType := by
  funext id type
  simp only [memberType, convert_pruned]

/-- The fields of the components of a record stay. -/
theorem componentFields_pruned {id : ItemId} (isRecord : (env.tree.decl id).kind = .recordType) :
    env.pruned.componentFields id = env.componentFields id := by
  have sameField : env.pruned.componentField = env.componentField := by
    funext id component
    simp only [componentField, memberType_pruned]
  simp only [componentFields, sameField, tree_redeclare, decl_pruned]
  rw [TypeDecl.pruned, isRecord]
  rfl

@[simp]
theorem bodyFields_pruned : env.pruned.bodyFields = env.bodyFields := by
  funext id inInterface
  have sameField : env.pruned.bodyField = env.bodyField := by
    funext id inInterface field
    simp only [bodyField, memberType_pruned]
  simp only [bodyFields, sameField, tree_redeclare, decl_pruned]
  rfl

@[simp]
theorem declaredFields_pruned : env.pruned.declaredFields = env.declaredFields := by
  funext id
  unfold declaredFields
  rw [tree_redeclare, decl_pruned, TypeDecl.kind_pruned, bodyFields_pruned]
  cases kind : (env.tree.decl id).kind with
  | classType => rfl
  | interfaceType => rfl
  | annotationType => rfl
  | recordType => simp only [componentFields_pruned env kind]
  | enumType =>
      have sameField : env.pruned.constantField = env.constantField := by
        funext id name
        simp only [constantField, rawReference_pruned]
      simp only [sameField, TypeDecl.pruned, kind, if_true]

@[simp]
theorem declaredFieldsOf_pruned : env.pruned.declaredFieldsOf = env.declaredFieldsOf := by
  funext decl
  cases decl with
  | item id => simp only [declaredFieldsOf, declaredFields_pruned]
  | parameter param => rfl

@[simp]
theorem collectFields_pruned : env.pruned.collectFields = env.collectFields := by
  have sameInherited : env.pruned.inheritedThrough = env.inheritedThrough := by
    funext collect ancestor
    simp only [inheritedThrough, forceEdge_pruned, known_pruned]
  funext depth
  induction depth with
  | zero => rfl
  | succ depth ih =>
      funext id
      simp only [collectFields, cutFields, expandFields, sameInherited, ih, declaredFields_pruned,
        ancestorsOf_pruned, tree_redeclare, qualifiedName_pruned]

@[simp]
theorem allFields_pruned : env.pruned.allFields = env.allFields := by
  funext id
  simp only [allFields, collectFields_pruned, searchDepth_pruned]

@[simp]
theorem allFieldsOf_pruned : env.pruned.allFieldsOf = env.allFieldsOf := by
  funext decl
  cases decl with
  | item id => simp only [allFieldsOf, allFields_pruned]
  | parameter param => rfl

@[simp]
theorem fieldOf?_pruned : env.pruned.fieldOf? = env.fieldOf? := by
  funext decl name
  simp only [fieldOf?, allFieldsOf_pruned]

@[simp]
theorem hasField_pruned : env.pruned.hasField = env.hasField := by
  funext decl name
  simp only [hasField, fieldOf?_pruned]

@[simp]
theorem resolvedType_pruned : env.pruned.resolvedType = env.resolvedType := by
  funext field
  exact force_pruned env field.type

theorem symbolOutward_pruned (name : String) (chain : List ItemId) :
    env.pruned.symbolOutward name chain = env.symbolOutward name chain := by
  induction chain with
  | nil => rfl
  | cons id outer ih => simp only [symbolOutward, allFields_pruned, ih]

@[simp]
theorem lookupSymbol_pruned : env.pruned.lookupSymbol = env.lookupSymbol := by
  funext scope name
  cases scope with
  | unit id => rfl
  | body id =>
      simp only [lookupSymbol, known_pruned, symbolOutward_pruned, tree_redeclare,
        chain_redeclare]

end JavaSymbols.Environment

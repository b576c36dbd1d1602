import JavaSymbols.Proofs.Methods.Told
import JavaSymbols.Proofs.Session.Pruned

/-!
# Methods without unused lists

Looking methods up uses no list that the kind of a declaration gives no meaning.
What is asked of a method or constructor that the tree tells of stays as well: an
accessor is that of a record, and keeps its component.
-/

namespace JavaSymbols

namespace DeclTree

variable {tree : DeclTree}

/-! ## What is told of a member -/

theorem accessedComponent?_pruned {method : Method} (told : tree.TellsMethod method) :
    tree.pruned.accessedComponent? method = tree.accessedComponent? method := by
  rcases method with ⟨owner, index | component⟩
  · rfl
  · have isRecord : (tree.decl owner).kind = .recordType := told rfl
    simp [accessedComponent?, TypeDecl.pruned, isRecord]

theorem methodName_pruned {method : Method} (told : tree.TellsMethod method) :
    tree.pruned.methodName method = tree.methodName method := by
  simp only [methodName, methodDecl?_pruned, accessedComponent?_pruned told]

@[simp]
theorem methodIsStatic_pruned (method : Method) :
    tree.pruned.methodIsStatic method = tree.methodIsStatic method := by
  simp only [methodIsStatic, methodDecl?_pruned]

@[simp]
theorem methodAccess_pruned (method : Method) :
    tree.pruned.methodAccess method = tree.methodAccess method := by
  simp only [methodAccess, methodDecl?_pruned]

@[simp]
theorem methodArity_pruned (method : Method) :
    tree.pruned.methodArity method = tree.methodArity method := by
  simp only [methodArity, methodDecl?_pruned]

@[simp]
theorem methodTypeParameters_pruned (method : Method) :
    tree.pruned.methodTypeParameters method = tree.methodTypeParameters method := by
  simp only [methodTypeParameters, parameters_pruned]

theorem constructorDecl_pruned {constructor : Constructor}
    (told : tree.TellsConstructor constructor) :
    tree.pruned.constructorDecl constructor = tree.constructorDecl constructor := by
  have isRecord : (tree.decl constructor.owner).kind ≠ .recordType := told
  simp [constructorDecl, TypeDecl.pruned, isRecord]

end DeclTree

namespace Environment

open DeclTree

variable (env : Environment)

/-! ## Signatures -/

@[simp]
theorem paramTypes_pruned : env.pruned.paramTypes = env.paramTypes := by
  funext method
  simp only [paramTypes, tree_redeclare, methodDecl?_pruned, convertAt_pruned]

theorem returnType_pruned {method : Method} (told : env.tree.TellsMethod method) :
    env.pruned.returnType method = env.returnType method := by
  simp only [returnType, tree_redeclare, methodDecl?_pruned, accessedComponent?_pruned told,
    convertAt_pruned]

theorem constructorParamTypes_pruned {constructor : Constructor}
    (told : env.tree.TellsConstructor constructor) :
    env.pruned.constructorParamTypes constructor = env.constructorParamTypes constructor := by
  simp only [constructorParamTypes, tree_redeclare, constructorDecl_pruned told, convert_pruned]

/-! ## Choosing methods -/

@[simp]
theorem implicitAccessor?_pruned : env.pruned.implicitAccessor? = env.implicitAccessor? := by
  funext call id
  rw [implicitAccessor?, implicitAccessor?, tree_redeclare, decl_pruned, TypeDecl.kind_pruned]
  by_cases isRecord : (env.tree.decl id).kind = .recordType
  · rw [accessorNamed?_pruned env.tree isRecord]
  · simp [isRecord]

@[simp]
theorem applicables_pruned : env.pruned.applicables = env.applicables := by
  funext call id view
  have sameMethod : env.pruned.applicable? = env.applicable? := by
    funext call id view overload
    simp only [applicable?, paramTypes_pruned, allAssignable_pruned]
  simp only [applicables, sameMethod, implicitAccessor?_pruned, tree_redeclare, decl_pruned]
  rfl

theorem passesToAll_pruned (method : Applicable) (others : List Applicable) :
    env.pruned.passesToAll method others = env.passesToAll method others := by
  induction others with
  | nil => rfl
  | cons other rest ih => simp only [passesToAll, allAssignable_pruned, ih]

theorem firstPassingToAll_pruned (all methods : List Applicable) :
    env.pruned.firstPassingToAll all methods = env.firstPassingToAll all methods := by
  induction methods with
  | nil => rfl
  | cons method rest ih => simp only [firstPassingToAll, passesToAll_pruned, ih]

@[simp]
theorem mostSpecific_pruned : env.pruned.mostSpecific = env.mostSpecific := by
  funext all
  rcases all with _ | ⟨first, _ | ⟨second, rest⟩⟩
  · rfl
  · rfl
  · simp only [mostSpecific, firstPassingToAll_pruned]

@[simp]
theorem findMethod_pruned : env.pruned.findMethod = env.findMethod := by
  funext call id
  simp only [findMethod, methodSearch, applicables_pruned, mostSpecific_pruned,
    ancestorsOf_pruned, forceEdge_pruned, known_pruned, searchDepth_pruned]

theorem methodOutward_pruned (call : Call) (chain : List ItemId) :
    env.pruned.methodOutward call chain = env.methodOutward call chain := by
  induction chain with
  | nil => rfl
  | cons id outer ih => simp only [methodOutward, findMethod_pruned, ih]

@[simp]
theorem lookupMethod_pruned : env.pruned.lookupMethod = env.lookupMethod := by
  funext scope call
  cases scope with
  | unit id => rfl
  | body id =>
      simp only [lookupMethod, known_pruned, methodOutward_pruned, tree_redeclare,
        chain_redeclare]

/-! ## Usages -/

theorem usageOf_pruned {found : MethodMatch} (told : env.tree.TellsMethod found.method) :
    env.pruned.usageOf found = env.usageOf found := by
  simp only [usageOf, paramTypes_pruned, returnType_pruned env told]

/-- A method that is found is told, so that its return type stays. -/
theorem usageOutward_pruned (call : Call) (chain : List ItemId) :
    env.pruned.usageOutward call chain = env.usageOutward call chain := by
  induction chain with
  | nil => rfl
  | cons id outer ih =>
      rw [usageOutward, usageOutward, findMethod_pruned, ih]
      apply (finds_findMethod call id).bind_congr
      rintro (_ | found) means
      · rfl
      · simp only [usageOf_pruned env (means found rfl).tells]

@[simp]
theorem lookupUsage_pruned : env.pruned.lookupUsage = env.lookupUsage := by
  funext scope name args
  cases scope with
  | unit id => rfl
  | body id =>
      simp only [lookupUsage, known_pruned, usageOutward_pruned, tree_redeclare, chain_redeclare]

end Environment

end JavaSymbols

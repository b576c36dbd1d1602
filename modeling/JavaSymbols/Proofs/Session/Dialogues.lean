import JavaSymbols.Fields
import JavaSymbols.Proofs.Methods.Told

/-!
# Dialogues with an environment

A client of an environment puts one request after another to it, all in one
session, and each answer may decide what it asks next.  Methods and constructors
are asked about by handles, which no client can make up: it has them from earlier
answers.  In a genuine dialogue, every handle stands for what the tree tells of.
-/

namespace JavaSymbols

/-- What stands for a member of a declaration. -/
inductive Handle where
  | method (method : Method)
  | constructor (constructor : Constructor)
  deriving DecidableEq

/-- A handle of what the tree tells of. -/
def DeclTree.TellsOf (tree : DeclTree) : Handle → Prop
  | .method method => tree.TellsMethod method
  | .constructor constructor => tree.TellsConstructor constructor

/-! ## Requests -/

/-- What can be asked of an environment, with the type of the answer. -/
inductive Request : Type → Type where
  /-- The names of the root types, and those needed from the start. -/
  | rootNames : Request RootNames
  | rootItems : Request (ItemId × ItemId)
  -- declarations, by id, by syntax node or by name
  | declaration (id : ItemId) : Request Decl
  | declarationAt (node : Environment.Node) : Request Decl
  | usageAt (decl : Decl) (node : Environment.Node) : Request Ty
  | solveQualified (name : String) : Request (Option Decl)
  | lookup (scope : Scope) (name : String) : Request (Option Decl)
  | visible (id : ItemId) (name : String) : Request (Option Decl)
  | parentOf (scope : Scope) : Request (Option Scope)
  -- what a declaration is
  | nameOf (decl : Decl) : Request String
  | qualifiedNameOf (decl : Decl) : Request String
  | classNameOf (decl : Decl) : Request String
  | packageOf (decl : Decl) : Request PackageName
  | accessOf (decl : Decl) : Request Access
  | kindOf (decl : Decl) : Request (Option DeclKind)
  | typeParametersOf (decl : Decl) : Request (List TypeParameter)
  | memberTypesOf (decl : Decl) : Request (List Decl)
  | containerOf (decl : Decl) : Request (Option Decl)
  | hasNested (decl : Decl) (name : String) : Request Bool
  | annotationsOf (decl : Decl) : Request (List Environment.AnnotationUse)
  | isAnnotatedWith (decl : Decl) (name : String) : Request Bool
  | variableOf (param : TypeParameter) : Request TypeVar
  | boundsOf (param : TypeParameter) : Request (List Ty)
  | referenceBoundsOf (param : TypeParameter) : Request (List Reference)
  -- types
  | convert (site : ItemId) (type : TypeExpr) : Request Ty
  | convertClause (site : ItemId) (clause : ClassExpr) : Request Reference
  | postpone (source : TypeExpr) (site : ItemId) : Request Ty
  | force (type : Ty) : Request Ty
  | cells : Request Cells
  -- ancestors
  | superclassOf (decl : Decl) : Request (Option Reference)
  | interfacesOf (decl : Decl) : Request (List Reference)
  | ancestorsOf (decl : Decl) (lenient : Bool) : Request (List Reference)
  | allAncestorsOf (decl : Decl) (lenient : Bool) : Request (List Reference)
  -- fields
  | declaredFieldsOf (decl : Decl) : Request (List Field)
  | allFieldsOf (decl : Decl) : Request (List Field)
  | fieldOf (decl : Decl) (name : String) : Request (Option Field)
  | hasField (decl : Decl) (name : String) : Request Bool
  | resolvedType (field : Field) : Request Ty
  | lookupSymbol (scope : Scope) (name : String) : Request (Option Field)
  /-- The fields of the components, of a record alone. -/
  | componentsOf (id : ItemId) : Request (Option (List Field))
  | hasComponent (id : ItemId) (name : String) : Request Bool
  /-- The names of the constants, of an enum alone. -/
  | constantsOf (id : ItemId) : Request (Option (List String))
  -- methods and constructors
  | declaredMethodsOf (decl : Decl) : Request (List Method)
  | constructorsOf (decl : Decl) : Request (List Constructor)
  | lookupMethod (scope : Scope) (call : Environment.Call) : Request (Option Method)
  | lookupUsage (scope : Scope) (name : String) (args : List Ty) : Request (Option MethodUsage)
  | methodName (method : Method) : Request String
  | methodIsStatic (method : Method) : Request Bool
  | methodAccess (method : Method) : Request Access
  | methodArity (method : Method) : Request Nat
  | methodTypeParameters (method : Method) : Request (List TypeParameter)
  | paramTypes (method : Method) : Request (List Ty)
  | returnType (method : Method) : Request Ty
  | constructorAccess (constructor : Constructor) : Request Access
  | constructorParamTypes (constructor : Constructor) : Request (List Ty)
  -- assignment
  | canBeAssignedTo (decl other : Decl) : Request Bool
  | tryCanBeAssignedTo (decl other : Decl) : Request Bool
  | accepts (decl other : Decl) : Request Bool
  | acceptsType (decl : Decl) (type : Ty) : Request Bool
  | isAssignable (source target : Ty) : Request Bool

namespace Request

open Environment in
/-- Put a request to an environment. -/
def answer (env : Environment) : {α : Type} → Request α → Query α
  | _, .rootNames => pure env.roots
  | _, .rootItems => pure (env.object, env.record)
  | _, .declaration id => Query.ofTraced (env.declaration id)
  | _, .declarationAt node => Query.ofTraced (env.declarationAt node)
  | _, .usageAt decl node => Query.ofTraced (Environment.usageAt decl node)
  | _, .solveQualified name => Query.ofTraced (env.solveQualified name)
  | _, .lookup scope name => Query.ofTraced (env.lookup scope name)
  | _, .visible id name => Query.ofTraced do
      let _ ← env.declaration id
      pure (env.tree.visible? id (Dotted.split name))
  | _, .parentOf scope => pure (scope.parent? env.tree)
  | _, .nameOf decl => pure (env.tree.nameOf decl)
  | _, .qualifiedNameOf decl => pure (env.tree.qualifiedNameOf decl)
  | _, .classNameOf decl => pure (env.tree.classNameOf decl)
  | _, .packageOf decl => pure (env.tree.packageOf decl)
  | _, .accessOf decl => pure (env.tree.accessOf decl)
  | _, .kindOf decl => pure (env.tree.kindOf? decl)
  | _, .typeParametersOf decl => pure (env.tree.typeParametersOf decl)
  | _, .memberTypesOf decl => pure (env.tree.memberTypesOf decl)
  | _, .containerOf decl => pure (env.tree.containerOf? decl)
  | _, .hasNested decl name => pure (env.tree.declHasNested decl name)
  | _, .annotationsOf decl => Query.ofTraced (env.annotationsOf decl)
  | _, .isAnnotatedWith decl name => Query.ofTraced <| hasAnnotation env decl name
  | _, .variableOf param => pure (env.tree.variableOf param)
  | _, .boundsOf param => Query.ofTraced (env.boundsOf param)
  | _, .referenceBoundsOf param => Query.ofTraced (env.referenceBoundsOf param)
  | _, .convert site type => Query.ofTraced (env.convert site type)
  | _, .convertClause site clause => env.clauseReference site clause
  | _, .postpone source site => Query.postpone source site
  | _, .force type => env.force type
  | _, .cells => Query.cells
  | _, .superclassOf decl => env.superclassOf decl
  | _, .interfacesOf decl => env.interfacesOf decl
  | _, .ancestorsOf decl lenient => env.ancestorsOf decl lenient
  | _, .allAncestorsOf decl lenient => env.allAncestorsOf decl lenient
  | _, .declaredFieldsOf decl => env.declaredFieldsOf decl
  | _, .allFieldsOf decl => env.allFieldsOf decl
  | _, .fieldOf decl name => env.fieldOf? decl name
  | _, .hasField decl name => env.hasField decl name
  | _, .resolvedType field => env.resolvedType field
  | _, .lookupSymbol scope name => env.lookupSymbol scope name
  | _, .componentsOf id =>
      if (env.tree.decl id).kind = .recordType then do
        let fields ← env.componentFields id
        pure (some fields)
      else pure none
  | _, .hasComponent id name =>
      pure ((env.tree.decl id).kind = .recordType && env.hasComponent id name)
  | _, .constantsOf id =>
      pure (if (env.tree.decl id).kind = .enumType then some (env.tree.decl id).constants else none)
  | _, .declaredMethodsOf decl => pure (env.tree.declaredMethodsOf decl)
  | _, .constructorsOf decl => pure (env.tree.constructorsOf decl)
  | _, .lookupMethod scope call => env.lookupMethod scope call
  | _, .lookupUsage scope name args => env.lookupUsage scope name args
  | _, .methodName method => pure (env.tree.methodName method)
  | _, .methodIsStatic method => pure (env.tree.methodIsStatic method)
  | _, .methodAccess method => pure (env.tree.methodAccess method)
  | _, .methodArity method => pure (env.tree.methodArity method)
  | _, .methodTypeParameters method => pure (env.tree.methodTypeParameters method)
  | _, .paramTypes method => Query.ofTraced (env.paramTypes method)
  | _, .returnType method => Query.ofTraced (env.returnType method)
  | _, .constructorAccess constructor => pure (env.tree.constructorDecl constructor).access
  | _, .constructorParamTypes constructor =>
      Query.ofTraced (env.constructorParamTypes constructor)
  | _, .canBeAssignedTo decl other => Query.ofTraced (env.canBeAssignedTo decl other)
  | _, .tryCanBeAssignedTo decl other => Query.ofTraced (env.tryCanBeAssignedTo decl other)
  | _, .accepts decl other => env.declAccepts decl other
  | _, .acceptsType decl type => env.declAcceptsType decl type
  | _, .isAssignable source target => env.isAssignable source target

/-- The handle that a request is about. -/
def handle? : {α : Type} → Request α → Option Handle
  | _, .methodName method | _, .methodIsStatic method | _, .methodAccess method
  | _, .methodArity method | _, .methodTypeParameters method | _, .paramTypes method
  | _, .returnType method => some (.method method)
  | _, .constructorAccess constructor | _, .constructorParamTypes constructor =>
      some (.constructor constructor)
  | _, _ => none

/-- The handles in an answer. -/
def handles : {α : Type} → Request α → α → List Handle
  | _, .declaredMethodsOf _, methods => methods.map .method
  | _, .constructorsOf _, constructors => constructors.map .constructor
  | _, .lookupMethod _ _, found => (found.map Handle.method).toList
  | _, .lookupUsage _ _ _, found => (found.map fun usage => Handle.method usage.method).toList
  | _, _, _ => []

/-- The handles in an answer stand for what the tree tells of. -/
theorem gives_handles {env : Environment} {α : Type} (request : Request α) :
    (request.answer env).Gives fun value =>
      ∀ handle ∈ request.handles value, env.tree.TellsOf handle := by
  cases request with
  | declaredMethodsOf decl =>
      apply Query.gives_pure
      intro handle listed
      rcases List.mem_map.mp listed with ⟨method, member, rfl⟩
      exact DeclTree.tellsMethod_of_mem_declaredMethodsOf member
  | constructorsOf decl =>
      apply Query.gives_pure
      intro handle listed
      rcases List.mem_map.mp listed with ⟨constructor, member, rfl⟩
      exact DeclTree.tellsConstructor_of_mem_constructorsOf member
  | lookupMethod scope call =>
      apply (Environment.finds_lookupMethod scope call).mono
      intro found means handle listed
      rcases Option.map_eq_some_iff.mp (Option.mem_toList.mp listed) with ⟨method, isFound, rfl⟩
      exact (means method isFound).tells
  | lookupUsage scope name args =>
      apply (Environment.finds_lookupUsage scope name args).mono
      intro found means handle listed
      rcases Option.map_eq_some_iff.mp (Option.mem_toList.mp listed) with ⟨usage, isFound, rfl⟩
      exact (means usage isFound).tells
  | _ =>
      apply (Query.gives_anything _).mono
      rintro value _ handle ⟨⟩

end Request

/-! ## Dialogues -/

/-- A client that asks for one thing after another and ends with a result. -/
inductive Dialogue (α : Type) : Type 1 where
  | done (result : α)
  | ask {β : Type} (request : Request β) (next : Except Fault β → Dialogue α)

namespace Dialogue

variable {α : Type}

/-- The result of a dialogue that starts in a session, and the session in which it
ends.  An answer can be a fault, after which the client goes on. -/
def run (env : Environment) : Dialogue α → Session → α × Session
  | .done result, session => (result, session)
  | .ask request next, session =>
      let answered := request.answer env session
      (next answered.1).run env answered.2

/-- A client keeps to the handles that it knows and those in the answers. -/
def KeepsTo (known : Handle → Prop) : Dialogue α → Prop
  | .done _ => True
  | .ask request next =>
      (∀ handle, request.handle? = some handle → known handle) ∧
        ∀ outcome, (next outcome).KeepsTo fun handle =>
          known handle ∨ ∃ value, outcome = .ok value ∧ handle ∈ request.handles value

/-- A client without any handle to begin with. -/
abbrev Genuine (dialogue : Dialogue α) : Prop :=
  dialogue.KeepsTo fun _ => False

variable {β : Type}

/-- Ask, and give up at a fault. -/
def require (request : Request β) (next : β → Dialogue (Option α)) : Dialogue (Option α) :=
  .ask request fun outcome =>
    match outcome with
    | .ok value => next value
    | .error _ => .done none

theorem keepsTo_require {known : Handle → Prop} {request : Request β}
    {next : β → Dialogue (Option α)}
    (about : ∀ handle, request.handle? = some handle → known handle)
    (onward : ∀ value,
      (next value).KeepsTo fun handle => known handle ∨ handle ∈ request.handles value) :
    (require request next).KeepsTo known := by
  constructor
  · exact about
  · intro outcome
    cases outcome with
    | error fault => trivial
    | ok value => simpa using onward value

end Dialogue

end JavaSymbols

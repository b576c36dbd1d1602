import JavaSymbols.Assignment

/-!
# Methods and constructors

A method is written in the body of an item, or is the accessor of a record
component.  A call is resolved by looking at the methods with the right name
and number of parameters: those whose parameters accept the arguments are
applicable, and of several the most specific is taken.  When an item has none,
its ancestors are searched depth first, and then the enclosing scopes.

Along the way up, parameter types are seen through the supertype clauses.  An
overload whose parameter types do not resolve is passed over.
-/

namespace JavaSymbols

/-- Where a method comes from. -/
inductive MethodOrigin where
  /-- The method at a position of the body. -/
  | declared (index : Nat)
  /-- The accessor of the record component at a position of the header. -/
  | accessor (component : Nat)
  deriving DecidableEq

/-- A method of an item. -/
structure Method where
  owner : ItemId
  origin : MethodOrigin
  deriving DecidableEq

/-- A constructor of an item, by its position in the body. -/
structure Constructor where
  owner : ItemId
  index : Nat
  deriving DecidableEq

/-- A method with its signature as seen at a call. -/
structure MethodUsage where
  method : Method
  params : List Ty
  returns : Ty

/-- A method that a search has found, with the reference that led to its owner;
there is none for the item the search started from. -/
structure MethodMatch where
  method : Method
  view : Option Reference

/-- An applicable method with its parameter types as seen at the call. -/
structure Applicable where
  method : Method
  params : List Ty

namespace Method

/-- Whether the method is the accessor of a record component. -/
def isAccessor (method : Method) : Bool :=
  match method.origin with
  | .declared _ => false
  | .accessor _ => true

/-- The position of the method in the body, or of the component in the header. -/
def index (method : Method) : Nat :=
  match method.origin with
  | .declared index => index
  | .accessor component => component

end Method

namespace DeclTree

variable (tree : DeclTree)

/-- A method as written; an accessor is written nowhere. -/
def methodDecl? (method : Method) : Option MethodDecl :=
  match method.origin with
  | .declared index => (tree.decl method.owner).methods[index]?
  | .accessor _ => none

/-- The record component that a method is the accessor of. -/
def accessedComponent? (method : Method) : Option Component :=
  match method.origin with
  | .declared _ => none
  | .accessor component => (tree.decl method.owner).components[component]?

/-- The name of a method. -/
def methodName (method : Method) : String :=
  match tree.methodDecl? method, tree.accessedComponent? method with
  | some written, _ => written.name
  | none, some component => component.name
  | none, none => ""

/-- Whether a method is static; accessors are not. -/
def methodIsStatic (method : Method) : Bool :=
  ((tree.methodDecl? method).map MethodDecl.isStatic).getD false

/-- The access of a method; accessors are public. -/
def methodAccess (method : Method) : Access :=
  ((tree.methodDecl? method).map MethodDecl.access).getD .publicAccess

/-- The number of parameters of a method. -/
def methodArity (method : Method) : Nat :=
  ((tree.methodDecl? method).map fun written => written.params.length).getD 0

/-- The type parameters of a method. -/
def methodTypeParameters (method : Method) : List TypeParameter :=
  match method.origin with
  | .declared index => tree.parameters (.method method.owner index)
  | .accessor _ => []

/-- The methods written in the body of a declaration, in order. -/
def declaredMethodsOf : Decl → List Method
  | .item id =>
      (List.range (tree.decl id).methods.length).map fun index => ⟨id, .declared index⟩
  | .parameter _ => []

/-- The constructors of a declaration, in order.  Those of records are not
told. -/
def constructorsOf : Decl → List Constructor
  | .item id =>
      if (tree.decl id).kind = .recordType then []
      else (List.range (tree.decl id).constructors.length).map fun index => ⟨id, index⟩
  | .parameter _ => []

/-- A constructor as written. -/
def constructorDecl (constructor : Constructor) : ConstructorDecl :=
  (tree.decl constructor.owner).constructors[constructor.index]?.getD default

/-- The accessor with a name that a record has: that of its first component of
that name, unless a method without parameters is written under the name. -/
def accessorNamed? (item : ItemId) (name : String) : Option Method :=
  let written := (tree.decl item).methods.any fun method =>
    method.name == name && method.params.isEmpty
  if written then none
  else
    ((tree.decl item).components.findIdx? fun component => component.name == name).map
      fun component => ⟨item, .accessor component⟩

end DeclTree

/-- The site in which the signature of a method is written. -/
def Method.typeSite (method : Method) : TypeSite :=
  match method.origin with
  | .declared index => ⟨method.owner, some index⟩
  | .accessor _ => ⟨method.owner, none⟩

namespace Environment

variable (env : Environment)

/-! ## Signatures -/

/-- The parameter types of a method. -/
def paramTypes (method : Method) : Traced (List Ty) :=
  match env.tree.methodDecl? method with
  | some written => written.params.mapM fun param => env.convertAt method.typeSite param.type
  | none => pure []

/-- The return type of a method; an accessor returns the type of its component. -/
def returnType (method : Method) : Traced Ty :=
  match env.tree.methodDecl? method, env.tree.accessedComponent? method with
  | some written, _ => env.convertAt method.typeSite written.returns
  | none, some component => env.convertAt method.typeSite component.type
  | none, none => .fail (.outsideTree method.owner)

/-- The parameter types of a constructor. -/
def constructorParamTypes (constructor : Constructor) : Traced (List Ty) :=
  (env.tree.constructorDecl constructor).params.mapM fun param =>
    env.convert constructor.owner param.type

/-! ## Choosing among overloads -/

/-- What a call asks for. -/
structure Call where
  name : String
  args : List Ty
  /-- Whether only static methods will do. -/
  staticOnly : Bool

/-- Whether a method as written has the name and number of parameters that a
call asks for, and is static when it has to be. -/
def Call.fits (call : Call) (method : MethodDecl) : Bool :=
  method.name == call.name && method.params.length == call.args.length &&
    (!call.staticOnly || method.isStatic)

/-- The method at a position of an item's body, if the call's arguments can be
assigned to its parameters. -/
def applicable? (call : Call) (item : ItemId) (view : Option Reference)
    (overload : Nat × MethodDecl) : Query (Option Applicable) := do
  let method : Method := ⟨item, .declared overload.1⟩
  match ← (env.paramTypes method : Query (List Ty)).attempt with
  | .ok params => do
      let cells ← Query.cells
      let params := params.map (Ty.seenThrough view cells)
      let accepted ← env.allAssignable call.args params
      pure (if accepted then some ⟨method, params⟩ else none)
  | .error fault =>
      if fault.isUnresolved then do
        Query.report (.overloadSkipped overload.2.name fault)
        pure none
      else Query.fail fault

/-- The implicit accessor that a call can mean on an item: a record's, for a
call without arguments that does not ask for a static method. -/
def implicitAccessor? (call : Call) (item : ItemId) : Option Method :=
  if (env.tree.decl item).kind = .recordType && call.args.isEmpty && !call.staticOnly then
    env.tree.accessorNamed? item call.name
  else none

/-- The methods of an item that a call can mean, in order; an implicit accessor
comes last. -/
def applicables (call : Call) (item : ItemId) (view : Option Reference) :
    Query (List Applicable) := do
  let written ←
    ((env.tree.decl item).methodsWhere call.fits).mapM (env.applicable? call item view)
  let accessor := (env.implicitAccessor? call item).map fun method => Applicable.mk method []
  pure (written.filterMap id ++ accessor.toList)

/-- Whether the parameters of a method could be passed on to each of several. -/
def passesToAll (method : Applicable) : List Applicable → Query Bool
  | [] => pure true
  | other :: rest => do
      if ← env.allAssignable method.params other.params then passesToAll method rest
      else pure false

/-- The first of several methods whose parameters could be passed on to all. -/
def firstPassingToAll (all : List Applicable) : List Applicable → Query (Option Method)
  | [] => pure none
  | method :: rest => do
      if ← env.passesToAll method all then pure (some method.method)
      else firstPassingToAll all rest

/-- The most specific of several applicable methods: one whose parameters could
be passed on to all, or else the first. -/
def mostSpecific (all : List Applicable) : Query (Option Method) :=
  match all with
  | [] => pure none
  | [only] => pure (some only.method)
  | first :: _ => do
      let found ← env.firstPassingToAll all all
      pure (some (found.getD first.method))

/-! ## Searching for a method -/

/-- An item met in the search for a method, with the reference it was reached
by. -/
structure MethodAscent where
  item : ItemId
  view : Option Reference

/-- The search for a method among an item and its ancestors. -/
def methodSearch (call : Call) : Search Query MethodAscent ItemId Reference MethodMatch where
  key := MethodAscent.item
  visit ascent := do
    let all ← env.applicables call ascent.item ascent.view
    let method ← env.mostSpecific all
    pure (method.map fun method => ⟨method, ascent.view⟩)
  edges ascent := env.ancestorsOf (.item ascent.item) true
  enter ascent ancestor := do
    let edge ← env.forceEdge ancestor
    let edge := edge.seenThrough ascent.view (← Query.cells)
    env.known edge.item
    pure (some ⟨edge.item, some edge⟩)

/-- The method that a call means on an item: the most specific applicable one
of the item itself, or else of the first ancestor that has one. -/
def findMethod (call : Call) (item : ItemId) : Query (Option MethodMatch) := do
  let (_, found) ← (env.methodSearch call).run env.searchDepth ⟨item, none⟩
  pure found

/-- The signature of a found method as seen at the call. -/
def usageOf (found : MethodMatch) : Query MethodUsage := do
  let params ← env.paramTypes found.method
  let cells ← Query.cells
  let returns ← env.returnType found.method
  pure
    { method := found.method
      params := params.map (Ty.seenThrough found.view cells)
      returns := returns.seenThrough found.view cells }

/-! ## Methods in scope -/

/-- The method that a call means in the bodies of a chain of enclosing items,
innermost first. -/
def methodOutward (call : Call) : List ItemId → Query (Option Method)
  | [] => pure none
  | item :: outer => do
      match ← env.findMethod call item with
      | some found => pure (some found.method)
      | none => do
          Query.report (.methodLookupDelegated call.name)
          methodOutward call outer

/-- The usage that a call means in the bodies of a chain of enclosing items,
innermost first. -/
def usageOutward (call : Call) : List ItemId → Query (Option MethodUsage)
  | [] => pure none
  | item :: outer => do
      match ← env.findMethod call item with
      | some found => do
          let usage ← env.usageOf found
          pure (some usage)
      | none => usageOutward call outer

/-- The method that a call means in a scope; a unit has no methods. -/
def lookupMethod (scope : Scope) (call : Call) : Query (Option Method) :=
  match scope with
  | .unit _ => pure none
  | .body item => do
      env.known item
      env.methodOutward call (env.tree.chain item)

/-- The method that a call means in a scope, with its signature as seen there.
Static and other methods count alike. -/
def lookupUsage (scope : Scope) (name : String) (args : List Ty) :
    Query (Option MethodUsage) :=
  match scope with
  | .unit _ => pure none
  | .body item => do
      env.known item
      env.usageOutward ⟨name, args, false⟩ (env.tree.chain item)

end Environment

end JavaSymbols

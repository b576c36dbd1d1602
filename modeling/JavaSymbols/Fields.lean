import JavaSymbols.Ancestors

/-!
# Fields

A declaration has the fields of its own body and those of every ancestor that
resolves, with their types seen through the supertype clauses.  A field whose
type does not resolve is still a field, with a deferred type.

When supertypes lead back to a declaration whose fields are being collected,
the collection is cut there.  A list that depends on a cut is not remembered,
since it depends on where the cycle was entered.
-/

namespace JavaSymbols.Environment

variable (env : Environment)

/-! ## Fields of one body -/

/-- The type of a field or record component of an item.  A type that does not
resolve is deferred. -/
def memberType (item : ItemId) (type : TypeExpr) : Query Ty := do
  match ← (env.convert item type : Query Ty).attempt with
  | .ok type => pure type
  | .error fault =>
      if fault.isUnresolved then do
        Query.report (.memberTypeKept type fault)
        Query.postpone type item
      else Query.fail fault

/-- A field written in the body of an item.  The fields of an interface are
public and static whatever is written. -/
def bodyField (item : ItemId) (inInterface : Bool) (field : FieldDecl) : Query Field := do
  let type ← env.memberType item field.type
  pure
    { name := field.name
      type := type
      access := if inInterface then .publicAccess else field.access
      isStatic := inInterface || field.isStatic
      isVolatile := field.isVolatile
      declaring := item
      isDerived := false }

/-- The private field that a record component gives rise to. -/
def componentField (item : ItemId) (component : Component) : Query Field := do
  let type ← env.memberType item component.type
  pure
    { name := component.name
      type := type
      access := .privateAccess
      isStatic := false
      isVolatile := false
      declaring := item
      isDerived := true }

/-- The public static field of an enum constant. -/
def constantField (item : ItemId) (name : String) : Field where
  name := name
  type := (env.rawReference item).toTy
  access := .publicAccess
  isStatic := true
  isVolatile := false
  declaring := item
  isDerived := false

/-- The fields written in the body of an item. -/
def bodyFields (item : ItemId) (inInterface : Bool) : Query (List Field) :=
  (env.tree.decl item).fields.mapM (env.bodyField item inInterface)

/-- The fields of the components of an item, in header order. -/
def componentFields (item : ItemId) : Query (List Field) :=
  (env.tree.decl item).components.mapM (env.componentField item)

/-- The fields that an item declares itself: those of enum constants or record
components first, then those of the body. -/
def declaredFields (item : ItemId) : Query (List Field) :=
  match (env.tree.decl item).kind with
  | .classType => env.bodyFields item false
  | .interfaceType => env.bodyFields item true
  | .annotationType => env.bodyFields item true
  | .enumType => do
      let body ← env.bodyFields item false
      pure ((env.tree.decl item).constants.map (env.constantField item) ++ body)
  | .recordType => do
      let components ← env.componentFields item
      let body ← env.bodyFields item false
      pure (components ++ body)

/-- The fields that a declaration declares itself. -/
def declaredFieldsOf : Decl → Query (List Field)
  | .item id => env.declaredFields id
  | .parameter _ => pure []

/-! ## Inherited fields -/

/-- The fields that an item inherits through one ancestor, given how all fields
of an item are collected. -/
def inheritedThrough (collect : ItemId → Query (List Field)) (ancestor : Reference) :
    Query (List Field) := do
  let edge ← env.forceEdge ancestor
  env.known edge.item
  let fields ← collect edge.item
  let cells ← Query.cells
  pure (fields.map fun field => { field with type := edge.apply cells field.type })

/-- Collect the own and inherited fields of an item, while it counts as being
expanded, and remember the list unless it was cut. -/
def expandFields (collect : ItemId → Query (List Field)) (item : ItemId) :
    Query (List Field) := do
  let before := (← Query.current).cuts
  let own ← env.declaredFields item
  let ancestors ← env.ancestorsOf (.item item) true
  let inherited ← ancestors.mapM (env.inheritedThrough collect)
  let fields := own ++ inherited.flatten
  if (← Query.current).cuts = before then
    Query.update fun session => { session with fields := (item, fields) :: session.fields }
  pure fields

/-- Cut the collection at an item that is being expanded: only its own fields
are taken. -/
def cutFields (item : ItemId) : Query (List Field) := do
  Query.update fun session => { session with cuts := session.cuts + 1 }
  Query.report (.hierarchyCycle (env.tree.qualifiedName item))
  env.declaredFields item

/-- All fields of an item, own ones first, through a bounded number of
supertype steps. -/
def collectFields : (depth : Nat) → ItemId → Query (List Field)
  | 0, _ => pure []
  | depth + 1, item => do
      let session ← Query.current
      match session.fields.lookup item with
      | some remembered => pure remembered
      | none =>
          if session.expanding.contains item then env.cutFields item
          else Query.whileExpanding item (env.expandFields (collectFields depth) item)

/-- All fields of an item: its own, then those of each direct ancestor in
order. -/
def allFields (item : ItemId) : Query (List Field) :=
  env.collectFields env.searchDepth item

/-- All fields of a declaration; a type parameter has none. -/
def allFieldsOf : Decl → Query (List Field)
  | .item id => env.allFields id
  | .parameter _ => pure []

/-- The first field of a declaration with a name. -/
def fieldOf? (decl : Decl) (name : String) : Query (Option Field) := do
  let fields ← env.allFieldsOf decl
  pure (fields.find? fun field => field.name == name)

/-- Whether a declaration has a field with a name. -/
def hasField (decl : Decl) (name : String) : Query Bool := do
  let field ← env.fieldOf? decl name
  pure field.isSome

/-- The type of a field, with nothing deferred. -/
def resolvedType (field : Field) : Query Ty :=
  env.force field.type

/-! ## Symbols in scope -/

/-- The field that a name denotes in the bodies of a chain of enclosing items,
innermost first. -/
def symbolOutward (name : String) : List ItemId → Query (Option Field)
  | [] => pure none
  | item :: outer => do
      let fields ← env.allFields item
      match fields.find? fun field => field.name == name with
      | some field => pure (some field)
      | none => symbolOutward name outer

/-- The field that a name denotes in a scope; a unit has no fields. -/
def lookupSymbol (scope : Scope) (name : String) : Query (Option Field) :=
  match scope with
  | .unit _ => pure none
  | .body item => do
      env.known item
      env.symbolOutward name (env.tree.chain item)

/-! ## Records -/

/-- Whether a record header has a component with a name. -/
def hasComponent (item : ItemId) (name : String) : Bool :=
  (env.tree.decl item).components.any fun component => component.name == name

end JavaSymbols.Environment

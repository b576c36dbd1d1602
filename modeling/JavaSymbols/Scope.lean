import JavaSymbols.Environment

/-!
# Scopes and the lookup of type names

A name is looked up from inside a type body outward.  Every enclosing
declaration is asked for its own name, its type parameters and its member
types; then the compilation unit is asked for its top-level types, its imports,
its package, `java.lang`, and the name as it stands.

Names are handled as paths, the pieces of the dotted text.
-/

namespace JavaSymbols

/-- A place in which names are looked up. -/
inductive Scope where
  | unit (id : UnitId)
  | body (item : ItemId)
  deriving DecidableEq, Inhabited

/-- The enclosing scope; a compilation unit has none. -/
def Scope.parent? (tree : DeclTree) : Scope → Option Scope
  | .unit _ => none
  | .body item =>
      match (tree.item item).parent with
      | .unit id => some (.unit id)
      | .type outer => some (.body outer)

namespace DeclTree

/-! ## Inside one declaration -/

/-- What a path denotes among the type parameters and member types of an item.
A type parameter hides a member type of its name. -/
def visible? (tree : DeclTree) (id : ItemId) (path : List String) : Option Decl :=
  let parameter :=
    match path with
    | [name] => (tree.parameterNamed? (.type id) name).map Decl.parameter
    | _ => none
  match parameter with
  | some decl => some decl
  | none => (tree.memberAt? id path).map Decl.item

/-- What a path denotes in the body of an item, its own name included. -/
def denotedIn? (tree : DeclTree) (id : ItemId) (path : List String) : Option Decl :=
  if path = Dotted.split (tree.simpleName id) then some (.item id) else tree.visible? id path

end DeclTree

/-- What follows a declaration's own name at the front of a path.  Nothing
follows when the name is not there, or when only an empty piece is left. -/
def afterOwnName? (own path : List String) : Option (List String) :=
  match own.isPrefixOf? path with
  | none => none
  | some [] => none
  | some [""] => none
  | some rest => some rest

/-- The readings of a path inside a declaration: the path itself, and what is
left after the declaration's own name has been taken off once or more often. -/
def readings (own : List String) : (steps : Nat) → List String → List (List String)
  | 0, path => [path]
  | steps + 1, path =>
      path ::
        match afterOwnName? own path with
        | none => []
        | some rest => readings own steps rest

namespace DeclTree

/-- The readings of a path in the body of an item. -/
def readingsIn (tree : DeclTree) (id : ItemId) (path : List String) : List (List String) :=
  readings (Dotted.split (tree.simpleName id)) path.length path

/-- The top-level type of a unit, or member type of one, that a path denotes.
The first top-level type with the right name under which the whole path exists
is taken. -/
def topLevel? (tree : DeclTree) (unit : UnitId) : List String → Option ItemId
  | [] => none
  | head :: rest =>
      (tree.unit unit).types.findSome? fun id =>
        if tree.simpleName id == head then tree.memberAt? id rest else none

end DeclTree

/-! ## Inside a compilation unit -/

/-- The qualified names that a path can stand for through an import of one
type, whose last segment has to be the head of the path. -/
def Import.singleReading? (path : List String) : Import → Option String
  | .single name =>
      if name.last?.isSome && name.last? == path.head? then
        some (Dotted.join (name.segments ++ path.tail))
      else none
  | .onDemand _ => none

/-- The qualified name that a path can stand for through an import of a
package. -/
def Import.onDemandReading? (path : List String) : Import → Option String
  | .single _ => none
  | .onDemand package => some (package.qualify (Dotted.join path))

/-- The qualified names that a path can stand for in a unit, in the order in
which they are tried. -/
def SourceUnit.qualifiedReadings (unit : SourceUnit) (path : List String) : List String :=
  unit.imports.filterMap (Import.singleReading? path) ++
    unit.package.qualify (Dotted.join path) ::
      unit.imports.filterMap (Import.onDemandReading? path) ++
    ["java.lang." ++ Dotted.join path, Dotted.join path]

namespace Environment

variable (env : Environment)

/-- Look a path up in a compilation unit. -/
def lookupInUnit (unit : UnitId) (path : List String) : Traced (Option Decl) :=
  match env.tree.topLevel? unit path with
  | some id => pure (some (.item id))
  | none => env.firstSolved ((env.tree.unit unit).qualifiedReadings path)

/-- Look a path up through a chain of enclosing items, innermost first, and at
last in their unit.  What an item hands on is the last reading of the path. -/
def lookupOutward (unit : UnitId) : List ItemId → List String → Traced (Option Decl)
  | [], path => env.lookupInUnit unit path
  | id :: outer, path =>
      let candidates := env.tree.readingsIn id path
      match candidates.findSome? (env.tree.denotedIn? id) with
      | some decl => pure (some decl)
      | none => do
          let handedOn := candidates.getLastD path
          Traced.report
            (.typeLookupDelegated (Dotted.join handedOn) (env.tree.qualifiedName id))
          lookupOutward unit outer handedOn

/-- Look a type name up in a scope. -/
def lookup (scope : Scope) (name : String) : Traced (Option Decl) :=
  match scope with
  | .unit id => env.lookupInUnit id (Dotted.split name)
  | .body item => do
      env.known item
      env.lookupOutward (env.tree.item item).unit (env.tree.chain item) (Dotted.split name)

/-- Look a type name up as seen from inside a declaration. -/
def lookupFrom (decl : Decl) (name : String) : Traced (Option Decl) :=
  env.lookup (.body decl.site) name

/-- Look a type name up in the scope that encloses an item. -/
def lookupAround (item : ItemId) (name : String) : Traced (Option Decl) :=
  match (env.tree.item item).parent with
  | .unit id => env.lookup (.unit id) name
  | .type outer => env.lookup (.body outer) name

/-! ## Annotations -/

/-- An annotation on a declaration, with the annotation type that it denotes. -/
structure AnnotationUse where
  name : QualifiedName
  declaration : Option ItemId
  deriving DecidableEq

/-- The annotation type that a declaration is, if it is one. -/
def annotationType? (decl : Option Decl) : Option ItemId :=
  match decl with
  | some (.item id) => if (env.tree.decl id).kind = .annotationType then some id else none
  | _ => none

/-- The annotations on a declaration, looked up in the scope around it. -/
def annotationsOf : Decl → Traced (List AnnotationUse)
  | .parameter _ => pure []
  | .item id =>
      (env.tree.decl id).annotations.mapM fun name => do
        let found ← env.lookupAround id name.dotted
        pure ⟨name, env.annotationType? found⟩

/-- Whether an annotation type with a qualified name is used on a declaration. -/
def hasAnnotation (decl : Decl) (name : String) : Traced Bool := do
  let uses ← env.annotationsOf decl
  pure ((uses.filterMap AnnotationUse.declaration).any fun id => env.tree.qualifiedName id == name)

end Environment

end JavaSymbols

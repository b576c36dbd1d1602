import JavaSymbols.Conversion

/-!
# Direct supertypes

The supertypes of a declaration are those that it writes and those that its
kind implies.  They are found here without touching any state: type arguments
of clauses are kept as written, to be deferred later.

Every supertype position is resolved on its own, so that one clause without
meaning does not hide the others.
-/

namespace JavaSymbols

/-- A type argument of a supertype. -/
inductive SupertypeArg where
  | written (type : TypeExpr)
  /-- The declaration itself, as a raw type. -/
  | self
  deriving DecidableEq

/-- A direct supertype of a declaration. -/
structure Supertype where
  item : ItemId
  name : String
  args : List SupertypeArg
  deriving DecidableEq

namespace Environment

variable (env : Environment)

/-- An item as a raw supertype. -/
def rawSupertype (id : ItemId) : Supertype :=
  ⟨id, env.tree.qualifiedName id, []⟩

/-- An item as a raw reference. -/
def rawReference (id : ItemId) : Reference :=
  ⟨id, env.tree.qualifiedName id, []⟩

/-- A root type named by the settings, as a supertype. -/
def rootSupertype (name : String) (args : List SupertypeArg) : Traced Supertype :=
  match env.solve name with
  | none => .fail (.unresolvedAncestor name)
  | some id => do
      let _ ← env.declaration id
      pure ⟨id, env.tree.qualifiedName id, args⟩

/-- What a supertype clause denotes: its dotted name as written, or else, for a
scoped name, the last two names alone. -/
def clauseTarget (item : ItemId) (clause : ClassExpr) : Traced (Option Decl) := do
  match ← env.lookup (.body item) clause.dotted, clause.scope? with
  | none, some scope => env.lookup (.body item) (scope.name ++ "." ++ clause.name)
  | found, _ => pure found

/-- The supertype that a clause of an item denotes.  A type parameter cannot be
a supertype. -/
def clauseSupertype (item : ItemId) (clause : ClassExpr) : Traced Supertype := do
  match ← env.clauseTarget item clause with
  | some (.item id) =>
      pure ⟨id, env.tree.qualifiedName id, (clause.args.getD []).map .written⟩
  | _ => .fail (.unresolvedAncestor clause.name)

/-! ## Positions -/

/-- The superclass of an item.  A class other than the universal base type
extends its first `extends` entry, or else the universal base type; enums and
records have fixed superclasses, interfaces and annotation types none. -/
def superclass (id : ItemId) : Traced (Option Supertype) :=
  match (env.tree.decl id).kind with
  | .classType =>
      if id = env.object then pure none
      else
        match (env.tree.decl id).extended with
        | [] => pure (some (env.rawSupertype env.object))
        | clause :: _ => do
            let supertype ← env.clauseSupertype id clause
            pure (some supertype)
  | .enumType => do
      let supertype ← env.rootSupertype env.roots.enumBase [.self]
      pure (some supertype)
  | .recordType => pure (some (env.rawSupertype env.record))
  | .interfaceType => pure none
  | .annotationType => pure none

/-- What stands in the position of the superclass among the ancestors.  It is
the superclass, except that an interface that extends nothing has the universal
base type there, and an annotation type the base of annotations. -/
def superPosition (id : ItemId) : Traced (Option Supertype) :=
  match (env.tree.decl id).kind with
  | .interfaceType =>
      if (env.tree.decl id).extended.isEmpty then pure (some (env.rawSupertype env.object))
      else pure none
  | .annotationType => do
      let supertype ← env.rootSupertype env.roots.annotationBase []
      pure (some supertype)
  | _ => env.superclass id

/-- The superinterface clauses of an item. -/
def interfaceClauses (id : ItemId) : List ClassExpr :=
  match (env.tree.decl id).kind with
  | .interfaceType => (env.tree.decl id).extended
  | .annotationType => []
  | _ => (env.tree.decl id).implemented

/-- The supertype positions of an item: the superclass, then the superinterface
clauses in source order, each with the supertypes that it yields. -/
def supertypePositions (id : ItemId) : List (Traced (List Supertype)) :=
  (do
    let supertype ← env.superPosition id
    pure supertype.toList) ::
    (env.interfaceClauses id).map fun clause => do
      let supertype ← env.clauseSupertype id clause
      pure [supertype]

/-- The supertypes that several positions of an item yield, apart from types
nested in it.  A lenient search leaves out positions that do not resolve. -/
def admitSupertypes (id : ItemId) (lenient : Bool) :
    List (Traced (List Supertype)) → Traced (List Supertype)
  | [] => pure []
  | position :: rest => do
      match ← position.attempt with
      | .ok found => do
          let more ← admitSupertypes id lenient rest
          pure ((found.filter fun supertype => !env.tree.hasNested id supertype.name) ++ more)
      | .error fault =>
          if lenient && fault.isUnresolved then do
            Traced.report (.ancestorSkipped (env.tree.qualifiedName id) fault)
            admitSupertypes id lenient rest
          else .fail fault

/-- The direct supertypes of an item.  The universal base type has none. -/
def supertypesOf (id : ItemId) (lenient : Bool) : Traced (List Supertype) :=
  if id = env.object then pure []
  else env.admitSupertypes id lenient (env.supertypePositions id)

/-! ## Type parameters -/

/-- The references among the bounds of a type parameter, in order.  Bounds that
are type variables themselves are not followed.  A lenient search leaves out
bounds that do not resolve. -/
def admitBounds (site : TypeSite) (lenient : Bool) : List ClassExpr → Traced (List Reference)
  | [] => pure []
  | bound :: rest => do
      match ← (env.convertClassAt site bound).attempt with
      | .ok type => do
          let more ← admitBounds site lenient rest
          pure (type.reference?.toList ++ more)
      | .error fault =>
          if lenient && fault.isUnresolved then do
            Traced.report (.boundSkipped bound fault)
            admitBounds site lenient rest
          else .fail fault

/-- The direct supertypes of a type parameter: its bounds, or the universal base
type when no bound is a reference. -/
def supertypesOfParameter (param : TypeParameter) (lenient : Bool) : Traced (List Reference) := do
  let found ← env.admitBounds param.owner.typeSite lenient (env.tree.param param).bounds
  pure (if found.isEmpty then [env.rawReference env.object] else found)

/-- The references among the bounds of a type parameter, all of which have to
resolve. -/
def referenceBoundsOf (param : TypeParameter) : Traced (List Reference) := do
  let bounds ← env.boundsOf param
  pure (bounds.filterMap Ty.reference?)

end Environment

end JavaSymbols

import JavaSymbols.Scope

/-!
# Conversion of written types

A written type is converted at a site: the body of an item, possibly inside one
of its generic methods, whose type parameters then hide other names.  The first
name that denotes nothing, from left to right, ends the conversion.
-/

namespace JavaSymbols

/-- Where a type is written. -/
structure TypeSite where
  item : ItemId
  /-- The position of the enclosing method, if there is one. -/
  method : Option Nat
  deriving DecidableEq, Inhabited

/-- The site in which the bounds of an owner's type parameters are written. -/
def ParamOwner.typeSite : ParamOwner → TypeSite
  | .type item => ⟨item, none⟩
  | .method item index => ⟨item, some index⟩

namespace Environment

variable (env : Environment)

/-- The type parameter of the enclosing method that a simple name denotes. -/
def methodParameter? (site : TypeSite) (name : String) : Option TypeParameter :=
  match site.method with
  | none => none
  | some index => env.tree.parameterNamed? (.method site.item index) name

/-- The type that a dotted class name denotes at a site, given how its
arguments are converted.  A type parameter takes no arguments. -/
def classTypeNamed (site : TypeSite) (name : String) (args : Traced (List Ty)) : Traced Ty := do
  match ← env.lookup (.body site.item) name with
  | none => .fail (.unresolvedSymbol name)
  | some (.parameter param) => pure (.typeVar (env.tree.variableOf param))
  | some (.item id) => do
      let args ← args
      pure (.reference id (env.tree.qualifiedName id) args)

mutual

/-- Convert a written type. -/
def convertAt (site : TypeSite) : TypeExpr → Traced Ty
  | .primitive type => pure (.primitive type)
  | .void => pure .void
  | .named type => convertClassAt site type
  | .array component => do
      let component ← convertAt site component
      pure (.array component)
  | .wildcard => pure .wildcard
  | .upperBounded bound => do
      let bound ← convertAt site bound
      pure (.upperBounded bound)
  | .lowerBounded bound => do
      let bound ← convertAt site bound
      pure (.lowerBounded bound)

/-- Convert a written class type.  Only a name without a scope can denote a type
parameter of the enclosing method. -/
def convertClassAt (site : TypeSite) : ClassExpr → Traced Ty
  | .simple name args =>
      match env.methodParameter? site name with
      | some param => pure (.typeVar (env.tree.variableOf param))
      | none => env.classTypeNamed site name (convertArgumentsAt site args)
  | .within scope name args =>
      env.classTypeNamed site (scope.dotted ++ "." ++ name) (convertArgumentsAt site args)

/-- Convert an optional argument list; a raw type has no arguments. -/
def convertArgumentsAt (site : TypeSite) : Option (List TypeExpr) → Traced (List Ty)
  | none => pure []
  | some args => convertAllAt site args

/-- Convert written types from left to right. -/
def convertAllAt (site : TypeSite) : List TypeExpr → Traced (List Ty)
  | [] => pure []
  | type :: rest => do
      let type ← convertAt site type
      let rest ← convertAllAt site rest
      pure (type :: rest)

end

/-- Convert a type written in the body of an item. -/
def convert (item : ItemId) (type : TypeExpr) : Traced Ty :=
  env.convertAt ⟨item, none⟩ type

/-- The bounds of a type parameter, converted where they are written. -/
def boundsOf (param : TypeParameter) : Traced (List Ty) :=
  (env.tree.param param).bounds.mapM (env.convertClassAt param.owner.typeSite)

end Environment

end JavaSymbols

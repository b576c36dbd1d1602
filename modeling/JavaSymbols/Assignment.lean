import JavaSymbols.Ancestors

/-!
# Assignment

Whether a value of one type fits a slot of another, for types that may be
deferred.  Both are forced first, so a type that does not resolve is a fault.
The second test asks from the side of the slot, whether a declaration is among
the ancestors of a value's type.
-/

namespace JavaSymbols.Environment

variable (env : Environment)

/-- Whether a value of one type can be assigned to a slot of another. -/
def isAssignable (source target : Ty) : Query Bool := do
  let source ← env.force source
  let target ← env.force target
  env.assignable source target

/-- Whether values of several types can be assigned to as many slots, tested
from left to right up to the first that cannot. -/
def allAssignable : (sources targets : List Ty) → Query Bool
  | source :: sources, target :: targets => do
      if ← env.isAssignable source target then allAssignable sources targets else pure false
  | _, _ => pure true

/-- Whether a value of a declared type can be assigned to an item: the item is
the universal base type, the declared type itself, or one of its ancestors, all
of which have to resolve. -/
def itemAccepts (item : ItemId) (other : Decl) : Query Bool := do
  if item = env.object then pure true
  else
    let name := env.tree.qualifiedName item
    if env.tree.qualifiedNameOf other = name then pure true
    else do
      let ancestors ← env.allAncestorsOf other false
      pure (ancestors.any fun ancestor => ancestor.name == name)

/-- Whether a value of a declared type can be assigned to a declaration, which
may not be a type parameter. -/
def declAccepts (decl other : Decl) : Query Bool :=
  match decl with
  | .item id => env.itemAccepts id other
  | .parameter _ => Query.fail (.unsupported .assignmentToTypeParameter)

/-- Whether a value of a type can be assigned to a declaration, which may not be
a type parameter. -/
def declAcceptsType (decl : Decl) (type : Ty) : Query Bool :=
  match decl with
  | .parameter _ => Query.fail (.unsupported .assignmentToTypeParameter)
  | .item id => do
      match ← env.force type with
      | .null => pure true
      | .reference source _ _ => do
          env.known source
          env.itemAccepts id (.item source)
      | .typeVar var => do
          env.known var.owner.item
          env.itemAccepts id (.parameter var.parameter)
      | .array _ => pure (env.acceptsArrays id)
      | _ => Query.fail (.unsupported .assignmentOfNonReference)

end JavaSymbols.Environment

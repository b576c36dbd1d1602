import JavaSymbols.Search
import JavaSymbols.Supertype

/-!
# Subtyping between declarations and between types

A declaration can be assigned to another when a chain of supertypes leads
there; type arguments play no part.  The search for such a chain asks every
supertype position on its own.  A best-effort search passes over positions that
do not resolve, a strict one fails at the first that it meets.

Between types, assignment adds identity, widening of primitive types, the null
type, wildcards and the covariance of arrays.
-/

namespace JavaSymbols

namespace Environment

variable (env : Environment)

/-- A bound on the depth of any search through supertypes: such a search sees
at most one new item per step, after the declaration it starts from. -/
def searchDepth : Nat :=
  env.tree.size + 2

/-! ## Between declarations -/

/-- The outcomes of all supertype positions of a declaration, each with the
items that it leads to. -/
def positionTargets (strict : Bool) : Decl → Traced (List (Except Fault (List ItemId)))
  | .item id =>
      (env.supertypePositions id).mapM fun position => do
        let outcome ← position.attempt
        pure (outcome.map fun found => found.map Supertype.item)
  | .parameter param => do
      let outcome ← (env.supertypesOfParameter param !strict).attempt
      pure [outcome.map fun found => found.map Reference.item]

/-- The targets of several positions as single edges, in order. -/
def positionEdges (outcomes : List (Except Fault (List ItemId))) : List (Except Fault ItemId) :=
  outcomes.flatMap fun outcome =>
    match outcome with
    | .ok targets => targets.map .ok
    | .error fault => [.error fault]

/-- The search for a declaration with a given name among the supertypes of
another. -/
def supertypeSearch (target : String) (strict : Bool) :
    Search Traced Decl String (Except Fault ItemId) Unit where
  key := env.tree.qualifiedNameOf
  visit decl := pure (if env.tree.qualifiedNameOf decl = target then some () else none)
  edges decl := do
    let outcomes ← env.positionTargets strict decl
    pure (positionEdges outcomes)
  enter _ edge :=
    match edge with
    | .ok id => do
        env.known id
        pure (some (.item id))
    | .error fault => if !strict && fault.isUnresolved then pure none else .fail fault

/-- Whether a value of one declared type can be assigned to another. -/
def assignableTo (decl other : Decl) (strict : Bool) : Traced Bool := do
  let search := env.supertypeSearch (env.tree.qualifiedNameOf other) strict
  let result ← search.run env.searchDepth decl
  pure result.2.isSome

/-- The best-effort test: supertypes that do not resolve are passed over. -/
def canBeAssignedTo (decl other : Decl) : Traced Bool :=
  env.assignableTo decl other false

/-- The strict test: a supertype that does not resolve is a fault. -/
def tryCanBeAssignedTo (decl other : Decl) : Traced Bool :=
  env.assignableTo decl other true

/-! ## Between types -/

/-- The names of the interfaces that every array type implements. -/
def arrayInterfaces : List String :=
  ["java.lang.Cloneable", "java.io.Serializable"]

/-- Whether every array can be assigned to an item. -/
def acceptsArrays (id : ItemId) : Bool :=
  id == env.object || arrayInterfaces.contains (env.tree.qualifiedName id)

/-- Whether a value of one type can be assigned to a slot of another, when
neither type is deferred in any part. -/
def assignable (source target : Ty) : Traced Bool :=
  if source.same target then pure true
  else
    match source, target with
    | .primitive type, .primitive slot => pure (type.widensTo slot)
    | .primitive _, _ | .void, _ | _, .primitive _ | _, .void => pure false
    | .null, _ => pure true
    | _, .typeVar _ => pure true
    | source, .upperBounded bound => assignable source bound
    | _, .lowerBounded _ | _, .wildcard => pure true
    | .array element, .array slot =>
        if element.isPrimitive || slot.isPrimitive then pure (element.same slot)
        else assignable element slot
    | .array _, .reference id _ _ => do
        env.known id
        pure (env.acceptsArrays id)
    | .reference id _ _, .reference slot _ _ => do
        env.known id
        env.known slot
        env.canBeAssignedTo (.item id) (.item slot)
    | .typeVar var, .reference slot _ _ => do
        env.known var.owner.item
        env.known slot
        env.canBeAssignedTo (.parameter var.parameter) (.item slot)
    | _, _ => pure false

end Environment

end JavaSymbols

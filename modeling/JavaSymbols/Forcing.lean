import JavaSymbols.Session
import JavaSymbols.Conversion

/-!
# Forcing deferred types

Forcing a type converts what it defers, from left to right, and remembers each
result in its cell, so that no type is converted twice.  A conversion that ends
with a fault leaves its cell unset; cells set before stay set.
-/

namespace JavaSymbols.Environment

variable (env : Environment)

/-- Force one deferred type: what its cell holds, or else the conversion of its
source, which the cell then holds. -/
def forceCell (cell : Nat) (source : TypeExpr) (site : ItemId) : Query Ty := do
  match (← Query.cells).get? cell with
  | some type => pure type
  | none => do
      let type ← env.convert site source
      Query.settleCell cell type
      pure type

mutual

/-- Force every deferred part of a type. -/
def force : Ty → Query Ty
  | .deferred cell source site => env.forceCell cell source site
  | .reference item name args => do
      let args ← forceAll args
      pure (.reference item name args)
  | .array component => do
      let component ← force component
      pure (.array component)
  | .upperBounded bound => do
      let bound ← force bound
      pure (.upperBounded bound)
  | .lowerBounded bound => do
      let bound ← force bound
      pure (.lowerBounded bound)
  | .primitive type => pure (.primitive type)
  | .void => pure .void
  | .null => pure .null
  | .typeVar var => pure (.typeVar var)
  | .wildcard => pure .wildcard

/-- Force several types from left to right. -/
def forceAll : List Ty → Query (List Ty)
  | [] => pure []
  | type :: rest => do
      let type ← force type
      let rest ← forceAll rest
      pure (type :: rest)

end

/-- Force the type arguments of a reference. -/
def forceReference (reference : Reference) : Query Reference := do
  let args ← env.forceAll reference.args
  pure { reference with args := args }

/-- Force the type arguments of a supertype.  If one does not resolve, the
supertype stays as it was, and with it all of its arguments. -/
def forceEdge (supertype : Reference) : Query Reference := do
  match ← (env.forceReference supertype).attempt with
  | .ok edge => pure edge
  | .error fault =>
      if fault.isUnresolved then do
        Query.report (.argumentsKept supertype.name fault)
        pure supertype
      else Query.fail fault

end JavaSymbols.Environment

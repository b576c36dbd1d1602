import JavaSymbols.DeclTree.Basic

/-!
# Faults

Why a query gives no answer.  Names that denote nothing make a query
unresolved, and lenient queries skip over such faults; all other faults end
every query.
-/

namespace JavaSymbols

/-- How a declaration tree and the ids used with it can be inconsistent. -/
inductive Inconsistency where
  /-- No item has the id. -/
  | unknownItem (id : ItemId)
  /-- The item belongs to a unit that does not exist. -/
  | missingUnit (id : ItemId) (unit : UnitId)
  /-- The item has no type parameter at the position. -/
  | noTypeParameter (id : ItemId) (index : Nat)
  /-- An enum constant was looked for in an item that is no enum. -/
  | constantOutsideEnum (id : ItemId)
  deriving DecidableEq

/-- The wording of an inconsistency. -/
def Inconsistency.message : Inconsistency → String
  | .unknownItem id => s!"ItemId({id}) is not part of the declaration tree"
  | .missingUnit id unit =>
      s!"ItemId({id}) refers to a missing compilation unit UnitId({unit})"
  | .noTypeParameter id index => s!"ItemId({id}) has no type parameter #{index}"
  | .constantOutsideEnum id =>
      s!"enum constant outside of an enum declaration (ItemId({id}))"

/-- Operations that have no meaning for some declarations or types. -/
inductive Unsupported where
  | memberNode
  | usageOfNode
  | assignmentToTypeParameter
  | assignmentOfNonReference
  deriving DecidableEq

/-- The wording of an unsupported operation. -/
def Unsupported.message : Unsupported → String
  | .memberNode => "member nodes do not declare a type"
  | .usageOfNode => "usage of a node from a type declaration"
  | .assignmentToTypeParameter => "assignability to a type parameter declaration"
  | .assignmentOfNonReference => "assignability of a non-reference type to a declaration"

/-- Why a query gives no answer. -/
inductive Fault where
  /-- A written name denotes nothing. -/
  | unresolvedSymbol (name : String)
  /-- A supertype clause denotes no declaration. -/
  | unresolvedAncestor (name : String)
  | unsupported (operation : Unsupported)
  /-- The declaration tree or an id is inconsistent. -/
  | inconsistent (why : Inconsistency)
  /-- A root type that resolution needs from the start is unknown. -/
  | missingRootType (name : String)
  /-- An id outside the tree was used without having been validated. -/
  | outsideTree (id : ItemId)
  deriving DecidableEq

namespace Fault

/-- The wording of a fault. -/
def message : Fault → String
  | unresolvedSymbol name => "unresolved symbol \x60" ++ name ++ "\x60"
  | unresolvedAncestor name => "unresolved ancestor \x60" ++ name ++ "\x60"
  | unsupported operation => "unsupported operation: " ++ operation.message
  | inconsistent why => "invariant violated: " ++ why.message
  | missingRootType name =>
      "well-known type \x60" ++ name ++ "\x60 is not available from the type solver"
  | outsideTree id => s!"ItemId({id}) is outside the declaration tree"

/-- Whether the fault is a name that denotes nothing.  Lenient queries go on
after such a fault. -/
def isUnresolved : Fault → Bool
  | unresolvedSymbol _ => true
  | unresolvedAncestor _ => true
  | _ => false

end Fault

end JavaSymbols

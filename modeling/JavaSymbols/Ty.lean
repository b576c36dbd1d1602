import JavaSymbols.DeclTree.Basic

/-!
# Resolved types

`Ty` is a type after name resolution.  References carry the item they denote,
its qualified name and their type arguments; variables carry the declaration
that introduces them.

A deferred type is a written type whose conversion has been put off.  It names
a cell of the session, and the cell receives the converted type when it is
first needed.  Cells are shared, so operations that look through deferred types
take the cells as an argument; `settle` replaces every deferred type whose cell
is set, and leaves the others in place.
-/

namespace JavaSymbols

/-- The declaration that introduces a type parameter. -/
inductive ParamOwner where
  | type (item : ItemId)
  /-- A generic method, by its position among the methods of an item. -/
  | method (item : ItemId) (index : Nat)
  deriving DecidableEq, Inhabited

/-- The item in whose body a type parameter is introduced. -/
def ParamOwner.item : ParamOwner → ItemId
  | .type item => item
  | .method item _ => item

/-- A use of a type parameter. -/
structure TypeVar where
  owner : ParamOwner
  index : Nat
  name : String
  deriving DecidableEq, Inhabited

/-- A resolved type. -/
inductive Ty where
  | primitive (type : Primitive)
  | void
  /-- The type of the null literal. -/
  | null
  /-- An item, its qualified name and type arguments; without arguments the use
  is raw. -/
  | reference (item : ItemId) (name : String) (args : List Ty)
  | typeVar (var : TypeVar)
  | array (component : Ty)
  | wildcard
  | upperBounded (bound : Ty)
  | lowerBounded (bound : Ty)
  /-- A written type whose conversion at `site` belongs into a cell. -/
  | deferred (cell : Nat) (source : TypeExpr) (site : ItemId)
  deriving Inhabited

/-- A use of a declaration with the type arguments bound there. -/
structure Reference where
  item : ItemId
  name : String
  args : List Ty
  deriving Inhabited

namespace Reference

/-- A reference as a type. -/
def toTy (reference : Reference) : Ty :=
  .reference reference.item reference.name reference.args

/-- Whether no type arguments are bound. -/
def isRaw (reference : Reference) : Bool :=
  reference.args.isEmpty

end Reference

/-! ## Cells -/

/-- The cell of a deferred type: the written type that waits to be converted,
the item in whose body it is written, and the result once it is known. -/
structure Cell where
  source : TypeExpr
  site : ItemId
  value : Option Ty
  deriving Inhabited

/-- The cells of deferred types, by position. -/
structure Cells where
  all : Array Cell
  deriving Inhabited

namespace Cells

/-- No cells. -/
def empty : Cells :=
  ⟨#[]⟩

/-- The number of cells. -/
def size (cells : Cells) : Nat :=
  cells.all.size

/-- The type a cell holds, if it is set. -/
def get? (cells : Cells) (cell : Nat) : Option Ty :=
  cells.all[cell]?.bind Cell.value

/-- Add an unset cell for a written type at the end. -/
def grow (cells : Cells) (source : TypeExpr) (site : ItemId) : Cells :=
  ⟨cells.all.push ⟨source, site, none⟩⟩

/-- Store a type in a cell. -/
def set (cells : Cells) (cell : Nat) (type : Ty) : Cells :=
  ⟨cells.all.modify cell fun content => { content with value := some type }⟩

@[simp]
theorem size_grow (cells : Cells) (source : TypeExpr) (site : ItemId) :
    (cells.grow source site).size = cells.size + 1 := by
  simp [grow, size]

@[simp]
theorem size_set (cells : Cells) (cell : Nat) (type : Ty) :
    (cells.set cell type).size = cells.size := by
  simp [set, size]

/-- Growing changes no cell: the new one reads as unset, like any cell that
does not exist. -/
@[simp]
theorem get?_grow (cells : Cells) (source : TypeExpr) (site : ItemId) (cell : Nat) :
    (cells.grow source site).get? cell = cells.get? cell := by
  simp only [grow, get?, Array.getElem?_push]
  split
  · next last =>
      subst last
      simp
  · rfl

/-- Setting a cell changes that cell alone. -/
theorem get?_set (cells : Cells) (cell other : Nat) (type : Ty) :
    (cells.set cell type).get? other =
      if other = cell ∧ other < cells.size then some type else cells.get? other := by
  simp only [set, get?, size, Array.getElem?_modify]
  by_cases same : cell = other
  · subst same
    by_cases inside : cell < cells.all.size
    · simp [inside]
    · simp [inside]
  · simp [same, Ne.symm same]

end Cells

namespace Ty

/-! ## Looking through set cells -/

mutual

/-- Replace every deferred type whose cell is set by the type in its cell. -/
def settle (cells : Cells) : Ty → Ty
  | reference item name args => reference item name (settleAll cells args)
  | array component => array (component.settle cells)
  | upperBounded bound => upperBounded (bound.settle cells)
  | lowerBounded bound => lowerBounded (bound.settle cells)
  | deferred cell source site => (cells.get? cell).getD (deferred cell source site)
  | primitive type => primitive type
  | void => void
  | null => null
  | typeVar var => typeVar var
  | wildcard => wildcard

/-- `settle` on every type of a list. -/
def settleAll (cells : Cells) : List Ty → List Ty
  | [] => []
  | type :: rest => type.settle cells :: settleAll cells rest

end

mutual

/-- Whether no deferred type occurs at any depth. -/
def isEager : Ty → Bool
  | reference _ _ args => allEager args
  | array component => component.isEager
  | upperBounded bound => bound.isEager
  | lowerBounded bound => bound.isEager
  | deferred _ _ _ => false
  | primitive _ => true
  | void => true
  | null => true
  | typeVar _ => true
  | wildcard => true

/-- Whether all types of a list are eager. -/
def allEager : List Ty → Bool
  | [] => true
  | type :: rest => type.isEager && allEager rest

end

theorem settleAll_eq_map (cells : Cells) (types : List Ty) :
    settleAll cells types = types.map (settle cells) := by
  induction types with
  | nil => rfl
  | cons type rest ih => simp [settleAll, ih]

theorem allEager_eq_all (types : List Ty) : allEager types = types.all isEager := by
  induction types with
  | nil => rfl
  | cons type rest ih => simp [allEager, ih]

mutual

/-- Settling does not change eager types. -/
theorem settle_eq_self (cells : Cells) : (type : Ty) → type.isEager = true →
    type.settle cells = type
  | reference _ _ args, eager => by
      rw [settle, settleAll_eq_self cells args eager]
  | array component, eager => by rw [settle, settle_eq_self cells component eager]
  | upperBounded bound, eager => by rw [settle, settle_eq_self cells bound eager]
  | lowerBounded bound, eager => by rw [settle, settle_eq_self cells bound eager]
  | deferred _ _ _, eager => by simp [isEager] at eager
  | primitive _, _ => rfl
  | void, _ => rfl
  | null, _ => rfl
  | typeVar _, _ => rfl
  | wildcard, _ => rfl

theorem settleAll_eq_self (cells : Cells) : (types : List Ty) → allEager types = true →
    settleAll cells types = types
  | [], _ => rfl
  | type :: rest, eager => by
      rw [allEager, Bool.and_eq_true] at eager
      rw [settleAll, settle_eq_self cells type eager.1, settleAll_eq_self cells rest eager.2]

end

/-! ## Comparison -/

mutual

/-- Whether two types are the same.  Deferred types are compared by what they
defer, whatever their cells hold. -/
def same : Ty → Ty → Bool
  | primitive a, primitive b => a == b
  | void, void => true
  | null, null => true
  | reference item name args, reference item' name' args' =>
      item == item' && name == name' && allSame args args'
  | typeVar a, typeVar b => a == b
  | array a, array b => a.same b
  | wildcard, wildcard => true
  | upperBounded a, upperBounded b => a.same b
  | lowerBounded a, lowerBounded b => a.same b
  | deferred _ source site, deferred _ source' site' => site == site' && source == source'
  | _, _ => false

/-- Whether two lists hold the same types. -/
def allSame : List Ty → List Ty → Bool
  | [], [] => true
  | type :: rest, type' :: rest' => type.same type' && allSame rest rest'
  | _, _ => false

end

mutual

/-- Every type is the same as itself. -/
@[simp]
theorem same_self : (type : Ty) → type.same type = true
  | reference _ _ args => by simp [same, allSame_self args]
  | array component => by simp [same, same_self component]
  | upperBounded bound => by simp [same, same_self bound]
  | lowerBounded bound => by simp [same, same_self bound]
  | deferred _ _ _ => by simp [same]
  | primitive _ => by simp [same]
  | void => rfl
  | null => rfl
  | typeVar _ => by simp [same]
  | wildcard => rfl

@[simp]
theorem allSame_self : (types : List Ty) → allSame types types = true
  | [] => rfl
  | type :: rest => by simp [allSame, same_self type, allSame_self rest]

end

/-! ## Classification -/

/-- Whether the type is primitive. -/
def isPrimitive : Ty → Bool
  | primitive _ => true
  | _ => false

/-- Whether the type is that of the null literal. -/
def isNull : Ty → Bool
  | null => true
  | _ => false

/-- Whether values of the type are references, null included.  A deferred type
whose cell is unset does not count. -/
def isReferenceLike (cells : Cells) (type : Ty) : Bool :=
  match type.settle cells with
  | reference _ _ _ | typeVar _ | array _ | null => true
  | _ => false

/-- The reference that a type is as it stands. -/
def reference? : Ty → Option Reference
  | reference item name args => some ⟨item, name, args⟩
  | _ => none

/-- The reference that a type is, looking through a set cell at the top. -/
def asReference? (cells : Cells) : Ty → Option Reference
  | deferred cell _ _ => (cells.get? cell).bind reference?
  | type => type.reference?

/-! ## Source form -/

mutual

/-- The source form of a type.  A deferred type shows the type that it defers. -/
def text : Ty → String
  | primitive type => type.keyword
  | void => "void"
  | null => "null"
  | reference _ name [] => name
  | reference _ name (first :: rest) =>
      name ++ "<" ++ ", ".intercalate (first.text :: texts rest) ++ ">"
  | typeVar var => var.name
  | array component => component.text ++ "[]"
  | wildcard => "?"
  | upperBounded bound => "? extends " ++ bound.text
  | lowerBounded bound => "? super " ++ bound.text
  | deferred _ source _ => source.text

/-- The source forms of several types. -/
def texts : List Ty → List String
  | [] => []
  | type :: rest => type.text :: texts rest

end

/-- The source form of a type in which set cells show what they hold. -/
def textIn (cells : Cells) (type : Ty) : String :=
  (type.settle cells).text

end Ty

end JavaSymbols

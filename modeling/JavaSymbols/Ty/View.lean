import JavaSymbols.Ty

/-!
# Types seen through a reference

A member's type is written in terms of the type parameters of its declaration.
Seen through a reference to that declaration, the parameters stand for the
reference's type arguments.  The replacement is simultaneous: what is inserted
is not rewritten again.  A raw reference binds nothing and leaves types alone.
-/

namespace JavaSymbols

namespace Ty

mutual

/-- Replace type variables as `bind` says; the others stay. -/
def substitute (bind : TypeVar → Option Ty) : Ty → Ty
  | typeVar var => (bind var).getD (typeVar var)
  | reference item name args => reference item name (substituteAll bind args)
  | array component => array (component.substitute bind)
  | upperBounded bound => upperBounded (bound.substitute bind)
  | lowerBounded bound => lowerBounded (bound.substitute bind)
  | primitive type => primitive type
  | void => void
  | null => null
  | wildcard => wildcard
  | deferred cell source site => deferred cell source site

/-- `substitute` on every type of a list. -/
def substituteAll (bind : TypeVar → Option Ty) : List Ty → List Ty
  | [] => []
  | type :: rest => type.substitute bind :: substituteAll bind rest

end

theorem substituteAll_eq_map (bind : TypeVar → Option Ty) (types : List Ty) :
    substituteAll bind types = types.map (substitute bind) := by
  induction types with
  | nil => rfl
  | cons type rest ih => simp [substituteAll, ih]

end Ty

namespace Reference

/-- The argument that a reference binds to a variable.  Only variables of the
declaration itself are bound, and only those that have an argument. -/
def binding (reference : Reference) (var : TypeVar) : Option Ty :=
  if var.owner = .type reference.item then reference.args[var.index]? else none

/-- A type written in terms of the declaration's type parameters, as seen
through this use of the declaration.  Cells that are set are looked through;
what is still deferred is left as it is. -/
def apply (view : Reference) (cells : Cells) (type : Ty) : Ty :=
  if view.isRaw then type else (type.settle cells).substitute view.binding

/-- A reference written inside a declaration, as seen through a use of that
declaration. -/
def through (reference : Reference) (cells : Cells) (view : Reference) : Reference :=
  { reference with args := reference.args.map (view.apply cells) }

@[simp]
theorem item_through (reference view : Reference) (cells : Cells) :
    (reference.through cells view).item = reference.item :=
  rfl

@[simp]
theorem name_through (reference view : Reference) (cells : Cells) :
    (reference.through cells view).name = reference.name :=
  rfl

/-- A raw use shows every type as it is written. -/
theorem apply_of_isRaw {view : Reference} (raw : view.isRaw = true) (cells : Cells) (type : Ty) :
    view.apply cells type = type := by
  simp [apply, raw]

end Reference

/-- A type seen through an optional use; without one it is seen as written. -/
def Ty.seenThrough (view : Option Reference) (cells : Cells) (type : Ty) : Ty :=
  match view with
  | none => type
  | some view => view.apply cells type

/-- A reference seen through an optional use. -/
def Reference.seenThrough (view : Option Reference) (cells : Cells) (reference : Reference) :
    Reference :=
  match view with
  | none => reference
  | some view => reference.through cells view

end JavaSymbols

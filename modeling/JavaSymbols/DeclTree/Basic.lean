import JavaSymbols.Declaration

/-!
# The declaration tree

All compilation units and type declarations of a session live in one tree of
plain data.  Units and items are identified by their positions.  An item keeps
the whole chain of its enclosing items, innermost first, so walking outward is
recursion on a list and always ends at a unit.

Trees grow by three operations, `addUnit`, `addType` and `addMember`; the
predicate `Built` holds of the trees that these operations produce.
-/

namespace JavaSymbols

/-- The position of a type declaration in its tree. -/
abbrev ItemId :=
  Nat

/-- The position of a compilation unit in its tree. -/
abbrev UnitId :=
  Nat

/-- An import declaration. -/
inductive Import where
  /-- Import of one type. -/
  | single (name : QualifiedName)
  /-- Import on demand of a whole package. -/
  | onDemand (package : PackageName)
  deriving DecidableEq, Inhabited

/-- A compilation unit with its top-level types in source order. -/
structure SourceUnit where
  package : PackageName
  imports : List Import
  types : List ItemId
  deriving DecidableEq, Inhabited

/-- A type declaration with its place in the tree. -/
structure Item where
  decl : TypeDecl
  /-- The enclosing items, innermost first; none for a top-level type. -/
  enclosing : List ItemId
  unit : UnitId
  /-- The member types in source order. -/
  members : List ItemId
  deriving DecidableEq, Inhabited

/-- The lexical owner of an item. -/
inductive Parent where
  | unit (id : UnitId)
  | type (id : ItemId)
  deriving DecidableEq, Inhabited

/-- An item is owned by its innermost enclosing item, or else by its unit. -/
def Item.parent (item : Item) : Parent :=
  match item.enclosing with
  | [] => .unit item.unit
  | outer :: _ => .type outer

/-- All units and type declarations of a session. -/
structure DeclTree where
  units : Array SourceUnit
  items : Array Item
  deriving DecidableEq, Inhabited

namespace DeclTree

/-- The tree without any unit. -/
def empty : DeclTree :=
  ⟨#[], #[]⟩

/-- The number of items. -/
def size (tree : DeclTree) : Nat :=
  tree.items.size

/-- The ids of all items, in ascending order. -/
def ids (tree : DeclTree) : List ItemId :=
  List.range tree.size

/-- The item with an id, if the tree has it. -/
def item? (tree : DeclTree) (id : ItemId) : Option Item :=
  tree.items[id]?

/-- The item with an id; an id outside the tree gives an empty item. -/
def item (tree : DeclTree) (id : ItemId) : Item :=
  (tree.item? id).getD default

/-- The unit with an id, if the tree has it. -/
def unit? (tree : DeclTree) (id : UnitId) : Option SourceUnit :=
  tree.units[id]?

/-- The unit with an id; an id outside the tree gives an empty unit. -/
def unit (tree : DeclTree) (id : UnitId) : SourceUnit :=
  (tree.unit? id).getD default

/-- The declaration of an item. -/
def decl (tree : DeclTree) (id : ItemId) : TypeDecl :=
  (tree.item id).decl

/-- The chain of an item and everything that encloses it, innermost first. -/
def chain (tree : DeclTree) (id : ItemId) : List ItemId :=
  id :: (tree.item id).enclosing

/-! ## Growing a tree -/

/-- Add a unit without types. -/
def addUnit (tree : DeclTree) (package : PackageName) (imports : List Import) : DeclTree :=
  { tree with units := tree.units.push ⟨package, imports, []⟩ }

/-- Add a top-level type to a unit. -/
def addType (tree : DeclTree) (unit : UnitId) (decl : TypeDecl) : DeclTree where
  units := tree.units.modify unit fun data => { data with types := data.types ++ [tree.size] }
  items := tree.items.push ⟨decl, [], unit, []⟩

/-- Add a member type to an item. -/
def addMember (tree : DeclTree) (outer : ItemId) (decl : TypeDecl) : DeclTree where
  units := tree.units
  items :=
    (tree.items.modify outer fun data => { data with members := data.members ++ [tree.size] }).push
      ⟨decl, tree.chain outer, (tree.item outer).unit, []⟩

/-- The trees that the three operations produce, each applied only to units and
items that exist. -/
inductive Built : DeclTree → Prop where
  | empty : Built empty
  | addUnit {tree : DeclTree} (built : Built tree) (package : PackageName)
      (imports : List Import) : Built (tree.addUnit package imports)
  | addType {tree : DeclTree} (built : Built tree) (unit : UnitId) (decl : TypeDecl)
      (known : unit < tree.units.size) : Built (tree.addType unit decl)
  | addMember {tree : DeclTree} (built : Built tree) (outer : ItemId) (decl : TypeDecl)
      (known : outer < tree.size) : Built (tree.addMember outer decl)

/-- Adding a unit adds no item. -/
@[simp]
theorem size_addUnit (tree : DeclTree) (package : PackageName) (imports : List Import) :
    (tree.addUnit package imports).size = tree.size :=
  rfl

/-- A new top-level type takes the next id. -/
@[simp]
theorem size_addType (tree : DeclTree) (unit : UnitId) (decl : TypeDecl) :
    (tree.addType unit decl).size = tree.size + 1 := by
  simp [addType, size]

/-- A new member type takes the next id. -/
@[simp]
theorem size_addMember (tree : DeclTree) (outer : ItemId) (decl : TypeDecl) :
    (tree.addMember outer decl).size = tree.size + 1 := by
  simp [addMember, size]

end DeclTree

end JavaSymbols

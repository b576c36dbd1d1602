import JavaSymbols.DeclTree.Basic

/-!
# Names of declarations in a tree

An item is called by its own name, by its class name relative to its package,
and by its qualified name.  The class name joins the names along the chain of
enclosing items.  `NameIndex` finds items by qualified name; of several items
with one name it knows the last.
-/

namespace JavaSymbols

namespace DeclTree

/-- The simple name of an item. -/
def simpleName (tree : DeclTree) (id : ItemId) : String :=
  (tree.decl id).name

/-- The package of an item. -/
def package (tree : DeclTree) (id : ItemId) : PackageName :=
  (tree.unit (tree.item id).unit).package

/-- The name relative to the package, such as `Outer.Inner` for a member type. -/
def className (tree : DeclTree) (id : ItemId) : String :=
  Dotted.join ((tree.chain id).reverse.map tree.simpleName)

/-- The canonical name, such as `java.util.Map.Entry`. -/
def qualifiedName (tree : DeclTree) (id : ItemId) : String :=
  (tree.package id).qualify (tree.className id)

/-- The first item, in the order of ids, with a qualified name. -/
def firstNamed? (tree : DeclTree) (name : String) : Option ItemId :=
  tree.ids.find? fun id => tree.qualifiedName id == name

end DeclTree

/-- Items by qualified name, each name at most once. -/
structure NameIndex where
  entries : List (String × ItemId)

namespace NameIndex

/-- The index without names. -/
def empty : NameIndex :=
  ⟨[]⟩

/-- Enter a name; an earlier entry of that name is replaced. -/
def insert (index : NameIndex) (name : String) (id : ItemId) : NameIndex :=
  ⟨(name, id) :: index.entries.filter fun entry => entry.1 != name⟩

/-- The item entered under a name. -/
def find? (index : NameIndex) (name : String) : Option ItemId :=
  index.entries.lookup name

/-- The number of names. -/
def size (index : NameIndex) : Nat :=
  index.entries.length

/-- The index of all items of a tree, nested ones included. -/
def ofTree (tree : DeclTree) : NameIndex :=
  tree.ids.foldl (fun index id => index.insert (tree.qualifiedName id) id) empty

end NameIndex

/-- Ask several sources of names in turn; the first that knows a name answers. -/
def firstKnown (sources : List (String → Option ItemId)) (name : String) : Option ItemId :=
  sources.findSome? fun source => source name

end JavaSymbols

import JavaSymbols.DeclTree.Naming

/-!
# Nesting of declarations

Member types are reached downward by paths of simple names, and collected at
every depth.  Since a member is always added after its outer item, following
member links ends within as many steps as the tree has items.
-/

namespace JavaSymbols.DeclTree

/-- The first member type of an item with a simple name. -/
def member? (tree : DeclTree) (id : ItemId) (name : String) : Option ItemId :=
  (tree.item id).members.find? fun member => tree.simpleName member == name

/-- The item that a path of simple names leads to, member by member. -/
def memberAt? (tree : DeclTree) (id : ItemId) : List String → Option ItemId
  | [] => some id
  | name :: rest => (tree.member? id name).bind fun member => tree.memberAt? member rest

/-- The member types of an item and, down to a given depth, their own. -/
def nestedTo (tree : DeclTree) : (depth : Nat) → ItemId → List ItemId
  | 0, _ => []
  | depth + 1, id =>
      (tree.item id).members.flatMap fun member => member :: tree.nestedTo depth member

/-- The types nested in an item at any depth, outer types before their members. -/
def nested (tree : DeclTree) (id : ItemId) : List ItemId :=
  tree.nestedTo tree.size id

/-- Whether a type with a qualified name is nested in an item at any depth. -/
def hasNested (tree : DeclTree) (id : ItemId) (name : String) : Bool :=
  (tree.nested id).any fun inner => tree.qualifiedName inner == name

@[simp]
theorem memberAt?_nil (tree : DeclTree) (id : ItemId) : tree.memberAt? id [] = some id :=
  rfl

/-- A path of one name leads to the member with that name. -/
@[simp]
theorem memberAt?_singleton (tree : DeclTree) (id : ItemId) (name : String) :
    tree.memberAt? id [name] = tree.member? id name := by
  simp [memberAt?]

end JavaSymbols.DeclTree

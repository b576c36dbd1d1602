import JavaSymbols.Proofs.DeclTree.Index
import JavaSymbols.Proofs.Resolution.SelfContained

/-!
# Trees over the core library

A tree that has grown from the core library still has the library's types under
their ids.  When no two items share a name, its index finds the root types
there, so an environment over tree and index can be created; its source of names
keeps to the tree.
-/

namespace JavaSymbols

open DeclTree

/-! ## The library's types -/

namespace DeclTree

variable {tree : DeclTree}

theorem decl_of_library (grown : GrownFrom coreLibrary tree) {id : ItemId} (library : id < 10) :
    tree.decl id = coreLibrary.decl id :=
  grown.continues.decl id library

/-- Only the library's own type has the name of a type of the library. -/
theorem eq_of_library_name (grown : GrownFrom coreLibrary tree) (distinct : tree.DistinctItems)
    {id other : ItemId} (inside : id < tree.size) (library : other < 10)
    (named : tree.qualifiedName id = coreLibrary.qualifiedName other) : id = other := by
  apply distinct id other inside (lt_size_of_library grown library)
  rw [named, qualifiedName_of_library grown library]

end DeclTree

/-! ## The environment -/

namespace Environment

/-- The environment of a tree with its index as the source of names, under the
standard names of the root types. -/
def indexed (tree : DeclTree) : Environment :=
  ⟨tree, (NameIndex.ofTree tree).find?, .standard, 0, 1⟩

variable {tree : DeclTree}

/-- The index keeps to the tree. -/
theorem inTree_indexed (tree : DeclTree) : (indexed tree).InTree := by
  intro name id found
  exact (NameIndex.of_find?_ofTree found).1

/-- Over a tree that has grown from the core library, and under the standard
names of the root types, the environment can be created. -/
theorem constructed_indexed (grown : GrownFrom coreLibrary tree) (distinct : tree.DistinctItems) :
    (indexed tree).Constructed := by
  apply constructed_of_library grown
  intro id library
  rw [← qualifiedName_of_library grown library]
  exact distinct.find?_ofTree (lt_size_of_library grown library)

end Environment

end JavaSymbols

import JavaSymbols.Proofs.DeclTree.Growth
import JavaSymbols.Proofs.Resolution.Confined

/-!
# Trees as their own source of names

A tree lists its declarations, so whether their names tell them apart can be
decided.  A tree in which names are looked up by their first item keeps to
itself; the core library with some more types is such a tree.  A source of names
that strays answers one name more than the tree does.  Over a tree that has grown
from the core library, an environment can be created with either.
-/

namespace JavaSymbols

namespace DeclTree

variable {tree : DeclTree}

/-! ## Listing declarations -/

/-- The owners of type parameters in an item: the item and its methods. -/
def ownersIn (tree : DeclTree) (id : ItemId) : List ParamOwner :=
  .type id :: (List.range (tree.decl id).methods.length).map (.method id)

/-- All declarations of a tree. -/
def declarations (tree : DeclTree) : List Decl :=
  tree.ids.flatMap fun id =>
    .item id :: ((tree.ownersIn id).flatMap tree.parameters).map .parameter

theorem mem_parameters {owner : ParamOwner} {param : TypeParameter} :
    param ∈ tree.parameters owner ↔
      param.owner = owner ∧ param.index < (tree.paramsOf owner).length := by
  constructor
  · intro member
    obtain ⟨index, listed, rfl⟩ := List.mem_map.mp member
    exact ⟨rfl, List.mem_range.mp listed⟩
  · rintro ⟨rfl, bound⟩
    exact List.mem_map.mpr ⟨param.index, List.mem_range.mpr bound, rfl⟩

/-- An owner that introduces type parameters is an item or one of its
methods. -/
theorem mem_ownersIn {owner : ParamOwner} {index : Nat}
    (bound : index < (tree.paramsOf owner).length) : owner ∈ tree.ownersIn owner.item := by
  cases owner with
  | type id => exact List.mem_cons_self
  | method id position =>
      refine List.mem_cons_of_mem _ (List.mem_map.mpr ⟨position, List.mem_range.mpr ?_, rfl⟩)
      apply Nat.lt_of_not_le
      intro outside
      have missing : (tree.decl id).methods[position]? = none := List.getElem?_eq_none outside
      simp [paramsOf, missing] at bound

theorem mem_declarations {decl : Decl} : decl ∈ tree.declarations ↔ tree.Declares decl := by
  simp only [declarations, List.mem_flatMap, List.mem_cons, List.mem_map, ids, List.mem_range]
  constructor
  · rintro ⟨id, inside, rfl | ⟨param, ⟨owner, owned, member⟩, rfl⟩⟩
    · exact inside
    · obtain ⟨rfl, bound⟩ := mem_parameters.mp member
      have sameItem : param.owner.item = id := by
        rcases List.mem_cons.mp owned with same | method
        · rw [same]
          rfl
        · obtain ⟨position, _, same⟩ := List.mem_map.mp method
          rw [← same]
          rfl
      exact ⟨sameItem ▸ inside, bound⟩
  · intro declares
    cases decl with
    | item id => exact ⟨id, declares, .inl rfl⟩
    | parameter param =>
        refine ⟨param.owner.item, declares.1, .inr ⟨param, ⟨param.owner, ?_, ?_⟩, rfl⟩⟩
        · exact mem_ownersIn declares.2
        · exact mem_parameters.mpr ⟨rfl, declares.2⟩

/-- No two declarations of a tree have the same qualified name. -/
def DistinctNames (tree : DeclTree) : Prop :=
  ∀ first second, tree.Declares first → tree.Declares second →
    tree.qualifiedNameOf first = tree.qualifiedNameOf second → first = second

/-- It suffices to compare the declarations that are listed. -/
theorem distinctNames_iff : tree.DistinctNames ↔
    ∀ first ∈ tree.declarations, ∀ second ∈ tree.declarations,
      tree.qualifiedNameOf first = tree.qualifiedNameOf second → first = second := by
  constructor
  · intro distinct first isFirst second isSecond
    exact distinct first second (mem_declarations.mp isFirst) (mem_declarations.mp isSecond)
  · intro distinct first second declaresFirst declaresSecond
    exact distinct first (mem_declarations.mpr declaresFirst) second
      (mem_declarations.mpr declaresSecond)

instance : Decidable tree.DistinctNames :=
  decidable_of_iff _ distinctNames_iff.symm

/-! ## Library trees -/

/-- Adding a unit with top-level types builds on what was built before. -/
theorem Built.addUnitOf (built : tree.Built) (package : String) (types : List TypeDecl) :
    (tree.addUnitOf package types).Built :=
  (grownFrom_addUnitOf tree package types).built built

theorem built_coreLibrary : coreLibrary.Built :=
  ((Built.empty.addUnitOf _ _).addUnitOf _ _).addUnitOf _ _

/-- The core library and some types of a package. -/
def libraryWith (package : String) (types : List TypeDecl) : DeclTree :=
  coreLibrary.addUnitOf package types

theorem grownFrom_libraryWith (package : String) (types : List TypeDecl) :
    GrownFrom coreLibrary (libraryWith package types) :=
  grownFrom_addUnitOf coreLibrary package types

theorem built_libraryWith (package : String) (types : List TypeDecl) :
    (libraryWith package types).Built :=
  (grownFrom_libraryWith package types).built built_coreLibrary

/-- The core library has ten types. -/
theorem lt_size_of_library (grown : GrownFrom coreLibrary tree) {id : ItemId} (library : id < 10) :
    id < tree.size :=
  Nat.lt_of_lt_of_le library grown.continues.size_le

theorem qualifiedName_of_library (grown : GrownFrom coreLibrary tree) {id : ItemId}
    (library : id < 10) : tree.qualifiedName id = coreLibrary.qualifiedName id :=
  grown.continues.qualifiedName built_coreLibrary.wellFormed library

/-- Each type of the library is the first with its name. -/
theorem firstNamed?_of_library (grown : GrownFrom coreLibrary tree) {id : ItemId}
    (library : id < 10) : tree.firstNamed? (coreLibrary.qualifiedName id) = some id := by
  have apart : ∀ late < 10, ∀ early < late,
      coreLibrary.qualifiedName early ≠ coreLibrary.qualifiedName late := by decide +kernel
  refine List.find?_range_eq_some.mpr ⟨?_, List.mem_range.mpr ?_, ?_⟩
  · simp [qualifiedName_of_library grown library]
  · exact lt_size_of_library grown library
  · intro early before
    rw [qualifiedName_of_library grown (Nat.lt_trans before library)]
    simpa using apart id library early before

end DeclTree

namespace Environment

/-- The environment in which a tree is its own source of names, with the first
two items as root types. -/
def selfContained (tree : DeclTree) : Environment :=
  ⟨tree, tree.firstNamed?, .standard, 0, 1⟩

/-- The environment of a tree in which one more name is answered, with a given id. -/
def straying (tree : DeclTree) (stray : String) (id : ItemId) : Environment :=
  { selfContained tree with
    solve := fun name => (tree.firstNamed? name).or (if name = stray then some id else none) }

/-- The type of the text class of the core library. -/
def textType : Ty :=
  .reference 5 "java.lang.String" []

/-- A rank of the items of the core library and of classes that are declared
after the classes that they extend. -/
def libraryRank (id : Nat) : Nat :=
  if id = 0 then 0 else if id = 8 ∨ id = 9 then 1 else id + 1

/-- A tree that is its own source of names keeps to itself. -/
theorem inTree_selfContained (tree : DeclTree) : (selfContained tree).InTree := by
  intro name id found
  exact List.mem_range.mp (List.mem_of_find?_eq_some found)

/-! ## Creation -/

open DeclTree

variable {tree : DeclTree}

/-- Over a tree that has grown from the core library, an environment is created with
any source of names that knows the types of the library. -/
theorem constructed_of_library (grown : GrownFrom coreLibrary tree)
    {solve : String → Option ItemId}
    (knows : ∀ id < 10, solve (coreLibrary.qualifiedName id) = some id) :
    Constructed ⟨tree, solve, .standard, 0, 1⟩ := by
  have built := grown.built built_coreLibrary
  have objectName : coreLibrary.qualifiedName 0 = RootNames.standard.object := by decide +kernel
  have recordName : coreLibrary.qualifiedName 1 = RootNames.standard.recordBase := by decide +kernel
  have object := knows 0 (by decide)
  have record := knows 1 (by decide)
  rw [objectName] at object
  rw [recordName] at record
  refine ⟨built, create_of_solved built.wellFormed object ?_ record ?_⟩
  · exact lt_size_of_library grown (by decide)
  · exact lt_size_of_library grown (by decide)

theorem constructed_selfContained (grown : GrownFrom coreLibrary tree) :
    (selfContained tree).Constructed :=
  constructed_of_library grown fun _ library => firstNamed?_of_library grown library

theorem constructed_straying (grown : GrownFrom coreLibrary tree) (stray : String) (id : ItemId) :
    (straying tree stray id).Constructed := by
  apply constructed_of_library grown
  intro known library
  rw [firstNamed?_of_library grown library]
  rfl

theorem constructed_libraryWith (package : String) (types : List TypeDecl) :
    (selfContained (.libraryWith package types)).Constructed :=
  constructed_selfContained (grownFrom_libraryWith package types)

end Environment

end JavaSymbols

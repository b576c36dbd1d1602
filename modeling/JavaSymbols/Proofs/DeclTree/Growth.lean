import JavaSymbols.DeclTree.CoreLibrary
import JavaSymbols.DeclTree.Naming
import JavaSymbols.Proofs.DeclTree.WellFormed

/-!
# Growing a tree

A tree grows by the operations that add units, types and member types.  Nothing
that it says about an item changes on the way, apart from new members: items
keep their declarations, their enclosing items and their units, and units keep
their packages.  So items keep their names.
-/

namespace JavaSymbols.DeclTree

/-- The trees that a tree grows into, each operation applied only to units and
items that exist. -/
inductive GrownFrom (base : DeclTree) : DeclTree → Prop where
  | refl : GrownFrom base base
  | addUnit {tree : DeclTree} (grown : GrownFrom base tree) (package : PackageName)
      (imports : List Import) : GrownFrom base (tree.addUnit package imports)
  | addType {tree : DeclTree} (grown : GrownFrom base tree) (unit : UnitId) (decl : TypeDecl)
      (known : unit < tree.units.size) : GrownFrom base (tree.addType unit decl)
  | addMember {tree : DeclTree} (grown : GrownFrom base tree) (outer : ItemId) (decl : TypeDecl)
      (known : outer < tree.size) : GrownFrom base (tree.addMember outer decl)

variable {base tree old new : DeclTree}

/-- What grows from a tree that was built could have been built itself. -/
theorem GrownFrom.built (grown : GrownFrom base tree) (built : base.Built) : tree.Built := by
  induction grown with
  | refl => exact built
  | addUnit _ package imports ih => exact ih.addUnit package imports
  | addType _ unit decl known ih => exact ih.addType unit decl known
  | addMember _ outer decl known ih => exact ih.addMember outer decl known

/-! ## What growth keeps -/

/-- A tree with all items and units of another, in their places. -/
structure Continues (old new : DeclTree) : Prop where
  size_le : old.size ≤ new.size
  units_le : old.units.size ≤ new.units.size
  decl : ∀ id, id < old.size → new.decl id = old.decl id
  enclosing : ∀ id, id < old.size → (new.item id).enclosing = (old.item id).enclosing
  unit : ∀ id, id < old.size → (new.item id).unit = (old.item id).unit
  package : ∀ unit, unit < old.units.size → (new.unit unit).package = (old.unit unit).package

theorem Continues.refl (tree : DeclTree) : tree.Continues tree where
  size_le := Nat.le_refl _
  units_le := Nat.le_refl _
  decl _ _ := rfl
  enclosing _ _ := rfl
  unit _ _ := rfl
  package _ _ := rfl

theorem Continues.trans {first middle last : DeclTree} (early : first.Continues middle)
    (late : middle.Continues last) : first.Continues last where
  size_le := Nat.le_trans early.size_le late.size_le
  units_le := Nat.le_trans early.units_le late.units_le
  decl id inside := by
    rw [late.decl id (Nat.lt_of_lt_of_le inside early.size_le), early.decl id inside]
  enclosing id inside := by
    rw [late.enclosing id (Nat.lt_of_lt_of_le inside early.size_le), early.enclosing id inside]
  unit id inside := by
    rw [late.unit id (Nat.lt_of_lt_of_le inside early.size_le), early.unit id inside]
  package unit inside := by
    rw [late.package unit (Nat.lt_of_lt_of_le inside early.units_le), early.package unit inside]

theorem continues_addUnit (tree : DeclTree) (package : PackageName) (imports : List Import) :
    tree.Continues (tree.addUnit package imports) where
  size_le := Nat.le_refl _
  units_le := by simp [addUnit]
  decl _ _ := rfl
  enclosing _ _ := rfl
  unit _ _ := rfl
  package unit inside := by
    rw [unit_addUnit, if_neg (Nat.ne_of_lt inside)]

theorem continues_addType (tree : DeclTree) (unit : UnitId) (decl : TypeDecl)
    (known : unit < tree.units.size) : tree.Continues (tree.addType unit decl) where
  size_le := by simp
  units_le := by simp [addType]
  decl id inside := by
    rw [DeclTree.decl, item_addType, if_neg (Nat.ne_of_lt inside)]
    rfl
  enclosing id inside := by rw [item_addType, if_neg (Nat.ne_of_lt inside)]
  unit id inside := by rw [item_addType, if_neg (Nat.ne_of_lt inside)]
  package other _ := by
    rw [unit_addType unit other decl known]
    by_cases same : other = unit
    · simp [same]
    · simp [same]

theorem continues_addMember (tree : DeclTree) (outer : ItemId) (decl : TypeDecl)
    (known : outer < tree.size) : tree.Continues (tree.addMember outer decl) where
  size_le := by simp
  units_le := Nat.le_refl _
  decl id inside := by
    rw [DeclTree.decl, item_addMember outer decl id known, if_neg (Nat.ne_of_lt inside)]
    by_cases same : id = outer
    · simp [same, DeclTree.decl]
    · simp [same, DeclTree.decl]
  enclosing id inside := by
    rw [item_addMember outer decl id known, if_neg (Nat.ne_of_lt inside)]
    by_cases same : id = outer
    · simp [same]
    · simp [same]
  unit id inside := by
    rw [item_addMember outer decl id known, if_neg (Nat.ne_of_lt inside)]
    by_cases same : id = outer
    · simp [same]
    · simp [same]
  package _ _ := rfl

/-- Growth keeps what there was. -/
theorem GrownFrom.continues (grown : GrownFrom base tree) : base.Continues tree := by
  induction grown with
  | refl => exact .refl base
  | addUnit _ package imports ih => exact ih.trans (continues_addUnit _ package imports)
  | addType _ unit decl known ih => exact ih.trans (continues_addType _ unit decl known)
  | addMember _ outer decl known ih => exact ih.trans (continues_addMember _ outer decl known)

/-- Adding a unit with top-level types is growth. -/
theorem grownFrom_addUnitOf (tree : DeclTree) (package : String) (types : List TypeDecl) :
    GrownFrom tree (tree.addUnitOf package types) := by
  have grow : ∀ grown : DeclTree, GrownFrom tree grown → tree.units.size < grown.units.size →
      GrownFrom tree
        (types.foldl (fun grown decl => grown.addType tree.units.size decl) grown) := by
    induction types with
    | nil =>
        intro grown isGrown _
        exact isGrown
    | cons decl rest ih =>
        intro grown isGrown known
        apply ih _ (isGrown.addType tree.units.size decl known)
        simpa [addType] using known
  apply grow _ (GrownFrom.refl.addUnit _ _)
  simp [addUnit]

/-! ## Names -/

/-- An item keeps its qualified name. -/
theorem Continues.qualifiedName (continues : old.Continues new) (wellFormed : old.WellFormed)
    {id : ItemId} (inside : id < old.size) : new.qualifiedName id = old.qualifiedName id := by
  have sameChain : new.chain id = old.chain id := by
    rw [chain, chain, continues.enclosing id inside]
  have sameNames : (old.chain id).reverse.map new.simpleName =
      (old.chain id).reverse.map old.simpleName := by
    apply List.map_congr_left
    intro link member
    have linkInside := wellFormed.chain_lt inside (List.mem_reverse.mp member)
    rw [simpleName, simpleName, continues.decl link linkInside]
  have samePackage : new.package id = old.package id := by
    rw [DeclTree.package, DeclTree.package, continues.unit id inside,
      continues.package _ (wellFormed.unit_lt id inside)]
  rw [DeclTree.qualifiedName, DeclTree.qualifiedName, className, className, sameChain, sameNames,
    samePackage]

end JavaSymbols.DeclTree

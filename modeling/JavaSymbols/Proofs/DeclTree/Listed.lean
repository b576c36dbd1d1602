import JavaSymbols.Proofs.DeclTree.WellFormed

/-!
# Lists of items

A unit lists its top-level types and an item lists its members.  The operations that
grow a tree put a new item at the end of one list, that of its parent, and leave all
other lists alone.  So every item is listed once.
-/

namespace JavaSymbols.DeclTree

variable {old new tree : DeclTree}

/-! ## Parents and members after growth -/

theorem parent_addType (unit : UnitId) (decl : TypeDecl) (id : Nat) :
    ((tree.addType unit decl).item id).parent =
      if id = tree.size then .unit unit else (tree.item id).parent := by
  rw [item_addType, apply_ite Item.parent]
  rfl

theorem members_addType (unit : UnitId) (decl : TypeDecl) (id : Nat) :
    ((tree.addType unit decl).item id).members =
      if id = tree.size then [] else (tree.item id).members := by
  rw [item_addType, apply_ite Item.members]

theorem parent_addMember {outer : Nat} (known : outer < tree.size) (decl : TypeDecl) (id : Nat) :
    ((tree.addMember outer decl).item id).parent =
      if id = tree.size then .type outer else (tree.item id).parent := by
  rw [item_addMember outer decl id known]
  by_cases last : id = tree.size
  · simp [last, Item.parent, chain]
  · by_cases same : id = outer
    · subst same
      simp only [if_neg last, Item.parent, ite_true]
    · simp [last, same]

theorem members_addMember {outer : Nat} (known : outer < tree.size) (decl : TypeDecl) (id : Nat) :
    ((tree.addMember outer decl).item id).members =
      if id = tree.size then []
      else if id = outer then (tree.item outer).members ++ [tree.size]
      else (tree.item id).members := by
  rw [item_addMember outer decl id known, apply_ite Item.members, apply_ite Item.members]

/-! ## Lists after growth -/

/-- The items that an owner lists: the types of a unit, or the members of an item. -/
def listed (tree : DeclTree) : Parent → List ItemId
  | .unit id => (tree.unit id).types
  | .type id => (tree.item id).members

/-- The next id lists nothing yet. -/
theorem listed_size : tree.listed (.type tree.size) = [] := by
  rw [listed, item_of_size_le (Nat.le_refl _)]
  rfl

/-- A new unit has no types, and the lists stay as they were. -/
@[simp]
theorem listed_addUnit (package : PackageName) (imports : List Import) (owner : Parent) :
    (tree.addUnit package imports).listed owner = tree.listed owner := by
  cases owner with
  | type id => rfl
  | unit id =>
      rw [listed, listed, unit_addUnit]
      by_cases last : id = tree.units.size
      · rw [if_pos last, last, unit_of_size_le (Nat.le_refl _)]
        rfl
      · rw [if_neg last]

/-- A new top-level type is put at the end of the list of its unit. -/
theorem listed_addType {unit : UnitId} (known : unit < tree.units.size) (decl : TypeDecl)
    (owner : Parent) :
    (tree.addType unit decl).listed owner =
      tree.listed owner ++ if owner = .unit unit then [tree.size] else [] := by
  cases owner with
  | type id =>
      rw [if_neg Parent.noConfusion, List.append_nil, listed, members_addType]
      by_cases last : id = tree.size
      · rw [if_pos last, last, listed_size]
      · rw [if_neg last, listed]
  | unit id =>
      rw [listed, unit_addType unit id decl known, listed]
      by_cases same : id = unit
      · simp [same]
      · simp [same]

/-- A new member type is put at the end of the list of its outer item. -/
theorem listed_addMember {outer : ItemId} (known : outer < tree.size) (decl : TypeDecl)
    (owner : Parent) :
    (tree.addMember outer decl).listed owner =
      tree.listed owner ++ if owner = .type outer then [tree.size] else [] := by
  cases owner with
  | unit id => simp [listed]
  | type id =>
      rw [listed, members_addMember known]
      by_cases last : id = tree.size
      · have notOuter : Parent.type id ≠ .type outer := by
          rintro ⟨⟩
          exact Nat.ne_of_lt known last
        rw [if_pos last, if_neg notOuter, last, listed_size, List.append_nil]
      · rw [if_neg last, listed]
        by_cases same : id = outer
        · simp [same]
        · simp [same]

/-! ## Every item is listed once -/

/-- Every item of the tree is listed exactly once, by its parent, and nothing else is
listed. -/
def ListsOnce (tree : DeclTree) : Prop :=
  ∀ id owner, (tree.listed owner).count id =
    if id < tree.size ∧ (tree.item id).parent = owner then 1 else 0

/-- When the next id is put into the list of its parent, every item is still listed once. -/
theorem ListsOnce.enter (once : old.ListsOnce) {parent : Parent} (grown : new.size = old.size + 1)
    (entered : ∀ owner, new.listed owner =
      old.listed owner ++ if owner = parent then [old.size] else [])
    (parents : ∀ id, (new.item id).parent =
      if id = old.size then parent else (old.item id).parent) : new.ListsOnce := by
  intro id owner
  rw [entered, List.count_append, once, parents, grown]
  by_cases last : id = old.size
  · -- the new item was not listed before
    have notBefore : ¬ (id < old.size ∧ (old.item id).parent = owner) := fun before =>
      Nat.ne_of_lt before.1 last
    rw [if_neg notBefore, if_pos last, last]
    by_cases here : owner = parent
    · simp [here]
    · simp [here, Ne.symm here]
  · -- an older item is not what is entered
    have notEntered : (if owner = parent then [old.size] else []).count id = 0 := by
      by_cases here : owner = parent
      · simp [here, Ne.symm last]
      · simp [here]
    have sameBound : id < old.size + 1 ↔ id < old.size :=
      ⟨fun below => Nat.lt_of_le_of_ne (Nat.le_of_lt_succ below) last, Nat.lt_succ_of_lt⟩
    simp only [notEntered, if_neg last, sameBound, Nat.add_zero]

/-- In a tree that is built, every item is listed once. -/
theorem Built.listsOnce (built : tree.Built) : tree.ListsOnce := by
  induction built with
  | empty =>
      intro id owner
      cases owner <;> rfl
  | addUnit _ package imports once =>
      intro id owner
      rw [listed_addUnit, once]
      rfl
  | addType _ unit decl known once =>
      exact once.enter (size_addType _ unit decl) (listed_addType known decl)
        (parent_addType unit decl)
  | addMember _ outer decl known once =>
      exact once.enter (size_addMember _ outer decl) (listed_addMember known decl)
        (parent_addMember known decl)

/-- Lists hold the items of the tree, each in the list of its parent. -/
theorem ListsOnce.mem_listed_iff (once : tree.ListsOnce) {id : ItemId} {owner : Parent} :
    id ∈ tree.listed owner ↔ id < tree.size ∧ (tree.item id).parent = owner := by
  rw [← List.count_pos_iff, once]
  by_cases here : id < tree.size ∧ (tree.item id).parent = owner
  · simp [here]
  · simp [here]

end JavaSymbols.DeclTree

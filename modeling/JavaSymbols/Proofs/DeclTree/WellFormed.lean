import JavaSymbols.DeclTree.Nesting

/-!
# Links within a declaration tree

Items refer to their enclosing items, their unit and their members by position.
The operations that grow a tree keep all of these references inside it, and an
enclosing item always precedes the items that it encloses.
-/

namespace JavaSymbols.DeclTree

variable {tree : DeclTree}

/-! ## Items and units after growth -/

/-- An id outside the tree reads as an item without enclosing items and
members. -/
theorem item_of_size_le {id : ItemId} (outside : tree.size ≤ id) :
    tree.item id = default := by
  have missing : tree.items[id]? = none := Array.getElem?_eq_none outside
  simp [item, item?, missing]

/-- An id outside the tree reads as a unit without types. -/
theorem unit_of_size_le {id : UnitId} (outside : tree.units.size ≤ id) :
    tree.unit id = default := by
  have missing : tree.units[id]? = none := Array.getElem?_eq_none outside
  simp [unit, unit?, missing]

@[simp]
theorem item_addUnit (package : PackageName) (imports : List Import) (id : ItemId) :
    (tree.addUnit package imports).item id = tree.item id :=
  rfl

/-- A new top-level type leaves all other items as they were. -/
theorem item_addType (unit : UnitId) (decl : TypeDecl) (id : Nat) :
    (tree.addType unit decl).item id =
      if id = tree.size then ⟨decl, [], unit, []⟩ else tree.item id := by
  simp only [item, item?, addType, Array.getElem?_push]
  by_cases last : id = tree.items.size
  · simp [last, size]
  · simp [last, size]

/-- A new member type is entered into the members of its outer item and leaves
all other items as they were. -/
theorem item_addMember (outer : Nat) (decl : TypeDecl) (id : Nat)
    (known : (outer : Nat) < tree.size) :
    (tree.addMember outer decl).item id =
      if id = tree.size then ⟨decl, tree.chain outer, (tree.item outer).unit, []⟩
      else if id = outer then
        { tree.item outer with members := (tree.item outer).members ++ [tree.size] }
      else tree.item id := by
  simp only [item, item?, addMember, size, Array.getElem?_push, Array.size_modify,
    Array.getElem?_modify]
  have stored : tree.items[outer]? = some tree.items[outer] := Array.getElem?_eq_getElem known
  by_cases last : id = tree.items.size
  · simp [last, chain, item, item?]
  · by_cases same : id = outer
    · subst same
      simp [last, stored]
    · simp [last, same, Ne.symm same]

theorem unit_addUnit (package : PackageName) (imports : List Import) (id : UnitId) :
    (tree.addUnit package imports).unit id =
      if id = tree.units.size then ⟨package, imports, []⟩ else tree.unit id := by
  simp only [unit, unit?, addUnit, Array.getElem?_push]
  split <;> simp

theorem unit_addType (unit id : Nat) (decl : TypeDecl) (known : unit < tree.units.size) :
    (tree.addType unit decl).unit id =
      if id = unit then
        { tree.unit unit with types := (tree.unit unit).types ++ [tree.size] }
      else tree.unit id := by
  have stored : tree.units[unit]? = some tree.units[unit] := Array.getElem?_eq_getElem known
  simp only [DeclTree.unit, unit?, addType, Array.getElem?_modify]
  by_cases same : id = unit
  · subst same
    simp [stored]
  · simp [same, Ne.symm same]

@[simp]
theorem unit_addMember (outer : ItemId) (decl : TypeDecl) (id : UnitId) :
    (tree.addMember outer decl).unit id = tree.unit id :=
  rfl

/-! ## References stay inside the tree -/

/-- All references between items and units lead into the tree. -/
structure WellFormed (tree : DeclTree) : Prop where
  enclosing_lt : ∀ id outer : Nat, outer ∈ (tree.item id).enclosing →
    outer < id ∧ outer < tree.size
  member_lt : ∀ id member : Nat, member ∈ (tree.item id).members →
    id < member ∧ member < tree.size
  type_lt : ∀ unit id : Nat, id ∈ (tree.unit unit).types → id < tree.size
  unit_lt : ∀ id : Nat, id < tree.size → (tree.item id).unit < tree.units.size

theorem wellFormed_empty : empty.WellFormed where
  enclosing_lt id outer member := by
    rw [item_of_size_le (Nat.zero_le id)] at member
    cases member
  member_lt id inner member := by
    rw [item_of_size_le (Nat.zero_le id)] at member
    cases member
  type_lt unit id member := by
    rw [unit_of_size_le (Nat.zero_le unit)] at member
    cases member
  unit_lt id inside := by simp [size, empty] at inside

theorem WellFormed.addUnit (wellFormed : tree.WellFormed) (package : PackageName)
    (imports : List Import) : (tree.addUnit package imports).WellFormed where
  enclosing_lt := wellFormed.enclosing_lt
  member_lt := wellFormed.member_lt
  type_lt unit id member := by
    rw [unit_addUnit] at member
    split at member
    · simp at member
    · exact wellFormed.type_lt unit id member
  unit_lt id inside := by
    have before := wellFormed.unit_lt id inside
    rw [item_addUnit, DeclTree.addUnit, Array.size_push]
    exact Nat.lt_succ_of_lt before

theorem WellFormed.addType (wellFormed : tree.WellFormed) (unit : UnitId) (decl : TypeDecl)
    (known : unit < tree.units.size) : (tree.addType unit decl).WellFormed where
  enclosing_lt id outer member := by
    rw [item_addType] at member
    rw [size_addType]
    split at member
    · simp at member
    · have before := wellFormed.enclosing_lt id outer member
      omega
  member_lt id inner member := by
    rw [item_addType] at member
    rw [size_addType]
    split at member
    · simp at member
    · have before := wellFormed.member_lt id inner member
      omega
  type_lt other id member := by
    rw [unit_addType unit other decl known] at member
    rw [size_addType]
    split at member
    · rcases List.mem_append.mp member with old | new
      · have before := wellFormed.type_lt unit id old
        omega
      · have same : id = tree.size := List.mem_singleton.mp new
        omega
    · have before := wellFormed.type_lt other id member
      omega
  unit_lt id inside := by
    rw [size_addType] at inside
    rw [item_addType]
    simp only [DeclTree.addType, Array.size_modify]
    split
    · exact known
    · exact wellFormed.unit_lt id (by omega)

theorem WellFormed.addMember (wellFormed : tree.WellFormed) (outer : Nat) (decl : TypeDecl)
    (known : outer < tree.size) : (tree.addMember outer decl).WellFormed where
  enclosing_lt id link member := by
    rw [item_addMember outer decl id known] at member
    rw [size_addMember]
    split at member
    · rcases List.mem_cons.mp member with same | above
      · have same : link = outer := same
        omega
      · have before := wellFormed.enclosing_lt outer link above
        omega
    · split at member
      · have before := wellFormed.enclosing_lt outer link member
        omega
      · have before := wellFormed.enclosing_lt id link member
        omega
  member_lt id inner member := by
    rw [item_addMember outer decl id known] at member
    rw [size_addMember]
    split at member
    · simp at member
    · split at member
      · rcases List.mem_append.mp member with old | new
        · have before := wellFormed.member_lt outer inner old
          omega
        · have same : inner = tree.size := List.mem_singleton.mp new
          omega
      · have before := wellFormed.member_lt id inner member
        omega
  type_lt unit id member := by
    have before := wellFormed.type_lt unit id member
    rw [size_addMember]
    omega
  unit_lt id inside := by
    rw [size_addMember] at inside
    rw [item_addMember outer decl id known]
    have outerUnit := wellFormed.unit_lt outer known
    split
    · exact outerUnit
    · split
      · exact outerUnit
      · exact wellFormed.unit_lt id (by omega)

/-- The references of a grown tree lead into it. -/
theorem Built.wellFormed (built : tree.Built) : tree.WellFormed := by
  induction built with
  | empty => exact wellFormed_empty
  | addUnit _ package imports wellFormed => exact wellFormed.addUnit package imports
  | addType _ unit decl known wellFormed => exact wellFormed.addType unit decl known
  | addMember _ outer decl known wellFormed => exact wellFormed.addMember outer decl known

/-! ## Consequences -/

/-- Every link of the chain of an item is in the tree. -/
theorem WellFormed.chain_lt (wellFormed : tree.WellFormed) {id link : ItemId}
    (inside : id < tree.size) (member : link ∈ tree.chain id) : link < tree.size := by
  rcases List.mem_cons.mp member with same | above
  · exact same ▸ inside
  · exact (wellFormed.enclosing_lt id link above).2

/-- A path of member types stays in the tree. -/
theorem WellFormed.memberAt?_lt (wellFormed : tree.WellFormed) {path : List String} :
    ∀ {id found : ItemId}, id < tree.size → tree.memberAt? id path = some found →
      found < tree.size := by
  induction path with
  | nil =>
      intro id found inside reached
      cases reached
      exact inside
  | cons name rest ih =>
      intro id found inside reached
      obtain ⟨member, isMember, onward⟩ := Option.bind_eq_some_iff.mp reached
      have listed := List.mem_of_find?_eq_some isMember
      exact ih (wellFormed.member_lt id member listed).2 onward

/-- Top-level types and what is reached through them are in the tree. -/
theorem WellFormed.memberAt?_type_lt (wellFormed : tree.WellFormed) {unit : UnitId}
    {id found : ItemId} {path : List String} (listed : id ∈ (tree.unit unit).types)
    (reached : tree.memberAt? id path = some found) : found < tree.size :=
  wellFormed.memberAt?_lt (wellFormed.type_lt unit id listed) reached

end JavaSymbols.DeclTree

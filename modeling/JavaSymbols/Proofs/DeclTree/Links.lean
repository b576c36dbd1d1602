import Mathlib.Logic.Relation
import JavaSymbols.Proofs.DeclTree.Growth
import JavaSymbols.Proofs.DeclTree.Nesting
import JavaSymbols.Proofs.Resolution.Confined

/-!
# Links of a tree that grows

Items refer to their parents, and units and items keep lists of what they own.
The operations that grow a tree write these links separately, and keep them
consistent: an item is listed once, by its parent.  What the links of an item say
stays the same for as long as the tree grows.

Since the parent of an item precedes it, following parents outward ends at a unit.
So a walk may be bounded by the number of items without being cut off, and an id
is accepted by such a walk just when the tree has it.
-/

namespace JavaSymbols.DeclTree

variable {old new tree : DeclTree}

/-! ## Links -/

/-- What the links of all items have to do with each other. -/
structure Linked (tree : DeclTree) : Prop where
  /-- An item occurs once in the list of its parent. -/
  once : ∀ id < tree.size, (tree.listed (tree.item id).parent).count id = 1
  /-- A list holds only items of which its owner is the parent. -/
  owned : ∀ owner, ∀ id ∈ tree.listed owner, id < tree.size ∧ (tree.item id).parent = owner
  /-- A top-level type belongs to the unit that is its parent. -/
  top : ∀ id < tree.size, ∀ unit, (tree.item id).parent = .unit unit →
    unit < tree.units.size ∧ (tree.item id).unit = unit
  /-- A member comes after the item that is its parent, and belongs to the same unit. -/
  member : ∀ id < tree.size, ∀ outer, (tree.item id).parent = .type outer →
    outer < id ∧ (tree.item id).unit = (tree.item outer).unit

/-- The links of a tree that is built are consistent. -/
theorem Built.linked (built : tree.Built) : tree.Linked where
  once id inside := by rw [built.listsOnce, if_pos ⟨inside, rfl⟩]
  owned _ _ isListed := built.listsOnce.mem_listed_iff.mp isListed
  top id inside unit parent := by
    have same := (topLevel_of_parent parent).2
    exact ⟨same ▸ built.wellFormed.unit_lt id inside, same⟩
  member id _ outer parent :=
    ⟨(built.wellFormed.parent_lt parent).1, (built.nested id outer parent).2⟩

/-! ## Growth keeps links -/

/-- A tree says about the items of another what that says, and lists their members
first. -/
structure KeepsItems (old new : DeclTree) : Prop where
  decl : ∀ id < old.size, new.decl id = old.decl id
  parent : ∀ id < old.size, (new.item id).parent = (old.item id).parent
  unit : ∀ id < old.size, (new.item id).unit = (old.item id).unit
  qualifiedName : ∀ id < old.size, new.qualifiedName id = old.qualifiedName id
  members : ∀ id < old.size, (old.item id).members <+: (new.item id).members

/-- The lists of a tree that grows are only continued. -/
theorem GrownFrom.listed_prefix (grown : GrownFrom old new) (owner : Parent) :
    old.listed owner <+: new.listed owner := by
  induction grown with
  | refl => exact List.prefix_rfl
  | addUnit _ package imports ih => rwa [listed_addUnit]
  | addType _ unit decl known ih =>
      rw [listed_addType known]
      exact ih.trans (List.prefix_append _ _)
  | addMember _ outer decl known ih =>
      rw [listed_addMember known]
      exact ih.trans (List.prefix_append _ _)

/-- A tree that grows keeps what it says about its items. -/
theorem GrownFrom.keepsItems (grown : GrownFrom old new) (wellFormed : old.WellFormed) :
    old.KeepsItems new where
  decl := grown.continues.decl
  parent id inside := by
    rw [Item.parent, Item.parent, grown.continues.enclosing id inside,
      grown.continues.unit id inside]
  unit := grown.continues.unit
  qualifiedName _ inside := grown.continues.qualifiedName wellFormed inside
  members id _ := grown.listed_prefix (.type id)

/-! ## Walks outward -/

/-- Following parents from an item, the items on the way, all of them stored, and the
unit at the end. -/
inductive LeadsOut (tree : DeclTree) : ItemId → List ItemId → UnitId → Prop where
  | top {id : ItemId} {item : Item} {unit : UnitId} (stored : tree.item? id = some item)
      (parent : item.parent = .unit unit) : LeadsOut tree id [id] unit
  | member {id outer : ItemId} {item : Item} {path : List ItemId} {unit : UnitId}
      (stored : tree.item? id = some item) (parent : item.parent = .type outer)
      (further : LeadsOut tree outer path unit) : LeadsOut tree id (id :: path) unit

/-- Follow parents from an item to a unit in a bounded number of steps, and check that
all of them exist.  There is no answer when the steps do not suffice. -/
def climb? (tree : DeclTree) : (steps : Nat) → ItemId → Option (Except Inconsistency UnitId)
  | 0, _ => none
  | steps + 1, id =>
      match tree.item? id with
      | none => some (.error (.unknownItem id))
      | some item =>
          match item.parent with
          | .unit unit =>
              if (tree.unit? unit).isNone then some (.error (.missingUnit id unit))
              else some (.ok unit)
          | .type outer => tree.climb? steps outer

theorem item?_of_lt {id : ItemId} (inside : id < tree.size) :
    tree.item? id = some (tree.item id) := by
  have stored : tree.items[id]? = some tree.items[id] := Array.getElem?_eq_getElem inside
  simp [item, item?, stored]

theorem item_of_item? {id : ItemId} {item : Item} (stored : tree.item? id = some item) :
    tree.item id = item := by
  simp [DeclTree.item, stored]

namespace LeadsOut

variable {id : ItemId} {path : List ItemId} {unit : UnitId}

/-- From an item of the tree, the walk goes along the chain of enclosing items and ends
at the unit of the item. -/
theorem chain (built : tree.Built) : ∀ {id : Nat}, id < tree.size →
    tree.LeadsOut id (tree.chain id) (tree.item id).unit := by
  intro id
  induction id using Nat.strongRecOn with
  | ind id ih =>
      intro inside
      cases parent : (tree.item id).parent with
      | unit unit =>
          rcases topLevel_of_parent parent with ⟨alone, same⟩
          rw [DeclTree.chain, alone, same]
          exact .top (item?_of_lt inside) parent
      | type outer =>
          rcases built.nested id outer parent with ⟨chained, shared⟩
          rcases built.wellFormed.parent_lt parent with ⟨before, outerInside⟩
          rw [DeclTree.chain, chained, shared]
          exact .member (item?_of_lt inside) parent (ih outer before outerInside)

/-- There is at most one walk from an item. -/
theorem unique {other : List ItemId} {otherUnit : UnitId} (leads : tree.LeadsOut id path unit)
    (leadsToo : tree.LeadsOut id other otherUnit) : path = other ∧ unit = otherUnit := by
  induction leads generalizing other otherUnit with
  | top stored parent =>
      cases leadsToo with
      | top storedToo parentToo =>
          cases stored.symm.trans storedToo
          exact ⟨rfl, Parent.unit.inj (parent.symm.trans parentToo)⟩
      | member storedToo parentToo _ =>
          cases stored.symm.trans storedToo
          cases parent.symm.trans parentToo
  | member stored parent _ ih =>
      cases leadsToo with
      | top storedToo parentToo =>
          cases stored.symm.trans storedToo
          cases parent.symm.trans parentToo
      | member storedToo parentToo furtherToo =>
          cases stored.symm.trans storedToo
          cases parent.symm.trans parentToo
          rcases ih furtherToo with ⟨rfl, rfl⟩
          exact ⟨rfl, rfl⟩

/-- The walk from an item of the tree is the one along its chain. -/
theorem iff_chain (built : tree.Built) (inside : id < tree.size) :
    tree.LeadsOut id path unit ↔ path = tree.chain id ∧ unit = (tree.item id).unit := by
  constructor
  · intro leads
    exact leads.unique (chain built inside)
  · rintro ⟨rfl, rfl⟩
    exact chain built inside

/-- Parents come first, so a walk has no more items than there are up to where it
starts. -/
theorem length_le (leads : tree.LeadsOut id path unit) (wellFormed : tree.WellFormed) :
    path.length ≤ id + 1 := by
  induction leads with
  | top => simp
  | @member id outer item path unit stored parent further ih =>
      have before : outer < id :=
        (wellFormed.parent_lt ((item_of_item? stored).symm ▸ parent)).1
      rw [List.length_cons]
      exact Nat.add_le_add_right (Nat.le_trans ih before) 1

/-- A bounded walk that may take as many steps reaches the same unit. -/
theorem climb? (leads : tree.LeadsOut id path unit) (known : unit < tree.units.size) :
    ∀ {steps : Nat}, path.length ≤ steps → tree.climb? steps id = some (.ok unit) := by
  induction leads with
  | @top id item unit stored parent =>
      intro steps enough
      obtain ⟨more, rfl⟩ := Nat.exists_eq_add_of_le' enough
      have unitStored : tree.unit? unit = some tree.units[unit] := Array.getElem?_eq_getElem known
      simp [DeclTree.climb?, stored, parent, unitStored]
  | @member id outer item path unit stored parent further ih =>
      intro steps enough
      rw [List.length_cons] at enough
      obtain ⟨more, rfl⟩ := Nat.exists_eq_add_of_le' (Nat.le_trans (Nat.le_add_left 1 _) enough)
      have onward := ih known (Nat.le_of_succ_le_succ enough)
      simp [DeclTree.climb?, stored, parent, onward]

/-- The enclosing scopes of a body end with the unit that a walk leads to. -/
theorem reaches_unit (leads : tree.LeadsOut id path unit) :
    Relation.ReflTransGen (fun inner outer => Scope.parent? tree inner = some outer)
      (.body id) (.unit unit) := by
  induction leads with
  | @top id item unit stored parent =>
      have step : Scope.parent? tree (.body id) = some (.unit unit) := by
        simp only [Scope.parent?, item_of_item? stored, parent]
      exact .single step
  | @member id outer item path unit stored parent further ih =>
      have step : Scope.parent? tree (.body id) = some (.body outer) := by
        simp only [Scope.parent?, item_of_item? stored, parent]
      exact .head step ih

end LeadsOut

/-! ## Accepted ids -/

/-- An id is accepted just when the tree has it. -/
theorem WellFormed.validate_iff (wellFormed : tree.WellFormed) {id : ItemId} :
    tree.validate id = .ok () ↔ id < tree.size :=
  ⟨Environment.lt_of_validate, Environment.validate_of_lt wellFormed⟩

/-- A walk bounded by the number of items is never cut off, and accepts the ids that are
accepted by their chains. -/
theorem Built.climb?_eq (built : tree.Built) (id : ItemId) :
    tree.climb? (tree.size + 1) id =
      some ((tree.validate id).map fun _ => (tree.item id).unit) := by
  by_cases inside : id < tree.size
  · have leads := LeadsOut.chain built inside
    have enough : (tree.chain id).length ≤ tree.size + 1 :=
      Nat.le_trans (leads.length_le built.wellFormed) (Nat.le_succ_of_le inside)
    rw [Environment.validate_of_lt built.wellFormed inside,
      leads.climb? (built.wellFormed.unit_lt id inside) enough]
    rfl
  · have outside : tree.size ≤ id := Nat.le_of_not_lt inside
    have missing : tree.item? id = none := Array.getElem?_eq_none outside
    rw [Environment.validate_of_size_le outside, climb?, missing]
    rfl

/-- In a tree that is built, every item is listed once, by its parent; members come after
their outer items and share their units.  However the tree grows, older items keep their
declarations, parents, units and qualified names, and their lists of members are only
continued.  An id is accepted just when the tree has it; the walk bounded by the number
of items decides this and is never cut off.  From every item the parents lead along its
chain to its unit, which gives the class name, and so do the enclosing scopes. -/
theorem links_consistent (built : tree.Built) :
    tree.Linked ∧ (∀ later, tree.GrownFrom later → tree.KeepsItems later) ∧
    ∀ id,
      (tree.validate id = .ok () ↔ id < tree.size) ∧
      tree.climb? (tree.size + 1) id =
        some ((tree.validate id).map fun _ => (tree.item id).unit) ∧
      (id < tree.size →
        (tree.item id).unit < tree.units.size ∧
        (∀ path unit, tree.LeadsOut id path unit ↔
          path = tree.chain id ∧ unit = (tree.item id).unit) ∧
        (∀ path unit, tree.LeadsOut id path unit →
          tree.className id = Dotted.join (path.reverse.map tree.simpleName)) ∧
        Relation.ReflTransGen (fun inner outer => Scope.parent? tree inner = some outer)
          (.body id) (.unit (tree.item id).unit)) := by
  refine ⟨built.linked, fun later grown => grown.keepsItems built.wellFormed, fun id => ?_⟩
  refine ⟨built.wellFormed.validate_iff, built.climb?_eq id, fun inside => ?_⟩
  refine ⟨built.wellFormed.unit_lt id inside, fun path unit => LeadsOut.iff_chain built inside,
    fun path unit leads => ?_, (LeadsOut.chain built inside).reaches_unit⟩
  rw [((LeadsOut.iff_chain built inside).mp leads).1]
  rfl

/-- A type nested in two others keeps its place while one of them gets another member. -/
theorem links_consistent_twoLeaves : twoLeaves.Built ∧
    (twoLeaves.listed (twoLeaves.item 2).parent).count 2 = 1 ∧
    (twoLeaves.item 1).members <+:
      ((twoLeaves.addMember 1 (.empty .enumType "Late")).item 1).members ∧
    twoLeaves.validate 2 = .ok () ∧ twoLeaves.climb? (twoLeaves.size + 1) 2 = some (.ok 0) ∧
    twoLeaves.LeadsOut 2 [2, 1, 0] 0 := by
  have built : twoLeaves.Built :=
    (((grownFrom_addUnitOf empty "demo" _).built .empty).addMember 0 _ (by decide)
      |>.addMember 1 _ (by decide)).addMember 0 _ (by decide)
  have inside : 2 < twoLeaves.size := by decide
  rcases links_consistent built with ⟨linked, kept, walks⟩
  have grown : twoLeaves.GrownFrom (twoLeaves.addMember 1 (.empty .enumType "Late")) :=
    .addMember .refl 1 _ (by decide)
  rcases walks 2 with ⟨accepted, bounded, outward⟩
  have valid := accepted.mpr inside
  rw [valid] at bounded
  exact ⟨built, linked.once 2 inside, (kept _ grown).members 1 (by decide), valid, bounded,
    ((outward inside).2.1 _ _).mpr ⟨by decide, by decide⟩⟩

end JavaSymbols.DeclTree

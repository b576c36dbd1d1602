import Mathlib.Data.Finset.Card
import Mathlib.Order.Bounds.Basic
import JavaSymbols.Proofs.DeclTree.Clashes
import JavaSymbols.Proofs.DeclTree.Listed

/-!
# Views of nesting

Which types are nested in a type can be seen in three ways.  Upward, every item
has a parent, and its names follow the parents.  Downward, every item has members,
and a dotted path descends through them.  The index of a tree forgets about both
and lists all names side by side.

Parents and members are converse to each other in trees that are built.  So a path
leads to an item just when the class names of the two differ by that path, and the
index finds the item under the longer name.
-/

namespace JavaSymbols

namespace Dotted

/-- Segments that are not empty as a list and contain no dots are found again. -/
theorem split_join {segments : List String} (nonempty : segments ≠ [])
    (dotFree : ∀ segment ∈ segments, '.' ∉ segment.toList) : split (join segments) = segments := by
  have apart : ∀ chars ∈ segments.map String.toList, '.' ∉ chars := by
    intro chars listed
    rcases List.mem_map.mp listed with ⟨segment, isSegment, rfl⟩
    exact dotFree segment isSegment
  have pieces := List.splitOn_intercalate '.' apart (by simpa using nonempty)
  rw [split, join, String.toList_ofList, pieces, List.map_map]
  exact (List.map_congr_left fun segment _ => String.ofList_toList).trans (List.map_id _)

/-- A dot separates the pieces before it from those after it. -/
theorem split_append_dot (first second : String) :
    split (first ++ "." ++ second) = split first ++ split second := by
  have chars : (first ++ "." ++ second).toList = first.toList ++ '.' :: second.toList := by simp
  rw [split, chars, List.splitOn_append_cons_self, List.map_append]
  rfl

/-- Two runs of segments are joined by a dot. -/
theorem join_append {first second : List String} (nonempty : first ≠ [])
    (nonemptyToo : second ≠ []) : join (first ++ second) = join first ++ "." ++ join second := by
  induction first with
  | nil => exact absurd rfl nonempty
  | cons head rest ih =>
      cases rest with
      | nil =>
          cases second with
          | nil => exact absurd rfl nonemptyToo
          | cons next more => simp [join_cons_cons]
      | cons next more =>
          rw [List.cons_append, List.cons_append, join_cons_cons, join_cons_cons,
            ← List.cons_append, ih (List.cons_ne_nil _ _)]
          simp only [String.append_assoc]

end Dotted

/-! ## The index -/

namespace NameIndex

/-- The names that have entries. -/
def names (index : NameIndex) : List String :=
  index.entries.map Prod.fst

@[simp]
theorem mem_names_insert {index : NameIndex} {name other : String} {id : ItemId} :
    other ∈ (index.insert name id).names ↔ other = name ∨ other ∈ index.names := by
  by_cases same : other = name
  · simp [names, insert, same]
  · simp [names, insert, same]

/-- Entering a name keeps the entries of different names apart. -/
theorem nodup_names_insert {index : NameIndex} (apart : index.names.Nodup) (name : String)
    (id : ItemId) : (index.insert name id).names.Nodup := by
  have others : List.Sublist ((index.entries.filter fun entry => entry.1 != name).map Prod.fst)
      index.names := List.filter_sublist.map Prod.fst
  have elsewhere : name ∉ (index.entries.filter fun entry => entry.1 != name).map Prod.fst := by
    simp
  exact List.nodup_cons.mpr ⟨elsewhere, apart.sublist others⟩

/-- Entering items one after another, the names are those of the items, each once. -/
theorem names_foldl_insert (nameOf : ItemId → String) (ids : List ItemId) {index : NameIndex}
    (apart : index.names.Nodup) :
    (ids.foldl (fun index id => index.insert (nameOf id) id) index).names.Nodup ∧
      ∀ name, name ∈ (ids.foldl (fun index id => index.insert (nameOf id) id) index).names ↔
        name ∈ ids.map nameOf ∨ name ∈ index.names := by
  induction ids generalizing index with
  | nil => exact ⟨apart, fun name => by simp⟩
  | cons id rest ih =>
      rcases ih (nodup_names_insert apart (nameOf id) id) with ⟨stillApart, exactly⟩
      refine ⟨stillApart, fun name => ?_⟩
      rw [List.foldl_cons, exactly, mem_names_insert, List.map_cons, List.mem_cons]
      tauto

/-- The index of a tree has as many entries as the tree has names. -/
theorem size_ofTree (tree : DeclTree) :
    (ofTree tree).size = ((Finset.range tree.size).image tree.qualifiedName).card := by
  have fromEmpty : empty.names.Nodup := List.nodup_nil
  rcases names_foldl_insert tree.qualifiedName tree.ids fromEmpty with ⟨apart, exactly⟩
  have sameNames : (ofTree tree).names.toFinset =
      (Finset.range tree.size).image tree.qualifiedName := by
    ext name
    rw [List.mem_toFinset, ofTree, exactly]
    simp [names, empty, DeclTree.ids]
  have counted : (ofTree tree).names.toFinset.card = (ofTree tree).names.length :=
    List.toFinset_card_of_nodup apart
  rw [← sameNames, counted, names, List.length_map, size]

end NameIndex

/-- Searching the numbers below a bound downward finds the greatest. -/
theorem find?_reverse_range_eq_some_iff (holds : Nat → Bool) (bound id : Nat) :
    (List.range bound).reverse.find? holds = some id ↔
      IsGreatest {id | id < bound ∧ holds id = true} id := by
  induction bound with
  | zero => simp [IsGreatest]
  | succ bound ih =>
      rw [List.range_succ, List.reverse_append, List.reverse_singleton, List.singleton_append]
      cases here : holds bound with
      | true =>
          have greatest : IsGreatest {id | id < bound + 1 ∧ holds id = true} bound :=
            ⟨⟨Nat.lt_succ_self bound, here⟩, fun _ below => Nat.le_of_lt_succ below.1⟩
          rw [List.find?_cons_of_pos here, Option.some.injEq]
          constructor
          · rintro rfl
            exact greatest
          · exact greatest.unique
      | false =>
          have same : {id | id < bound + 1 ∧ holds id = true} =
              {id | id < bound ∧ holds id = true} := by
            ext other
            have notBound : holds other = true → other ≠ bound := by
              rintro holdsOther rfl
              rw [here] at holdsOther
              cases holdsOther
            simp only [Set.mem_ofPred_eq]
            constructor
            · rintro ⟨below, holdsOther⟩
              exact ⟨Nat.lt_of_le_of_ne (Nat.le_of_lt_succ below) (notBound holdsOther), holdsOther⟩
            · rintro ⟨below, holdsOther⟩
              exact ⟨Nat.lt_succ_of_lt below, holdsOther⟩
          rw [List.find?_cons_of_neg (by simp [here]), ih, same]

/-- The index of a tree answers the last item with a name. -/
theorem NameIndex.find?_ofTree_eq_some_iff {tree : DeclTree} {name : String} {id : ItemId} :
    (NameIndex.ofTree tree).find? name = some id ↔
      IsGreatest {id | id < tree.size ∧ tree.qualifiedName id = name} id := by
  rw [find?_ofTree, DeclTree.ids, find?_reverse_range_eq_some_iff]
  simp only [beq_iff_eq]

/-- The index of a tree has no answer for what no item is called. -/
theorem NameIndex.find?_ofTree_eq_none_iff {tree : DeclTree} {name : String} :
    (NameIndex.ofTree tree).find? name = none ↔ ∀ id < tree.size, tree.qualifiedName id ≠ name := by
  rw [find?_ofTree, List.find?_eq_none]
  simp [DeclTree.ids]

namespace DeclTree

variable {tree : DeclTree}

/-! ## Parents and members -/

/-- The members of an item are the items that it is the parent of. -/
def ConverseLinks (tree : DeclTree) : Prop :=
  ∀ id outer : Nat, id ∈ (tree.item outer).members ↔ (tree.item id).parent = .type outer

/-- The parent of an item is in the tree, and comes before it. -/
theorem WellFormed.parent_lt (wellFormed : tree.WellFormed) {id outer : Nat}
    (parent : (tree.item id).parent = .type outer) : outer < id ∧ outer < tree.size :=
  wellFormed.enclosing_lt id outer (mem_enclosing_of_parent parent)

/-- An item with a parent item is in the tree. -/
theorem lt_size_of_parent {id outer : Nat} (parent : (tree.item id).parent = .type outer) :
    id < tree.size := by
  by_contra outside
  rw [item_of_size_le (Nat.le_of_not_lt outside)] at parent
  cases parent

/-- In a tree that is built, parents and members are converse. -/
theorem Built.converseLinks (built : tree.Built) : tree.ConverseLinks := by
  intro id outer
  rw [← listed, built.listsOnce.mem_listed_iff]
  exact ⟨And.right, fun parent => ⟨lt_size_of_parent parent, parent⟩⟩

/-! ## Strict nesting -/

/-- An item is nested in another, at any depth: its parents lead there. -/
inductive NestedIn (tree : DeclTree) : ItemId → ItemId → Prop where
  | member {id outer : ItemId} (parent : (tree.item id).parent = .type outer) :
      NestedIn tree id outer
  | deeper {id middle outer : ItemId} (parent : (tree.item id).parent = .type middle)
      (within : NestedIn tree middle outer) : NestedIn tree id outer

namespace NestedIn

variable {inner middle outer : ItemId}

/-- Both ends of nesting are in the tree, the outer one first. -/
theorem lt (within : tree.NestedIn inner outer) (wellFormed : tree.WellFormed) :
    outer < inner ∧ inner < tree.size := by
  induction within with
  | member parent => exact ⟨(wellFormed.parent_lt parent).1, lt_size_of_parent parent⟩
  | deeper parent _ ih =>
      exact ⟨Nat.lt_trans ih.1 (wellFormed.parent_lt parent).1, lt_size_of_parent parent⟩

theorem trans (within : tree.NestedIn inner middle) (further : tree.NestedIn middle outer) :
    tree.NestedIn inner outer := by
  induction within with
  | member parent => exact .deeper parent further
  | deeper parent _ ih => exact .deeper parent (ih further)

/-- What is nested in an item is one of its members or nested in one. -/
theorem exists_member (within : tree.NestedIn inner outer) :
    ∃ member, (tree.item member).parent = .type outer ∧
      (inner = member ∨ tree.NestedIn inner member) := by
  induction within with
  | @member id _ parent => exact ⟨id, parent, .inl rfl⟩
  | deeper parent _ ih =>
      rcases ih with ⟨member, above, rfl | below⟩
      · exact ⟨_, above, .inr (.member parent)⟩
      · exact ⟨member, above, .inr (.deeper parent below)⟩

/-- Nested types are in the package of the type around them. -/
theorem package_eq (within : tree.NestedIn inner outer) (nested : tree.Nested) :
    tree.package inner = tree.package outer := by
  have step : ∀ {id around : ItemId}, (tree.item id).parent = .type around →
      tree.package id = tree.package around := by
    intro id around parent
    rw [DeclTree.package, DeclTree.package, (nested id around parent).2]
  induction within with
  | member parent => exact step parent
  | deeper parent _ ih => exact (step parent).trans ih

end NestedIn

/-- The collection of nested types has nothing else. -/
theorem ConverseLinks.nestedIn_of_mem_nestedTo (converse : tree.ConverseLinks) {inner : ItemId} :
    ∀ {depth : Nat} {outer : ItemId}, inner ∈ tree.nestedTo depth outer →
      tree.NestedIn inner outer := by
  intro depth
  induction depth with
  | zero =>
      intro outer listed
      cases listed
  | succ depth ih =>
      intro outer listed
      obtain ⟨member, isMember, reached⟩ := List.mem_flatMap.mp listed
      have direct : tree.NestedIn member outer := .member ((converse member outer).mp isMember)
      rcases List.mem_cons.mp reached with rfl | below
      · exact direct
      · exact (ih below).trans direct

/-- The collection of nested types is complete when it goes deep enough.  Members
come after the item around them, so the tree leaves less room at every level. -/
theorem ConverseLinks.mem_nestedTo_of_nestedIn (converse : tree.ConverseLinks)
    (wellFormed : tree.WellFormed) {inner : ItemId} :
    ∀ {depth : Nat} {outer : Nat}, tree.size ≤ depth + outer → tree.NestedIn inner outer →
      inner ∈ tree.nestedTo depth outer := by
  intro depth
  induction depth with
  | zero =>
      intro outer enough within
      rcases within.lt wellFormed with ⟨later, inside⟩
      exact absurd (Nat.lt_trans later inside) (by omega)
  | succ depth ih =>
      intro outer enough within
      rcases within.exists_member with ⟨member, parent, below⟩
      have isMember : member ∈ (tree.item outer).members := (converse member outer).mpr parent
      have later := (wellFormed.member_lt outer member isMember).1
      apply List.mem_flatMap.mpr ⟨member, isMember, ?_⟩
      rcases below with rfl | deeper
      · exact List.mem_cons_self
      · exact List.mem_cons_of_mem member (ih (by omega) deeper)

/-- The types collected below an item are those nested in it. -/
theorem ConverseLinks.mem_nested_iff (converse : tree.ConverseLinks) (wellFormed : tree.WellFormed)
    {inner outer : ItemId} : inner ∈ tree.nested outer ↔ tree.NestedIn inner outer :=
  ⟨converse.nestedIn_of_mem_nestedTo,
    converse.mem_nestedTo_of_nestedIn wellFormed (Nat.le_add_right _ _)⟩

/-! ## Paths -/

/-- The names of an item and everything around it, outermost first. -/
def classPath (tree : DeclTree) (id : ItemId) : List String :=
  (tree.chain id).reverse.map tree.simpleName

theorem classPath_ne_nil (id : ItemId) : tree.classPath id ≠ [] := by
  simp [classPath, chain]

/-- A member type adds its name to the path. -/
theorem Nested.classPath_member (nested : tree.Nested) {id outer : ItemId}
    (parent : (tree.item id).parent = .type outer) :
    tree.classPath id = tree.classPath outer ++ [tree.simpleName id] := by
  rw [classPath, classPath, chain, (nested id outer parent).1, List.reverse_cons, List.map_append]
  rfl

/-- Names without dots can be read off the class name. -/
theorem split_className (dotFree : ∀ id < tree.size, '.' ∉ (tree.simpleName id).toList)
    (wellFormed : tree.WellFormed) {id : ItemId} (inside : id < tree.size) :
    Dotted.split (tree.className id) = tree.classPath id := by
  apply Dotted.split_join (classPath_ne_nil id)
  intro segment listed
  obtain ⟨link, isLink, rfl⟩ := List.mem_map.mp listed
  exact dotFree link (wellFormed.chain_lt inside (List.mem_reverse.mp isLink))

/-- A path may be followed up to its last name first. -/
theorem memberAt?_concat (path : List String) (name : String) (id : ItemId) :
    tree.memberAt? id (path ++ [name]) =
      (tree.memberAt? id path).bind fun member => tree.member? member name := by
  induction path generalizing id with
  | nil => simp
  | cons first rest ih =>
      rw [List.cons_append, memberAt?, memberAt?, Option.bind_assoc]
      exact Option.bind_congr fun member _ => ih member

/-- What a name leads to is a member with that name. -/
theorem ConverseLinks.of_member?_eq_some (converse : tree.ConverseLinks) {id member : ItemId}
    {name : String} (found : tree.member? id name = some member) :
    (tree.item member).parent = .type id ∧ tree.simpleName member = name :=
  ⟨(converse member id).mp (List.mem_of_find?_eq_some found), by simpa using List.find?_some found⟩

/-- What a path leads to is nested in where it starts. -/
theorem ConverseLinks.nestedIn_of_memberAt? (converse : tree.ConverseLinks) {path : List String}
    {name : String} {outer inner : ItemId}
    (reached : tree.memberAt? outer (name :: path) = some inner) : tree.NestedIn inner outer := by
  induction path generalizing name outer with
  | nil =>
      rw [memberAt?_singleton] at reached
      exact .member (converse.of_member?_eq_some reached).1
  | cons next rest ih =>
      obtain ⟨member, found, onward⟩ := Option.bind_eq_some_iff.mp reached
      exact (ih onward).trans (.member (converse.of_member?_eq_some found).1)

/-- A path adds its names to those of where it starts. -/
theorem ConverseLinks.classPath_memberAt? (converse : tree.ConverseLinks) (nested : tree.Nested)
    {path : List String} {outer inner : ItemId} (reached : tree.memberAt? outer path = some inner) :
    tree.classPath inner = tree.classPath outer ++ path := by
  induction path generalizing outer with
  | nil =>
      cases reached
      exact (List.append_nil _).symm
  | cons name rest ih =>
      obtain ⟨member, found, onward⟩ := Option.bind_eq_some_iff.mp reached
      rcases converse.of_member?_eq_some found with ⟨parent, rfl⟩
      rw [ih onward, nested.classPath_member parent, List.append_assoc, List.singleton_append]

/-- When no two items share a name, a member is found by its own. -/
theorem DistinctItems.member?_eq_some (distinct : tree.DistinctItems)
    (converse : tree.ConverseLinks) (nested : tree.Nested) {id outer : ItemId}
    (parent : (tree.item id).parent = .type outer) :
    tree.member? outer (tree.simpleName id) = some id := by
  have isMember := (converse id outer).mpr parent
  cases found : tree.member? outer (tree.simpleName id) with
  | none => simpa using List.find?_eq_none.mp found id isMember
  | some other =>
      rcases converse.of_member?_eq_some found with ⟨parentToo, named⟩
      have sameName : tree.qualifiedName other = tree.qualifiedName id := by
        rw [nested.qualifiedName_member parentToo, nested.qualifiedName_member parent, named]
      rw [distinct other id (lt_size_of_parent parentToo) (lt_size_of_parent parent) sameName]

/-- When no two items share a name, a path leads to every nested item. -/
theorem DistinctItems.exists_memberAt? (distinct : tree.DistinctItems)
    (converse : tree.ConverseLinks) (nested : tree.Nested) {inner outer : ItemId}
    (within : tree.NestedIn inner outer) :
    ∃ path, tree.memberAt? outer path = some inner := by
  induction within with
  | @member id _ parent =>
      refine ⟨[tree.simpleName id], ?_⟩
      rw [memberAt?_singleton, distinct.member?_eq_some converse nested parent]
  | @deeper id middle _ parent _ ih =>
      obtain ⟨path, reached⟩ := ih
      refine ⟨path ++ [tree.simpleName id], ?_⟩
      rw [memberAt?_concat, reached, Option.bind_some,
        distinct.member?_eq_some converse nested parent]

/-! ## The views agree -/

/-- Whatever a dotted path leads to is nested, and its class name continues that of
where the path starts. -/
theorem ConverseLinks.className_memberAt? (converse : tree.ConverseLinks) (nested : tree.Nested)
    {path : String} {outer inner : ItemId}
    (reached : tree.memberAt? outer (Dotted.split path) = some inner) :
    tree.NestedIn inner outer ∧ tree.className inner = tree.className outer ++ "." ++ path := by
  have names := converse.classPath_memberAt? nested reached
  constructor
  · cases pieces : Dotted.split path with
    | nil => exact absurd pieces (Dotted.split_ne_nil path)
    | cons name rest => exact converse.nestedIn_of_memberAt? (pieces ▸ reached)
  · calc tree.className inner
      _ = Dotted.join (tree.classPath outer ++ Dotted.split path) := congrArg Dotted.join names
      _ = Dotted.join (tree.classPath outer) ++ "." ++ Dotted.join (Dotted.split path) :=
          Dotted.join_append (classPath_ne_nil outer) (Dotted.split_ne_nil path)
      _ = tree.className outer ++ "." ++ path := by rw [Dotted.join_split]; rfl

/-- A nested item is where a dotted path leads when its class name continues with
the path, provided that names tell items apart and have no dots. -/
theorem DistinctItems.memberAt?_of_className (distinct : tree.DistinctItems)
    (dotFree : ∀ id < tree.size, '.' ∉ (tree.simpleName id).toList) (built : tree.Built)
    {path : String} {outer inner : ItemId} (within : tree.NestedIn inner outer)
    (named : tree.className inner = tree.className outer ++ "." ++ path) :
    tree.memberAt? outer (Dotted.split path) = some inner := by
  -- some path leads to the item, and both it and the given one are the rest of its names
  obtain ⟨way, reached⟩ := distinct.exists_memberAt? built.converseLinks built.nested within
  have byWay := built.converseLinks.classPath_memberAt? built.nested reached
  rcases within.lt built.wellFormed with ⟨later, inside⟩
  have byName : tree.classPath inner = tree.classPath outer ++ Dotted.split path := by
    rw [← split_className dotFree built.wellFormed inside, named, Dotted.split_append_dot,
      split_className dotFree built.wellFormed (Nat.lt_trans later inside)]
  have sameWay : way = Dotted.split path := List.append_cancel_left (byWay.symm.trans byName)
  exact sameWay ▸ reached

/-- The qualified name of a nested item continues like its class name. -/
theorem NestedIn.qualifiedName_eq {path : String} {outer inner : ItemId}
    (within : tree.NestedIn inner outer) (nested : tree.Nested)
    (named : tree.className inner = tree.className outer ++ "." ++ path) :
    tree.qualifiedName inner = tree.qualifiedName outer ++ "." ++ path := by
  rw [qualifiedName, qualifiedName, within.package_eq nested, named, PackageName.qualify,
    PackageName.qualify]
  by_cases unnamed : (tree.package outer).isRoot = true
  · rw [if_pos unnamed, if_pos unnamed]
  · rw [if_neg unnamed, if_neg unnamed]
    simp only [String.append_assoc]

/-- The qualified names found below an item are those of the items nested in it. -/
theorem Built.hasNested_iff (built : tree.Built) {outer : ItemId} {name : String} :
    tree.hasNested outer name = true ↔
      ∃ inner, tree.NestedIn inner outer ∧ tree.qualifiedName inner = name := by
  rw [hasNested, List.any_eq_true]
  simp only [built.converseLinks.mem_nested_iff built.wellFormed, beq_iff_eq]

/-- The index of a built tree answers the last item of every qualified name, and has
one entry for each.  When names tell items apart and are segments, a dotted path
leads from an item to the nested item whose class name it continues to, which the
index has under the qualified name that it continues to; and the qualified names
found below an item are those of the items nested in it. -/
theorem index_and_nesting_agree (built : tree.Built) :
    (∀ name id, (NameIndex.ofTree tree).find? name = some id ↔
      IsGreatest {id | id < tree.size ∧ tree.qualifiedName id = name} id) ∧
    (∀ name, (NameIndex.ofTree tree).find? name = none ↔
      ∀ id < tree.size, tree.qualifiedName id ≠ name) ∧
    (NameIndex.ofTree tree).size = ((Finset.range tree.size).image tree.qualifiedName).card ∧
    (tree.DistinctItems → (∀ id < tree.size, Dotted.IsSegment (tree.simpleName id)) →
      ∀ outer,
        (∀ path inner, tree.memberAt? outer (Dotted.split path) = some inner ↔
          tree.NestedIn inner outer ∧
            tree.className inner = tree.className outer ++ "." ++ path) ∧
        (∀ path inner, tree.memberAt? outer (Dotted.split path) = some inner →
          (NameIndex.ofTree tree).find? (tree.qualifiedName outer ++ "." ++ path) = some inner) ∧
        ∀ name, tree.hasNested outer name = true ↔
          ∃ inner, tree.NestedIn inner outer ∧ tree.qualifiedName inner = name) := by
  refine ⟨fun _ _ => NameIndex.find?_ofTree_eq_some_iff,
    fun _ => NameIndex.find?_ofTree_eq_none_iff, NameIndex.size_ofTree tree, ?_⟩
  intro distinct segments outer
  have dotFree : ∀ id < tree.size, '.' ∉ (tree.simpleName id).toList := fun id inside =>
    (segments id inside).2
  refine ⟨fun path inner => ⟨built.converseLinks.className_memberAt? built.nested, ?_⟩, ?_,
    fun name => built.hasNested_iff⟩
  · rintro ⟨within, named⟩
    exact distinct.memberAt?_of_className dotFree built within named
  · intro path inner reached
    rcases built.converseLinks.className_memberAt? built.nested reached with ⟨within, named⟩
    rw [← within.qualifiedName_eq built.nested named]
    exact distinct.find?_ofTree (within.lt built.wellFormed).2

/-- Two types of one name, a member and a member of a member. -/
def twoLeaves : DeclTree :=
  (((empty.addUnitOf "demo" [.empty .classType "Outer"]).addMember 0
    (.empty .interfaceType "Mid")).addMember 1 (.empty .recordType "Leaf")).addMember 0
    (.empty .classType "Leaf")

theorem index_and_nesting_agree_twoLeaves : twoLeaves.Built ∧ twoLeaves.DistinctItems ∧
    (∀ id < twoLeaves.size, Dotted.IsSegment (twoLeaves.simpleName id)) ∧
    twoLeaves.memberAt? 0 (Dotted.split "Mid.Leaf") = some 2 ∧ twoLeaves.NestedIn 2 0 ∧
    (NameIndex.ofTree twoLeaves).find? "demo.Outer.Mid.Leaf" = some 2 ∧
    IsGreatest {id | id < twoLeaves.size ∧ twoLeaves.qualifiedName id = "demo.Outer.Mid.Leaf"} 2 ∧
    twoLeaves.hasNested 0 "demo.Outer.Mid.Leaf" = true := by
  have built : twoLeaves.Built :=
    (((grownFrom_addUnitOf empty "demo" _).built .empty).addMember 0 _ (by decide)
      |>.addMember 1 _ (by decide)).addMember 0 _ (by decide)
  have distinct : twoLeaves.DistinctItems := by decide +kernel
  have segments : ∀ id < twoLeaves.size, Dotted.IsSegment (twoLeaves.simpleName id) := by
    decide +kernel
  have reached : twoLeaves.memberAt? 0 (Dotted.split "Mid.Leaf") = some 2 := by decide +kernel
  have called : twoLeaves.qualifiedName 2 = "demo.Outer.Mid.Leaf" := by decide +kernel
  rcases index_and_nesting_agree built with ⟨answers, _, _, views⟩
  rcases views distinct segments 0 with ⟨paths, indexed, below⟩
  have within : twoLeaves.NestedIn 2 0 := ((paths _ _).mp reached).1
  have entered : (NameIndex.ofTree twoLeaves).find? "demo.Outer.Mid.Leaf" = some 2 :=
    indexed _ _ reached
  exact ⟨built, distinct, segments, reached, within, entered, (answers _ _).mp entered,
    (below _).mpr ⟨2, within, called⟩⟩

end DeclTree

end JavaSymbols

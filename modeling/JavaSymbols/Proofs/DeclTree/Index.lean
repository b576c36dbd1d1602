import JavaSymbols.DeclTree.Naming

/-!
# The index of a tree

The index of a tree answers, for a qualified name, the last item with that name.
When no two items share a name, it answers the only one.
-/

namespace JavaSymbols

namespace NameIndex

theorem lookup_filter_ne (entries : List (String × ItemId)) {name other : String}
    (different : other ≠ name) :
    (entries.filter fun entry => entry.1 != name).lookup other = entries.lookup other := by
  induction entries with
  | nil => rfl
  | cons entry rest ih =>
      rcases entry with ⟨key, id⟩
      by_cases dropped : key = name
      · subst dropped
        have elsewhere : (other == key) = false := by simp [different]
        simp [List.lookup_cons, elsewhere, ih]
      · by_cases here : other = key
        · simp [dropped, here]
        · have elsewhere : (other == key) = false := by simp [here]
          simp [dropped, List.lookup_cons, elsewhere, ih]

/-- Entering a name changes the answer for that name alone. -/
theorem find?_insert (index : NameIndex) (name other : String) (id : ItemId) :
    (index.insert name id).find? other = if other = name then some id else index.find? other := by
  by_cases same : other = name
  · simp [insert, find?, same]
  · have elsewhere : (other == name) = false := by simp [same]
    simp [insert, find?, List.lookup_cons, elsewhere, same, lookup_filter_ne index.entries same]

/-- Entering items one after another, the last of a name counts, and an earlier
entry only when there is none. -/
theorem find?_foldl_insert (nameOf : ItemId → String) (ids : List ItemId) (index : NameIndex)
    (name : String) :
    (ids.foldl (fun index id => index.insert (nameOf id) id) index).find? name =
      (ids.reverse.find? fun id => nameOf id == name).or (index.find? name) := by
  induction ids generalizing index with
  | nil => rfl
  | cons id rest ih =>
      rw [List.foldl_cons, ih, find?_insert, List.reverse_cons, List.find?_append, Option.or_assoc]
      by_cases same : name = nameOf id
      · simp [same]
      · simp [same, Ne.symm same]

/-- The index of a tree answers the last item with a name. -/
theorem find?_ofTree (tree : DeclTree) (name : String) :
    (ofTree tree).find? name = tree.ids.reverse.find? fun id => tree.qualifiedName id == name := by
  rw [ofTree, find?_foldl_insert]
  exact Option.or_none

/-- What the index of a tree answers has the name and is in the tree. -/
theorem of_find?_ofTree {tree : DeclTree} {name : String} {id : ItemId}
    (found : (ofTree tree).find? name = some id) :
    id < tree.size ∧ tree.qualifiedName id = name := by
  rw [find?_ofTree] at found
  constructor
  · have listed := List.mem_of_find?_eq_some found
    exact List.mem_range.mp (List.mem_reverse.mp listed)
  · simpa using List.find?_some found

end NameIndex

namespace DeclTree

/-- No two items of a tree have the same qualified name. -/
def DistinctItems (tree : DeclTree) : Prop :=
  ∀ first second, first < tree.size → second < tree.size →
    tree.qualifiedName first = tree.qualifiedName second → first = second

/-- It suffices to compare the ids of the tree. -/
theorem distinctItems_iff {tree : DeclTree} : tree.DistinctItems ↔
    ∀ first ∈ tree.ids, ∀ second ∈ tree.ids,
      tree.qualifiedName first = tree.qualifiedName second → first = second := by
  simp only [DistinctItems, ids, List.mem_range]
  constructor
  · intro distinct first isFirst second isSecond
    exact distinct first second isFirst isSecond
  · intro distinct first second isFirst isSecond
    exact distinct first isFirst second isSecond

instance (tree : DeclTree) : Decidable tree.DistinctItems :=
  decidable_of_iff _ distinctItems_iff.symm

/-- When no two items share a name, the index answers each item for its name. -/
theorem DistinctItems.find?_ofTree {tree : DeclTree} (distinct : tree.DistinctItems) {id : ItemId}
    (inside : id < tree.size) :
    (NameIndex.ofTree tree).find? (tree.qualifiedName id) = some id := by
  cases found : (NameIndex.ofTree tree).find? (tree.qualifiedName id) with
  | none =>
      rw [NameIndex.find?_ofTree, List.find?_eq_none] at found
      have listed : id ∈ tree.ids.reverse := List.mem_reverse.mpr (List.mem_range.mpr inside)
      simpa using found id listed
  | some other =>
      rcases NameIndex.of_find?_ofTree found with ⟨otherInside, named⟩
      rw [distinct other id otherInside inside named]

end DeclTree

end JavaSymbols

import JavaSymbols.Proofs.Search.Outline

/-!
# The order of a search

The unpruned preorder from a node lists it and then, one after another, those of
its successors, and goes on from each of them unless it is on the path by which
it was come to.  A search that sees every node once collects the nodes of the
unpruned preorder in the order of their first visits.

What carries the proof is that a node that has been seen and is not on the path
has only successors that have been seen: whatever is left out below it would
have been no first visit.
-/

namespace JavaSymbols.Search

open Relation

variable {Node Key : Type} [DecidableEq Node] [DecidableEq Key]

/-! ## First visits -/

/-- Some nodes that were seen, and then the others of a list in the order in
which they come first. -/
def firsts (seen visited : List Node) : List Node :=
  seen ++ (visited.removeAll seen).eraseDups

theorem mem_removeAll {visited seen : List Node} {node : Node} :
    node ∈ visited.removeAll seen ↔ node ∈ visited ∧ node ∉ seen := by
  simp [List.removeAll]

@[simp]
theorem firsts_nil_right (seen : List Node) : firsts seen [] = seen := by
  simp [firsts, List.removeAll]

@[simp]
theorem firsts_nil_left (visited : List Node) : firsts [] visited = visited.eraseDups := by
  simp [firsts, List.removeAll]

theorem firsts_of_subset {seen visited : List Node} (subset : visited ⊆ seen) :
    firsts seen visited = seen := by
  have nothing : visited.removeAll seen = [] := by
    apply List.eq_nil_iff_forall_not_mem.mpr
    intro node member
    exact (mem_removeAll.mp member).2 (subset (mem_removeAll.mp member).1)
  rw [firsts, nothing, List.eraseDups_nil, List.append_nil]

/-- First visits along one list and then another. -/
theorem firsts_append (seen early late : List Node) :
    firsts seen (early ++ late) = firsts (firsts seen early) late := by
  have split : (early ++ late).removeAll seen = early.removeAll seen ++ late.removeAll seen := by
    simp [List.removeAll]
  have rest : (late.removeAll seen).removeAll (early.removeAll seen) =
      late.removeAll (seen ++ (early.removeAll seen).eraseDups) := by
    simp only [List.removeAll, List.filter_filter]
    apply List.filter_congr
    intro node _
    by_cases inSeen : node ∈ seen <;> simp [inSeen]
  rw [firsts, firsts, firsts, split, List.eraseDups_append, rest, List.append_assoc]

theorem firsts_cons_of_new {seen visited : List Node} {node : Node} (new : node ∉ seen) :
    firsts seen (node :: visited) = firsts (seen ++ [node]) visited := by
  have alone : firsts seen [node] = seen ++ [node] := by
    simp [firsts, List.removeAll, new, List.eraseDups_cons]
  rw [← alone, ← firsts_append, List.singleton_append]

/-! ## The unpruned preorder -/

/-- Fewer nodes are left when one more is on the path. -/
theorem length_left_lt {nodes path : List Node} {node : Node} (listed : node ∈ nodes)
    (fresh : node ∉ path) :
    (nodes.filter (· ∉ node :: path)).length < (nodes.filter (· ∉ path)).length := by
  have split : nodes.filter (· ∉ node :: path) = (nodes.filter (· ∉ path)).filter (· ≠ node) := by
    rw [List.filter_filter]
    congr 1
    funext other
    simp
  rw [split]
  exact List.length_filter_lt_length_iff_exists.mpr
    ⟨node, List.mem_filter.mpr ⟨listed, by simpa using fresh⟩, by simp⟩

/-- The nodes met from a node that was come to along a path, innermost first,
where no node of the path is met again. -/
def preorder (nodes : List Node) (successors : Node → List Node) (path : List Node)
    (node : Node) : List Node :=
  if _fresh : node ∈ nodes ∧ node ∉ path then
    node :: (successors node).flatMap (preorder nodes successors (node :: path))
  else []
termination_by (nodes.filter (· ∉ path)).length
decreasing_by exact length_left_lt _fresh.1 _fresh.2

section

variable {nodes : List Node} {successors : Node → List Node} {path : List Node} {node : Node}

theorem preorder_of_fresh (listed : node ∈ nodes) (fresh : node ∉ path) :
    preorder nodes successors path node =
      node :: (successors node).flatMap (preorder nodes successors (node :: path)) := by
  rw [preorder, dif_pos ⟨listed, fresh⟩]

/-- Nodes that have been seen and are not on the path have only successors that
have been seen. -/
def Exhausted (successors : Node → List Node) (seen path : List Node) : Prop :=
  ∀ node ∈ seen, node ∉ path → ∀ next ∈ successors node, next ∈ seen

/-- From a node that has been seen, nothing is met that has not. -/
theorem preorder_subset {seen : List Node} (exhausted : Exhausted successors seen path)
    (isSeen : node ∈ seen) {longer : List Node} (extends_ : path ⊆ longer) :
    preorder nodes successors longer node ⊆ seen := by
  fun_induction preorder nodes successors longer node with
  | case1 longer node fresh ih =>
      intro other member
      rcases List.mem_cons.mp member with rfl | below
      · exact isSeen
      · obtain ⟨next, isNext, met⟩ := List.mem_flatMap.mp below
        have apart : node ∉ path := fun onPath => fresh.2 (extends_ onPath)
        exact ih next (exhausted node isSeen apart next isNext)
          (fun one onPath => List.mem_cons_of_mem node (extends_ onPath)) met
  | case2 longer node _ => exact List.nil_subset seen

end

/-! ## The order of first visits -/

variable {key : Node → Key} {successors : Node → List Node} {Within : Node → Prop}
variable {keys : List Key} {nodes : List Node}

/-- A graph whose nodes are told apart by their keys, with a list of them. -/
structure Atlas (key : Node → Key) (successors : Node → List Node) (Within : Node → Prop)
    (keys : List Key) (nodes : List Node) : Prop extends Region key successors Within keys where
  apart : ∀ first second, Within first → Within second → key first = key second → first = second
  complete : ∀ node, Within node → node ∈ nodes

omit [DecidableEq Node] [DecidableEq Key] in
theorem Atlas.mem_of_key (atlas : Atlas key successors Within keys nodes) {seen : List Node}
    (inside : ∀ other ∈ seen, Within other) {node : Node} (within : Within node)
    (keyed : key node ∈ seen.map key) : node ∈ seen := by
  obtain ⟨other, member, same⟩ := List.mem_map.mp keyed
  exact atlas.apart other node (inside other member) within same ▸ member

omit [DecidableEq Node] [DecidableEq Key] in
/-- What is exhausted stays so when a node is seen and goes on the path. -/
theorem Exhausted.push {seen path : List Node} {node : Node}
    (exhausted : Exhausted successors seen path) :
    Exhausted successors (seen ++ [node]) (node :: path) := by
  intro other member apart next isNext
  rcases List.mem_append.mp member with early | late
  · have off : other ∉ path := fun onIt => apart (List.mem_cons_of_mem node onIt)
    exact List.mem_append_left _ (exhausted other early off next isNext)
  · exact absurd (List.mem_singleton.mp late ▸ List.mem_cons_self) apart

omit [DecidableEq Node] [DecidableEq Key] in
/-- What is exhausted stays so when an exploration adds to it. -/
theorem Atlas.exhausted_append (atlas : Atlas key successors Within keys nodes) {bound : Nat}
    {starts seen new path : List Node} (ready : Ready key Within bound seen)
    (exhausted : Exhausted successors seen path)
    (added : Added key (fun _ => (none : Option Empty)) successors Within starts seen new none) :
    Exhausted successors (seen ++ new) path := by
  intro node member apart next isNext
  rcases List.mem_append.mp member with early | late
  · exact List.mem_append_left new (exhausted node early apart next isNext)
  · have within := atlas.within node (added.within node late) next isNext
    exact atlas.mem_of_key (ready.append added).inside within
      (added.closed rfl node late next isNext)

omit [DecidableEq Node] in
/-- What a search that never answers adds. -/
theorem collecting_adds (region : Region key successors Within keys) {depth : Nat}
    {seen : List Node} {node : Node} (ready : Ready key Within (keys.length - depth) seen)
    (within : Within node) :
    ∃ new, ((collecting key successors).explore depth seen node).1 = seen ++ new ∧
      Added key (fun _ => (none : Option Empty)) successors Within [node] seen new none := by
  obtain ⟨new, reached, added⟩ : ∃ new,
      ((collecting key successors).explore depth seen node).1 = seen ++ new ∧
        Added key (fun _ => (none : Option Empty)) successors Within [node] seen new
          ((collecting key successors).explore depth seen node).2 :=
    (explore_adds region depth).adds ready within
  have silent : ((collecting key successors).explore depth seen node).2 = none :=
    Subsingleton.elim _ _
  exact ⟨new, reached, silent ▸ added⟩

omit [DecidableEq Node] in
/-- What a whole search that never answers collects. -/
theorem run_collects (region : Region key successors Within keys) {depth : Nat} {start : Node}
    (within : Within start) (enough : keys.length ≤ depth) :
    Added key (fun _ => (none : Option Empty)) successors Within [start] []
      ((collecting key successors).run depth start).1 none := by
  obtain ⟨new, same, added⟩ := collecting_adds region (ready_nil enough) within
  rw [run, same]
  exact added

omit [DecidableEq Node] in
/-- A search to a sufficient depth collects just what can be reached, each place
once. -/
theorem mem_run_iff (atlas : Atlas key successors Within keys nodes) {depth : Nat} {start : Node}
    (within : Within start) (enough : keys.length ≤ depth) {node : Node} :
    node ∈ ((collecting key successors).run depth start).1 ↔
      ReflTransGen (fun a b => b ∈ successors a) start node :=
  (run_collects atlas.toRegion within enough).mem_iff atlas.toRegion within atlas.apart

omit [DecidableEq Node] in
/-- No two places that a search collects have the same key. -/
theorem nodup_run (region : Region key successors Within keys) {depth : Nat} {start : Node}
    (within : Within start) (enough : keys.length ≤ depth) :
    (((collecting key successors).run depth start).1.map key).Nodup := by
  simpa using (run_collects region within enough).fresh

/-- Following nodes one after another collects the first visits of their
preorders, if exploring each of them does. -/
theorem follow_eq_firsts (atlas : Atlas key successors Within keys nodes) {depth : Nat}
    {path : List Node} (node : Node)
    (each : ∀ seen next, Within next → Ready key Within (keys.length - depth) seen →
      path ⊆ seen → Exhausted successors seen path →
      ((collecting key successors).explore depth seen next).1 =
        firsts seen (preorder nodes successors path next))
    (nexts : List Node) (inside : ∀ next ∈ nexts, Within next) :
    ∀ seen, Ready key Within (keys.length - depth) seen → path ⊆ seen →
      Exhausted successors seen path →
      ((collecting key successors).follow ((collecting key successors).explore depth) node seen
        nexts).1 = firsts seen (nexts.flatMap (preorder nodes successors path)) := by
  induction nexts with
  | nil => simp
  | cons next rest ih =>
      intro seen ready onPath exhausted
      have here := inside next List.mem_cons_self
      obtain ⟨more, reached, added⟩ := collecting_adds atlas.toRegion ready here
      rw [collecting_follow_cons, List.flatMap_cons, firsts_append,
        ← each seen next here ready onPath exhausted, reached]
      exact ih (fun other member => inside other (List.mem_cons_of_mem next member))
        (seen ++ more) (ready.append added)
        (fun other member => List.mem_append_left more (onPath member))
        (atlas.exhausted_append ready exhausted added)

/-- An exploration of a node collects the first visits of the preorder. -/
theorem explore_eq_firsts (atlas : Atlas key successors Within keys nodes) (depth : Nat) :
    ∀ (path seen : List Node) (node : Node), Within node →
      Ready key Within (keys.length - depth) seen → path ⊆ seen →
      Exhausted successors seen path →
      ((collecting key successors).explore depth seen node).1 =
        firsts seen (preorder nodes successors path node) := by
  induction depth with
  | zero =>
      intro path seen node within ready onPath exhausted
      have isSeen := ready.isSeen atlas.toRegion within
      rw [explore_of_seen isSeen]
      exact (firsts_of_subset (preorder_subset exhausted
        (atlas.mem_of_key ready.inside within isSeen) (List.Subset.refl path))).symm
  | succ depth ih =>
      intro path seen node within ready onPath exhausted
      by_cases isSeen : key node ∈ seen.map key
      · rw [explore_of_seen isSeen]
        exact (firsts_of_subset (preorder_subset exhausted
          (atlas.mem_of_key ready.inside within isSeen) (List.Subset.refl path))).symm
      · have new : node ∉ seen := fun member => isSeen (List.mem_map_of_mem member)
        have along : node :: path ⊆ seen ++ [node] := by
          intro other member
          rcases List.mem_cons.mp member with rfl | onIt
          · simp
          · exact List.mem_append_left _ (onPath onIt)
        rw [explore_succ_of_silent isSeen rfl, preorder_of_fresh (atlas.complete node within)
          fun onIt => new (onPath onIt), firsts_cons_of_new new]
        -- one successor after another, with what was seen below the earlier ones
        exact follow_eq_firsts atlas node (ih (node :: path)) (successors node)
          (atlas.within node within) (seen ++ [node]) (ready.push within isSeen) along
          exhausted.push

/-- A whole search collects the first visits of the preorder from its start. -/
theorem run_eq_eraseDups_preorder (atlas : Atlas key successors Within keys nodes) {depth : Nat}
    {start : Node} (within : Within start) (enough : keys.length ≤ depth) :
    ((collecting key successors).run depth start).1 =
      (preorder nodes successors [] start).eraseDups := by
  rw [← firsts_nil_left]
  exact explore_eq_firsts atlas depth [] [] start within (ready_nil enough)
    (List.Subset.refl []) (by intro _ member; cases member)

end JavaSymbols.Search

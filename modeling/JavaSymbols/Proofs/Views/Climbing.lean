import JavaSymbols.Methods
import JavaSymbols.Proofs.Search.First
import JavaSymbols.Proofs.Search.Sessions
import JavaSymbols.Proofs.Views.Inherited

/-!
# Searches that climb along supertypes

The search for a method and the search for all ancestors climb from an item to
its supertypes and compose the references on the way.  When all type arguments
convert, the course of such a search does not depend on the session: it comes to
an ancestor along the first chain, with the view composed along that chain.
-/

namespace JavaSymbols

open Relation Session

/-- The nodes of a search that climbs: an item with the reference it was reached
by. -/
structure Climb (Node : Type) where
  place : ItemId → Option Reference → Node
  item : Node → ItemId
  view : Node → Option Reference
  item_place : ∀ id reference, item (place id reference) = id
  view_place : ∀ id reference, view (place id reference) = reference

namespace Climb

open Environment

variable {Node Key Answer : Type} (climb : Climb Node) (env : Environment)

/-- The direct supertypes of an item, where they are found. -/
def supertypes (id : ItemId) : List Supertype :=
  match (env.supertypesOf id true).outcome with
  | .ok found => found
  | .error _ => []

/-- The node above a node along a supertype. -/
def next (node : Node) (supertype : Supertype) : Node :=
  climb.place supertype.item
    (some ((env.converted (climb.item node, supertype)).seenThrough (climb.view node) .empty))

/-- The nodes above a node. -/
def above (node : Node) : List Node :=
  (supertypes env (climb.item node)).map (climb.next env node)

/-- The nodes that a climb deals with. -/
structure Within (node : Node) : Prop where
  placed : climb.place (climb.item node) (climb.view node) = node
  inside : climb.item node < env.tree.size
  viewed : ∀ reference, climb.view node = some reference →
    reference.item = climb.item node ∧ Ty.allEager reference.args = true

/-- A node stands for an item. -/
def At (target : ItemId) (node : Node) : Prop :=
  climb.item node = target

variable {climb env}

theorem supertypes_of_given {id : ItemId} {found : List Supertype}
    (given : (env.supertypesOf id true).outcome = .ok found) : supertypes env id = found := by
  rw [supertypes, given]

theorem given_of_mem {id : ItemId} {supertype : Supertype}
    (member : supertype ∈ supertypes env id) :
    (env.supertypesOf id true).outcome = .ok (supertypes env id) := by
  cases given : (env.supertypesOf id true).outcome with
  | ok found => rw [supertypes_of_given given]
  | error fault =>
      rw [supertypes, given] at member
      cases member

theorem inherits_of_mem {id : ItemId} {supertype : Supertype}
    (member : supertype ∈ supertypes env id) : env.Inherits id supertype.item :=
  ⟨_, given_of_mem member, supertype, member, rfl⟩

theorem inherits_iff_mem {lower upper : ItemId} : env.Inherits lower upper ↔
    ∃ supertype ∈ supertypes env lower, supertype.item = upper := by
  constructor
  · rintro ⟨found, given, supertype, member, same⟩
    rw [supertypes_of_given given]
    exact ⟨supertype, member, same⟩
  · rintro ⟨supertype, member, rfl⟩
    exact inherits_of_mem member

theorem exists_supertypes (constructed : env.Constructed) (inTree : env.InTree) {id : Nat}
    (inside : id < env.tree.size) :
    (env.supertypesOf id true).outcome = .ok (supertypes env id) := by
  obtain ⟨found, given⟩ := (firm_supertypesOf constructed inside).total inTree
  rw [given, supertypes_of_given given]

theorem within_start {id : Nat} (inside : id < env.tree.size) :
    climb.Within env (climb.place id none) where
  placed := by rw [climb.item_place, climb.view_place]
  inside := by rwa [climb.item_place]
  viewed := by
    intro reference same
    rw [climb.view_place] at same
    cases same

theorem within_above (converting : env.Converting) (constructed : env.Constructed)
    {node other : Node} (within : climb.Within env node)
    (member : other ∈ climb.above env node) : climb.Within env other := by
  obtain ⟨supertype, isSupertype, rfl⟩ := List.mem_map.mp member
  have step := inherits_of_mem isSupertype
  have edge := converting.converts constructed within.inside (given_of_mem isSupertype) isSupertype
  constructor
  · rw [next, climb.item_place, climb.view_place]
  · rw [next, climb.item_place]
    exact step.lt constructed within.inside
  · intro reference same
    rw [next, climb.view_place] at same
    cases same
    constructor
    · rw [next, climb.item_place, Reference.item_seenThrough]
      rfl
    · exact Reference.allEager_seenThrough edge.eager
        fun other isView => (within.viewed other isView).2

/-! ## Nodes and items -/

theorem inherits_of_above {node other : Node} (member : other ∈ climb.above env node) :
    env.Inherits (climb.item node) (climb.item other) := by
  obtain ⟨supertype, isSupertype, rfl⟩ := List.mem_map.mp member
  rw [next, climb.item_place]
  exact inherits_of_mem isSupertype

/-- A climb from one node to another follows supertypes from item to item. -/
theorem transGen_of_above (converting : env.Converting) (constructed : env.Constructed)
    {node other : Node} (within : climb.Within env node)
    (path : TransGen (fun a b => b ∈ climb.above env a) node other) :
    climb.Within env other ∧ TransGen env.Inherits (climb.item node) (climb.item other) := by
  induction path with
  | single member =>
      exact ⟨within_above converting constructed within member,
        .single (inherits_of_above member)⟩
  | tail _ member ih =>
      exact ⟨within_above converting constructed ih.1 member,
        ih.2.tail (inherits_of_above member)⟩

/-- A node for an item can be reached just when its item can be reached. -/
theorem reaches_iff (converting : env.Converting) (constructed : env.Constructed)
    {target : Nat} {node : Node} (within : climb.Within env node) :
    Search.Reaches (climb.above env) (climb.At target) node ↔
      ReflTransGen env.Inherits (climb.item node) target := by
  constructor
  · rintro ⟨final, path, rfl⟩
    rcases reflTransGen_iff_eq_or_transGen.mp path with rfl | path
    · exact .refl
    · exact (transGen_of_above converting constructed within path).2.to_reflTransGen
  · intro path
    generalize start : climb.item node = id at path
    induction path using ReflTransGen.head_induction_on generalizing node with
    | refl => exact ⟨node, .refl, start⟩
    | head step _ ih =>
        subst start
        obtain ⟨found, given, supertype, member, rfl⟩ := step
        rw [← supertypes_of_given given] at member
        have isAbove : climb.next env node supertype ∈ climb.above env node :=
          List.mem_map_of_mem member
        obtain ⟨final, path, hit⟩ := ih (within_above converting constructed within isAbove)
          (climb.item_place _ _)
        exact ⟨final, .head isAbove path, hit⟩

/-- A climb comes to an ancestor along the first chain, with the view composed
along that chain. -/
theorem first_of_firstChain (converting : env.Converting) (constructed : env.Constructed)
    {target id : Nat} {chain : List (ItemId × Supertype)}
    (first : FirstChain env target id chain) : ∀ reference : Option Reference,
      climb.Within env (climb.place id reference) →
        Search.First (climb.above env) (climb.At target) (climb.place id reference)
          (climb.place target (env.composedView chain reference)) := by
  induction first with
  | here =>
      intro reference _
      exact .here (climb.item_place _ _)
  | @step id supertype before after chain other given misses onward ih =>
      intro reference within
      have itemIs : climb.item (climb.place id reference) = id := climb.item_place _ _
      have listed : climb.above env (climb.place id reference) =
          before.map (climb.next env (climb.place id reference)) ++
            climb.next env (climb.place id reference) supertype ::
              after.map (climb.next env (climb.place id reference)) := by
        rw [above, itemIs, supertypes_of_given given, List.map_append, List.map_cons]
      have nextIs : climb.next env (climb.place id reference) supertype =
          climb.place supertype.item
            (some ((env.converted (id, supertype)).seenThrough reference .empty)) := by
        rw [next, itemIs, climb.view_place]
      have allWithin : ∀ node ∈ climb.above env (climb.place id reference),
          climb.Within env node := fun node member =>
        within_above converting constructed within member
      apply Search.First.step _ listed
      · intro node isEarly reaches
        obtain ⟨early, isListed, rfl⟩ := List.mem_map.mp isEarly
        have earlyWithin := allWithin (climb.next env (climb.place id reference) early) (by
          rw [listed]
          exact List.mem_append_left _ isEarly)
        apply misses early isListed
        have leads := (reaches_iff converting constructed earlyWithin).mp reaches
        rwa [next, climb.item_place] at leads
      · have later := ih (some ((env.converted (id, supertype)).seenThrough reference .empty)) (by
          rw [← nextIs]
          apply allWithin
          rw [listed]
          simp)
        rw [nextIs]
        exact later
      · intro hit
        exact other (itemIs.symm.trans hit)

/-! ## Climbing in a session -/

/-- A search that climbs from items to their direct ancestors. -/
structure Climbs (climb : Climb Node) (env : Environment)
    (search : Search Query Node Key Reference Answer) : Prop where
  edges : ∀ id reference,
    search.edges (climb.place id reference) = env.ancestorsOf (.item id) true
  enter : ∀ id reference ancestor, search.enter (climb.place id reference) ancestor = (do
    let edge ← env.forceEdge ancestor
    let edge := edge.seenThrough reference (← Query.cells)
    env.known edge.item
    pure (some (climb.place edge.item (some edge))))

/-- A direct ancestor that leads from a node to the next. -/
def LeadsTo (climb : Climb Node) (env : Environment) (session : Session) (node : Node)
    (ancestor : Reference) (other : Node) : Prop :=
  ∃ supertype ∈ supertypes env (climb.item node),
    Instance env session.cells (climb.item node) supertype ancestor ∧
      other = climb.next env node supertype

theorem runs_listed (constructed : env.Constructed) (inTree : env.InTree) {session : Session}
    (sound : session.Sound env) {node : Node} (within : climb.Within env node) :
    Query.Runs (Sound env) Follows session (env.ancestorsOf (.item (climb.item node)) true)
      fun after outcome => ∃ ancestors, outcome = .ok ancestors ∧
        List.Forall₂ (climb.LeadsTo env after node) ancestors (climb.above env node) := by
  apply (runs_itemAncestors sound within.inside true).mono
  intro after outcome _ _ agree
  rw [exists_supertypes constructed inTree within.inside] at agree
  cases agree with
  | value found =>
      refine ⟨_, rfl, ?_⟩
      rw [above, List.forall₂_map_right_iff]
      have instances := forall₂_and_mem (List.Forall₂.flip found.1)
      exact instances.imp fun ancestor supertype both =>
        ⟨supertype, both.2, both.1, rfl⟩

theorem runs_entered (converting : env.Converting) (constructed : env.Constructed)
    {session : Session} (sound : session.Sound env) {node other : Node}
    {ancestor : Reference} (within : climb.Within env node)
    (leads : climb.LeadsTo env session node ancestor other) :
    Query.Runs (Sound env) Follows session (do
        let edge ← env.forceEdge ancestor
        let edge := edge.seenThrough (climb.view node) (← Query.cells)
        env.known edge.item
        pure (some (climb.place edge.item (some edge))))
      fun _ outcome => outcome = .ok (some other) := by
  obtain ⟨supertype, isSupertype, isInstance, rfl⟩ := leads
  have edge := converting.converts constructed within.inside (given_of_mem isSupertype) isSupertype
  have followed := runs_forceEdge constructed.wellFormed sound isInstance
  have follows : env.follow (climb.item node) supertype = .ok () := by
    rw [follow, edge.converts]
    rfl
  have stepped : Query.Runs (Sound env) Defers session (env.forceEdge ancestor)
      fun _ outcome => outcome = .ok (env.converted (climb.item node, supertype)) := by
    apply followed.mono
    intro after outcome _ _ agree
    rw [follows] at agree
    cases agree with
    | value isEdge => exact congrArg Except.ok (isEdge.eq_converted edge.converts)
  apply (runs_entering_eager (climb.view node)
    (fun reached : Reference => climb.place reached.item (some reached)) stepped ?_).mono
  · rintro after _ _ _ rfl
    simp only [Except.map, Reference.item_seenThrough]
    rfl
  · rintro _ ⟨⟩
    exact ⟨(inherits_of_mem isSupertype).lt constructed within.inside, edge.eager⟩

theorem LeadsTo.mono {old new : Session} {node other : Node} {ancestor : Reference}
    (leads : climb.LeadsTo env old node ancestor other) (later : old.cells.Extends new.cells) :
    climb.LeadsTo env new node ancestor other := by
  obtain ⟨supertype, isSupertype, isInstance, same⟩ := leads
  exact ⟨supertype, isSupertype, isInstance.mono later, same⟩

/-- The course of a climb does not depend on the session, unless it ends with a
fault. -/
theorem Climbs.tracks {Verdict : Type} {search : Search Query Node Key Reference Answer}
    (climbs : climb.Climbs env search) (converting : env.Converting)
    (constructed : env.Constructed) {embed : Answer → Verdict} {visit : Node → Option Verdict}
    (visited : ∀ session node, session.Sound env → climb.Within env node →
      Query.Runs (Sound env) Follows session (search.visit node)
        (Query.OnValue fun _ found => visit node = found.map embed)) :
    Search.Tracks (fun _ => True) search (Sound env) Follows embed visit (climb.above env)
      (climb.Within env) (climb.LeadsTo env) where
  visited session node sound within :=
    (visited session node sound within).mono fun _ _ _ _ value => ⟨fun _ _ => trivial, value⟩
  listed session node sound within := by
    have placed := climbs.edges (climb.item node) (climb.view node)
    rw [within.placed] at placed
    rw [placed]
    apply (runs_itemAncestors sound within.inside true).mono
    intro after outcome _ _ agree
    constructor
    · exact fun _ _ => trivial
    · rintro ancestors rfl
      obtain ⟨found, given, instances, _⟩ := agree.of_ok
      rw [above, supertypes_of_given given, List.forall₂_map_right_iff]
      have listed := forall₂_and_mem (List.Forall₂.flip instances)
      apply listed.imp
      rintro ancestor supertype ⟨isInstance, member⟩
      rw [← supertypes_of_given given] at member
      exact ⟨supertype, member, isInstance, rfl⟩
  entered session node ancestor other sound within leads := by
    have entered := runs_entered converting constructed sound within leads
    rw [← climbs.enter (climb.item node) (climb.view node), within.placed] at entered
    exact entered.mono fun _ _ _ _ same => same ▸ Query.judged_ok rfl
  lasts _ _ _ _ _ later leads := leads.mono later.cells
  within _ within _ member := within_above converting constructed within member

/-- The course of a climb does not depend on the session. -/
theorem Climbs.charts {search : Search Query Node Key Reference Answer}
    (climbs : climb.Climbs env search) (converting : env.Converting)
    (constructed : env.Constructed) (inTree : env.InTree) {visit : Node → Option Answer}
    (visited : ∀ session node, session.Sound env → climb.Within env node →
      Query.Runs (Sound env) Follows session (search.visit node)
        fun _ outcome => outcome = .ok (visit node)) :
    Search.Charts search (Sound env) Follows visit (climb.above env) (climb.Within env)
      (climb.LeadsTo env) where
  visited := visited
  listed session node sound within := by
    have listed := runs_listed constructed inTree sound within
    rwa [← climbs.edges (climb.item node) (climb.view node), within.placed] at listed
  entered session node ancestor other sound within leads := by
    have entered := runs_entered converting constructed sound within leads
    rwa [← climbs.enter (climb.item node) (climb.view node), within.placed] at entered
  lasts _ _ _ _ _ later leads := leads.mono later.cells
  within _ within _ member := within_above converting constructed within member

/-- A climb in an acyclic hierarchy whose keys tell items apart, and in which
only nodes for one item answer. -/
theorem directed (converting : env.Converting) (constructed : env.Constructed)
    (acyclic : env.Acyclic) {key : Node → Key} {keys : List Key}
    (listed : ∀ node, climb.Within env node → key node ∈ keys)
    (keyed : ∀ node twin, climb.Within env node → climb.Within env twin → key node = key twin →
      climb.item node = climb.item twin)
    {visit : Node → Option Answer} {target : Nat}
    (silent : ∀ node, ¬ climb.At target node → visit node = none) :
    Search.Directed key visit (climb.above env) (climb.Within env) keys (climb.At target) where
  region := ⟨fun node within _ => within_above converting constructed within, listed⟩
  acyclic lower upper within path same := by
    obtain ⟨upperWithin, cycle⟩ := transGen_of_above converting constructed within path
    rw [keyed lower upper within upperWithin same] at cycle
    exact acyclic _ upperWithin.inside cycle
  keyed node twin within twinWithin same := by
    rw [reaches_iff converting constructed within, reaches_iff converting constructed twinWithin,
      keyed node twin within twinWithin same]
    exact id
  silent node _ missed := silent node missed

end Climb

end JavaSymbols

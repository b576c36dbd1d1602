import JavaSymbols.Proofs.Ancestors.Traversals

/-!
# All ancestors, exactly

The lenient query for all ancestors always answers.  Over declarations that are
told apart by their names it lists just those that can be reached from the one
that is asked about, each once, in the order of first visits by the unpruned
preorder.
-/

namespace JavaSymbols.Environment

open Session Relation

variable {env : Environment} {session : Session}

/-! ## The graph of ancestors -/

/-- A direct ancestor is an item of the tree. -/
theorem ancestorTargets_within (constructed : env.Constructed) {decl other : Decl}
    (declares : env.tree.Declares decl) (member : other ∈ env.ancestorTargets decl) :
    ∃ id : Nat, id < env.tree.size ∧ other = .item id := by
  cases decl with
  | item id =>
      obtain ⟨targets, given, target, isTarget, rfl⟩ := mem_targetsOf.mp member
      obtain ⟨found, result, rfl⟩ := Except.map_eq_ok given
      obtain ⟨supertype, isFound, rfl⟩ := List.mem_map.mp isTarget
      exact ⟨_, (firm_supertypesOf constructed declares).good found result supertype isFound, rfl⟩
  | parameter param => exact directTargets_within constructed declares member

theorem region_ancestors (constructed : env.Constructed) {start : Decl}
    (declares : env.tree.Declares start) :
    Search.Region env.tree.qualifiedNameOf env.ancestorTargets (env.Meets start)
      (env.tree.qualifiedNameOf start :: env.tree.ids.map env.tree.qualifiedName) where
  within _ meets _ member :=
    .inr (ancestorTargets_within constructed (meets.declares declares) member)
  listed := (region_meets constructed declares).listed

theorem atlas_ancestors (constructed : env.Constructed) (distinct : env.tree.DistinctNames)
    {start : Decl} (declares : env.tree.Declares start) :
    Search.Atlas env.tree.qualifiedNameOf env.ancestorTargets (env.Meets start)
      (env.tree.qualifiedNameOf start :: env.tree.ids.map env.tree.qualifiedName)
      env.tree.declarations where
  toRegion := region_ancestors constructed declares
  apart first second isFirst isSecond :=
    distinct first second (isFirst.declares declares) (isSecond.declares declares)
  complete _ meets := DeclTree.mem_declarations.mpr (meets.declares declares)

/-- There are no more names than the depth of a search. -/
theorem length_names_le (env : Environment) (start : Decl) : (env.tree.qualifiedNameOf start ::
    env.tree.ids.map env.tree.qualifiedName).length ≤ env.searchDepth := by
  simp [DeclTree.ids, searchDepth]

/-! ## What is collected -/

/-- The declarations that a lenient walk collects, in order. -/
def collected (env : Environment) (start : Decl) : List Decl :=
  ((Search.collecting env.tree.qualifiedNameOf env.ancestorTargets).run env.searchDepth start).1

/-- What is collected can be met. -/
theorem meets_of_mem_collected (constructed : env.Constructed) {start : Decl}
    (declares : env.tree.Declares start) {decl : Decl} (member : decl ∈ env.collected start) :
    env.Meets start decl :=
  (Search.run_collects (region_ancestors constructed declares) (.inl rfl)
    (length_names_le env start)).within decl member

/-- The references by which declarations are come to. -/
theorem map_item_of_met {start : Decl} {decls : List Decl} {ascents : List Ascent}
    (met : List.Forall₂ (env.Met start session) decls ascents) (others : start ∉ decls) :
    decls = (ascents.filterMap Ascent.view).map (fun view => .item view.item) ∧
      ∀ view ∈ ascents.filterMap Ascent.view, view.name = env.tree.qualifiedName view.item := by
  induction met with
  | nil => simp
  | @cons decl ascent decls ascents head _ ih =>
      obtain ⟨same, named⟩ := ih fun later => others (List.mem_cons_of_mem decl later)
      cases isView : ascent.view with
      | none => exact absurd (head.origin isView ▸ List.mem_cons_self) others
      | some view =>
          obtain ⟨isItem, name⟩ := head.viewed view isView
          rw [List.filterMap_cons_some isView, List.map_cons, ← same, ← isItem]
          exact ⟨rfl, by simpa [name] using named⟩

/-- Asked leniently for all ancestors, a declaration has those that are collected
after it. -/
theorem runs_allAncestors_lenient (constructed : env.Constructed) (inTree : env.InTree)
    (sound : session.Sound env) {decl : Decl} (declares : env.tree.Declares decl) :
    Query.Runs (Sound env) Follows session (env.allAncestorsOf decl true) fun _ outcome =>
      ∃ references, outcome = .ok references ∧
        env.collected decl = decl :: references.map (fun reference => .item reference.item) ∧
        ∀ reference ∈ references, reference.name = env.tree.qualifiedName reference.item := by
  have start : env.Met decl session decl ⟨decl, none⟩ :=
    ⟨rfl, declares, nofun, nofun, fun _ => rfl⟩
  have ran := (outlined_lenient constructed inTree decl).runs_run (env.tree.size + 1) sound start
    (foreseen_of_not not_false)
  have graph : (Search.outline env.tree.qualifiedNameOf (fun decl => .ok (env.ancestorTargets decl))
      fun _ target => .ok target).run (env.tree.size + 1 + 1) decl =
        .ok ((Search.collecting env.tree.qualifiedNameOf env.ancestorTargets).run env.searchDepth
          decl) := Search.outline_explore_of_graph _ _ _
  rw [graph] at ran
  refine ran.bind ?_ ?_
  · rintro after cause _ agree
    cases agree
  · rintro after ⟨ascents, answer⟩ soundAfter _ agree
    refine Query.runs_pure soundAfter ⟨_, rfl, ?_⟩
    cases agree with
    | value collected =>
        obtain ⟨same, rest, isRest⟩ := collected
        change [_] ++ rest = ascents at isRest
        subst isRest
        change List.Forall₂ _ (env.collected decl) _ at same
        have once : ((env.collected decl).map env.tree.qualifiedNameOf).Nodup :=
          Search.nodup_run (region_ancestors constructed declares) (.inl rfl)
            (length_names_le env decl)
        generalize env.collected decl = decls at same once
        cases same with
        | @cons first _ others _ head tail =>
            have isStart : decl = first := head.place
            subst isStart
            have apart : decl ∉ others := fun member =>
              (List.nodup_cons.mp once).1 (List.mem_map_of_mem member)
            obtain ⟨isMap, named⟩ := map_item_of_met tail apart
            exact ⟨congrArg (decl :: ·) isMap, named⟩

/-- The direct ancestors of a declaration are those of the graph. -/
theorem targets_ancestorsOf (constructed : env.Constructed) (inTree : env.InTree)
    (sound : session.Sound env) {decl : Decl} (declares : env.tree.Declares decl) :
    (env.ancestorsOf decl true session).1.map
      (List.map fun ancestor => Decl.item ancestor.item) = .ok (env.ancestorTargets decl) := by
  have agree := (runs_ancestors_lenient constructed inTree sound declares).good
  generalize (env.ancestorsOf decl true session).1 = outcome at agree
  cases agree with
  | value pairs =>
      refine congrArg Except.ok ?_
      generalize env.ancestorTargets decl = targets at pairs
      induction pairs with
      | nil => rfl
      | cons leads _ ih => rw [List.map_cons, ih, leads.goal]

/-- In every session that questions lead to, and when no two declarations share a
name, the lenient query for all ancestors answers with just the declarations
other than the start that steps to direct ancestors lead to, each once and under
its own name, in the order in which the unpruned preorder first comes to them. -/
theorem allAncestors_exact (constructed : env.Constructed) (inTree : env.InTree)
    (distinct : env.tree.DistinctNames) (reached : session.Reached env) {decl : Decl}
    (declares : env.tree.Declares decl) :
    (∀ lower, env.tree.Declares lower → (env.ancestorsOf lower true session).1.map
      (List.map fun ancestor => Decl.item ancestor.item) = .ok (env.ancestorTargets lower)) ∧
    ∃ references, (env.allAncestorsOf decl true session).1 = .ok references ∧
      (references.map Reference.item).Nodup ∧
      (∀ id, id ∈ references.map Reference.item ↔ Decl.item id ≠ decl ∧
        TransGen (fun lower upper => upper ∈ env.ancestorTargets lower) decl (.item id)) ∧
      decl :: references.map (fun reference => .item reference.item) =
        (Search.preorder env.tree.declarations env.ancestorTargets [] decl).eraseDups ∧
      ∀ reference ∈ references, reference.name = env.tree.qualifiedName reference.item := by
  have sound := (collecting_of_reached constructed reached).1.sound
  obtain ⟨references, answered, isCollected, named⟩ :=
    (runs_allAncestors_lenient constructed inTree sound declares).good
  have atlas := atlas_ancestors constructed distinct declares
  have start : env.Meets decl decl := .inl rfl
  have once : (env.collected decl).Nodup :=
    (Search.nodup_run atlas.toRegion start (length_names_le env decl)).of_map _
  have listed : ∀ other, other ∈ env.collected decl ↔
      ReflTransGen (fun lower upper => upper ∈ env.ancestorTargets lower) decl other :=
    fun _ => Search.mem_run_iff atlas start (length_names_le env decl)
  have ordered : env.collected decl =
      (Search.preorder env.tree.declarations env.ancestorTargets [] decl).eraseDups :=
    Search.run_eq_eraseDups_preorder atlas start (length_names_le env decl)
  rw [isCollected] at once listed ordered
  obtain ⟨apart, onceAbove⟩ := List.nodup_cons.mp once
  have split : references.map (fun reference => Decl.item reference.item) =
      (references.map Reference.item).map Decl.item := by rw [List.map_map]; rfl
  have isAbove : ∀ id, .item id ∈ references.map (fun reference => Decl.item reference.item) ↔
      id ∈ references.map Reference.item := by simp
  refine ⟨fun lower inside => targets_ancestorsOf constructed inTree sound inside, references,
    answered, ?_, ?_, ordered, named⟩
  · exact (split ▸ onceAbove).of_map _
  · intro id
    rw [← isAbove]
    constructor
    · intro member
      have other : Decl.item id ≠ decl := fun same => apart (same ▸ member)
      have path := (listed _).mp (List.mem_cons_of_mem decl member)
      exact ⟨other, (reflTransGen_iff_eq_or_transGen.mp path).resolve_left other⟩
    · rintro ⟨other, path⟩
      exact (List.mem_cons.mp ((listed _).mpr path.to_reflTransGen)).resolve_left other

/-- A session in which a strict look at the ancestors of a class in a cycle has
set cells. -/
def afterStrictLook : Session :=
  ((Question.allAncestors (.item 11) false).ask (selfContained cyclicClasses) .start).2

theorem allAncestors_in_cycle :
    ((selfContained cyclicClasses).allAncestorsOf (.item 10) true afterStrictLook).1.map
      (List.map Reference.item) = .ok [11, 3, 0] ∧
    (Search.preorder cyclicClasses.declarations (selfContained cyclicClasses).ancestorTargets []
      (.item 10)).eraseDups = [.item 10, .item 11, .item 3, .item 0] ∧
    TransGen (fun lower upper => upper ∈ (selfContained cyclicClasses).ancestorTargets lower)
      (.item 10) (.item 0) := by
  have asked : 11 < (selfContained cyclicClasses).tree.size := by decide +kernel
  have reached : afterStrictLook.Reached (selfContained cyclicClasses) := .asked .start _ asked
  have declares : (selfContained cyclicClasses).tree.Declares (.item 10) :=
    DeclTree.mem_declarations.mp (by decide +kernel)
  have answered : ((selfContained cyclicClasses).allAncestorsOf (.item 10) true
      afterStrictLook).1.map (List.map Reference.item) = .ok [11, 3, 0] := by decide +kernel
  obtain ⟨_, references, given, _, listed, ordered, _⟩ :=
    allAncestors_exact constructed_cyclicClasses (inTree_selfContained _) (by decide +kernel)
      reached declares
  have items : references.map Reference.item = [11, 3, 0] := by
    rw [given] at answered
    simpa [Except.map] using answered
  have places : references.map (fun reference => Decl.item reference.item) =
      [.item 11, .item 3, .item 0] := by
    rw [show references.map (fun reference => Decl.item reference.item) =
      (references.map Reference.item).map Decl.item by rw [List.map_map]; rfl, items]
    rfl
  refine ⟨answered, ?_, ((listed 0).mp (items ▸ by decide)).2⟩
  rw [← places]
  exact ordered.symm

end JavaSymbols.Environment

import JavaSymbols.Proofs.DeclTree.Index
import JavaSymbols.Proofs.Outcomes
import JavaSymbols.Proofs.Resolution.SelfContained
import JavaSymbols.Proofs.Resolution.Supertypes
import JavaSymbols.Proofs.Search.Traced
import JavaSymbols.Subtyping

/-!
# Subtyping is reachability

The best-effort test follows every supertype position that resolves, and passes
over the others.  Its search enters each declaration once and ends at the first
that has the name in question.  Over a source of names that keeps to the tree
it never fails, and when declarations are told apart by their names it holds
just when a chain of direct supertypes leads from one declaration to the other.
-/

namespace JavaSymbols

open Relation

namespace Environment

/-- The direct supertypes of a declaration: what stands in the position of its
superclass, what its superinterface clauses denote, and for a type parameter the
references among its bounds or, if there are none, the universal base type.
What does not resolve yields no supertype. -/
inductive DirectSupertype (env : Environment) : Decl → Decl → Prop where
  | superPosition {id : ItemId} {supertype : Supertype}
      (resolves : (env.superPosition id).outcome = .ok (some supertype)) :
      DirectSupertype env (.item id) (.item supertype.item)
  | interface {id : ItemId} {clause : ClassExpr} {supertype : Supertype}
      (written : clause ∈ env.interfaceClauses id)
      (resolves : (env.clauseSupertype id clause).outcome = .ok supertype) :
      DirectSupertype env (.item id) (.item supertype.item)
  | bound {param : TypeParameter} {bound : ClassExpr} {type : Ty} {reference : Reference}
      (written : bound ∈ (env.tree.param param).bounds)
      (resolves : (env.convertClassAt param.owner.typeSite bound).outcome = .ok type)
      (refers : type.reference? = some reference) :
      DirectSupertype env (.parameter param) (.item reference.item)
  | unbounded {param : TypeParameter}
      (none : ∀ bound ∈ (env.tree.param param).bounds, ∀ type,
        (env.convertClassAt param.owner.typeSite bound).outcome = .ok type →
          type.reference? = none) :
      DirectSupertype env (.parameter param) (.item env.object)

variable {env : Environment}

/-! ## The edges of the search -/

/-- The items that a traced list of supertypes leads to; none when it ends with
a fault. -/
def targetsOf (outcome : Except Fault (List ItemId)) : List Decl :=
  match outcome with
  | .ok targets => targets.map Decl.item
  | .error _ => []

/-- The declarations that the best-effort search enters from a declaration. -/
def directTargets (env : Environment) : Decl → List Decl
  | .item id =>
      (env.supertypePositions id).flatMap fun position =>
        targetsOf (position.outcome.map fun found => found.map Supertype.item)
  | .parameter param =>
      targetsOf ((env.supertypesOfParameter param true).outcome.map fun found =>
        found.map Reference.item)

theorem mem_targetsOf {outcome : Except Fault (List ItemId)} {decl : Decl} :
    decl ∈ targetsOf outcome ↔
      ∃ targets, outcome = .ok targets ∧ ∃ id ∈ targets, decl = .item id := by
  cases outcome with
  | error fault => simp [targetsOf]
  | ok targets => simp [targetsOf, eq_comm]

theorem mem_targetsOf_map {α : Type} {outcome : Except Fault (List α)} {item : α → ItemId}
    {decl : Decl} : decl ∈ targetsOf (outcome.map fun found => found.map item) ↔
      ∃ found, outcome = .ok found ∧ ∃ one ∈ found, decl = .item (item one) := by
  rw [mem_targetsOf]
  constructor
  · rintro ⟨targets, same, target, member, rfl⟩
    obtain ⟨found, result, rfl⟩ := Except.map_eq_ok same
    obtain ⟨one, isFound, rfl⟩ := List.mem_map.mp member
    exact ⟨found, result, one, isFound, rfl⟩
  · rintro ⟨found, result, one, isFound, rfl⟩
    exact ⟨_, by rw [result]; rfl, item one, List.mem_map_of_mem isFound, rfl⟩

theorem mem_directTargets_item {id : ItemId} {decl : Decl} :
    decl ∈ env.directTargets (.item id) ↔
      ∃ position ∈ env.supertypePositions id, ∃ found, position.outcome = .ok found ∧
        ∃ supertype ∈ found, decl = .item supertype.item := by
  simp only [directTargets, List.mem_flatMap, mem_targetsOf_map]

theorem mem_directTargets_parameter {param : TypeParameter} {decl : Decl} :
    decl ∈ env.directTargets (.parameter param) ↔
      ∃ found, (env.supertypesOfParameter param true).outcome = .ok found ∧
        ∃ reference ∈ found, decl = .item reference.item := by
  simp only [directTargets, mem_targetsOf_map]

/-- The references that a lenient look at some bounds finds are those of the
bounds that convert to one. -/
theorem mem_admitBounds {site : TypeSite} {bounds : List ClassExpr} {found : List Reference}
    (done : (env.admitBounds site true bounds).outcome = .ok found) {reference : Reference} :
    reference ∈ found ↔ ∃ bound ∈ bounds, ∃ type,
      (env.convertClassAt site bound).outcome = .ok type ∧ type.reference? = some reference := by
  induction bounds generalizing found with
  | nil =>
      cases done
      simp
  | cons bound rest ih =>
      rw [admitBounds, Traced.outcome_bind, Traced.outcome_attempt] at done
      simp only [Except.bind] at done
      cases here : (env.convertClassAt site bound).outcome with
      | ok type =>
          simp only [here, Traced.outcome_bind] at done
          cases later : (env.admitBounds site true rest).outcome with
          | error fault => simp [later, Except.bind] at done
          | ok more =>
              simp only [later, Except.bind, Traced.outcome_pure, Except.ok.injEq] at done
              subst done
              simp [here, ih later]
      | error fault =>
          simp only [here, Bool.true_and] at done
          cases unresolved : fault.isUnresolved with
          | false => simp [unresolved] at done
          | true =>
              simp only [unresolved, if_true, Traced.outcome_bind, Traced.outcome_report,
                Except.bind] at done
              simp [here, ih done]

theorem directSupertype_item_iff {id : ItemId} {decl : Decl} :
    env.DirectSupertype (.item id) decl ↔ decl ∈ env.directTargets (.item id) := by
  rw [mem_directTargets_item]
  constructor
  · intro step
    cases step with
    | @superPosition _ supertype resolves =>
        refine ⟨_, List.mem_cons_self, [supertype], ?_, supertype, List.mem_singleton_self _, rfl⟩
        simp [resolves, Except.map]
    | @interface _ clause supertype written resolves =>
        refine ⟨_, List.mem_cons_of_mem _ (List.mem_map_of_mem written), [supertype], ?_, supertype,
          List.mem_singleton_self _, rfl⟩
        simp [resolves, Except.map]
  · rintro ⟨position, listed, found, result, supertype, member, rfl⟩
    rcases List.mem_cons.mp listed with rfl | clausePosition
    · rw [bind_pure_comp, Traced.outcome_map] at result
      obtain ⟨inPosition, resolves, rfl⟩ := Except.map_eq_ok result
      have isSupertype : inPosition = some supertype := by simpa using member
      exact .superPosition (isSupertype ▸ resolves)
    · obtain ⟨clause, written, rfl⟩ := List.mem_map.mp clausePosition
      rw [bind_pure_comp, Traced.outcome_map] at result
      obtain ⟨denoted, resolves, rfl⟩ := Except.map_eq_ok result
      have same : supertype = denoted := List.mem_singleton.mp member
      exact .interface written (same ▸ resolves)

theorem directSupertype_parameter_iff (constructed : env.Constructed) (inTree : env.InTree)
    {param : TypeParameter} (inside : param.owner.item < env.tree.size) {decl : Decl} :
    env.DirectSupertype (.parameter param) decl ↔ decl ∈ env.directTargets (.parameter param) := by
  rw [mem_directTargets_parameter]
  obtain ⟨bounds, looked⟩ :=
    (firm_admitBounds constructed.wellFormed (typeSite_lt inside)
      (env.tree.param param).bounds).total inTree
  have outcome : (env.supertypesOfParameter param true).outcome =
      .ok (if bounds.isEmpty then [env.rawReference env.object] else bounds) := by
    simp [supertypesOfParameter, looked, Except.map]
  rw [outcome]
  cases bounds with
  | nil =>
      have silent : ∀ bound ∈ (env.tree.param param).bounds, ∀ type,
          (env.convertClassAt param.owner.typeSite bound).outcome = .ok type →
            type.reference? = none := by
        intro bound written type resolves
        apply Option.eq_none_iff_forall_ne_some.mpr
        intro reference refers
        cases (mem_admitBounds looked).mpr ⟨bound, written, type, resolves, refers⟩
      constructor
      · intro step
        cases step with
        | @bound _ bound type reference written resolves refers =>
            rw [silent bound written type resolves] at refers
            cases refers
        | unbounded none =>
            exact ⟨_, rfl, env.rawReference env.object, List.mem_singleton_self _, rfl⟩
      · rintro ⟨found, same, reference, member, rfl⟩
        cases same
        rw [List.mem_singleton.mp member]
        exact .unbounded silent
  | cons first rest =>
      constructor
      · intro step
        cases step with
        | @bound _ bound type reference written resolves refers =>
            exact ⟨_, rfl, reference,
              (mem_admitBounds looked).mpr ⟨bound, written, type, resolves, refers⟩, rfl⟩
        | unbounded none =>
            have isFirst : first ∈ first :: rest := List.mem_cons_self
            obtain ⟨bound, written, type, resolves, refers⟩ := (mem_admitBounds looked).mp isFirst
            rw [none bound written type resolves] at refers
            cases refers
      · rintro ⟨found, same, reference, member, rfl⟩
        cases same
        obtain ⟨bound, written, type, resolves, refers⟩ := (mem_admitBounds looked).mp member
        exact .bound written resolves refers

/-- The search enters just the direct supertypes of a declaration. -/
theorem directSupertype_iff (constructed : env.Constructed) (inTree : env.InTree)
    {decl other : Decl} (declares : env.tree.Declares decl) :
    env.DirectSupertype decl other ↔ other ∈ env.directTargets decl := by
  cases decl with
  | item id => exact directSupertype_item_iff
  | parameter param => exact directSupertype_parameter_iff constructed inTree declares.1

/-- The direct supertypes of a declaration are items of the tree. -/
theorem directTargets_within (constructed : env.Constructed) {decl other : Decl}
    (declares : env.tree.Declares decl) (member : other ∈ env.directTargets decl) :
    ∃ id : Nat, id < env.tree.size ∧ other = .item id := by
  cases decl with
  | item id =>
      obtain ⟨position, listed, found, result, supertype, isFound, rfl⟩ :=
        mem_directTargets_item.mp member
      exact ⟨_, (soft_position constructed declares listed).good found result supertype isFound,
        rfl⟩
  | parameter param =>
      obtain ⟨found, result, reference, isFound, rfl⟩ := mem_directTargets_parameter.mp member
      exact ⟨_, (firm_supertypesOfParameter constructed declares.1).good found result reference
        isFound, rfl⟩

/-! ## The search -/

/-- What the search from a declaration can meet: that declaration and items. -/
def Meets (env : Environment) (start decl : Decl) : Prop :=
  decl = start ∨ ∃ id : Nat, id < env.tree.size ∧ decl = .item id

theorem Meets.declares {start decl : Decl} (meets : env.Meets start decl)
    (declares : env.tree.Declares start) : env.tree.Declares decl := by
  rcases meets with rfl | ⟨id, inside, rfl⟩
  · exact declares
  · exact inside

theorem region_meets (constructed : env.Constructed) {start : Decl}
    (declares : env.tree.Declares start) :
    Search.Region env.tree.qualifiedNameOf env.directTargets (env.Meets start)
      (env.tree.qualifiedNameOf start :: env.tree.ids.map env.tree.qualifiedName) where
  within decl meets next member :=
    .inr (directTargets_within constructed (meets.declares declares) member)
  listed decl meets := by
    rcases meets with rfl | ⟨id, inside, rfl⟩
    · exact List.mem_cons_self
    · refine List.mem_cons_of_mem _ (List.mem_map.mpr ⟨id, ?_, rfl⟩)
      exact List.mem_range.mpr inside

/-- What following one of the edges of the search leads to. -/
def leads : Except Fault ItemId → Option Decl
  | .ok id => some (.item id)
  | .error _ => none

theorem filterMap_leads_positionEdges (outcomes : List (Except Fault (List ItemId))) :
    (positionEdges outcomes).filterMap leads = outcomes.flatMap targetsOf := by
  rw [positionEdges, List.filterMap_flatMap]
  congr 1
  funext outcome
  cases outcome with
  | error fault => rfl
  | ok targets =>
      rw [List.filterMap_map]
      exact congrFun (List.filterMap_eq_map (f := Decl.item)) targets

/-- The outcomes of computations that are made without giving up. -/
theorem outcome_mapM_attempt {α β : Type} (runs : List (Traced α)) (change : α → β) :
    (runs.mapM fun run : Traced α => do
      let outcome ← run.attempt
      pure (outcome.map change)).outcome =
        .ok (runs.map fun run => run.outcome.map change) := by
  induction runs with
  | nil => rfl
  | cons run rest ih =>
      rw [List.mapM_cons, Traced.outcome_bind, Traced.outcome_bind]
      simp only [Traced.outcome_attempt, Except.bind, Traced.outcome_pure, Traced.outcome_bind, ih,
        List.map_cons]

/-- The outcomes that the edges out of a declaration are made of. -/
def positionOutcomes (env : Environment) : Decl → List (Except Fault (List ItemId))
  | .item id =>
      (env.supertypePositions id).map fun position =>
        position.outcome.map fun found => found.map Supertype.item
  | .parameter param =>
      [(env.supertypesOfParameter param true).outcome.map fun found => found.map Reference.item]

theorem outcome_positionTargets (decl : Decl) :
    (env.positionTargets false decl).outcome = .ok (env.positionOutcomes decl) := by
  cases decl with
  | item id => exact outcome_mapM_attempt _ _
  | parameter param => rfl

theorem directTargets_eq (decl : Decl) :
    env.directTargets decl = (env.positionOutcomes decl).flatMap targetsOf := by
  cases decl with
  | item id => simp [directTargets, positionOutcomes, List.flatMap_map]
  | parameter param => simp [directTargets, positionOutcomes]

/-- A position that gives up does so for want of a name. -/
theorem unresolved_of_mem_positionOutcomes (constructed : env.Constructed) (inTree : env.InTree)
    {decl : Decl} (declares : env.tree.Declares decl) {fault : Fault}
    (member : .error fault ∈ env.positionOutcomes decl) : fault.isUnresolved = true := by
  cases decl with
  | item id =>
      obtain ⟨position, listed, failed⟩ := List.mem_map.mp member
      exact (soft_position constructed declares listed).soft inTree fault
        (Except.map_eq_error failed)
  | parameter param =>
      obtain ⟨found, result⟩ := (firm_supertypesOfParameter constructed declares.1).total inTree
      simp [positionOutcomes, result, Except.map] at member

section

variable {target : String} {strict : Bool} {decl : Decl}

/-- An edge to an item of the tree leads to the item. -/
theorem outcome_enter_item {id : ItemId} (inside : id < env.tree.size) :
    ((env.supertypeSearch target strict).enter decl (.ok id)).outcome =
      .ok (some (.item id)) := by
  simp [supertypeSearch, outcome_known inside, Except.map]

/-- A fault that is passed over leads nowhere. -/
theorem outcome_enter_passed {fault : Fault} (lenient : strict = false)
    (unresolved : fault.isUnresolved = true) :
    ((env.supertypeSearch target strict).enter decl (.error fault)).outcome = .ok none := by
  simp [supertypeSearch, lenient, unresolved]

/-- A fault that is not passed over ends the search. -/
theorem outcome_enter_kept {fault : Fault}
    (kept : strict = true ∨ fault.isUnresolved = false) :
    ((env.supertypeSearch target strict).enter decl (.error fault)).outcome = .error fault := by
  rcases kept with isStrict | hard
  · simp [supertypeSearch, isStrict]
  · simp [supertypeSearch, hard]

end

/-- A search that passes over all faults of positions enters, from each
declaration, its direct supertypes. -/
theorem mirrors_of_passes (constructed : env.Constructed) {strict : Bool} (target : String)
    {start : Decl} (declares : env.tree.Declares start)
    (outcomes : ∀ decl, env.Meets start decl →
      (env.positionTargets strict decl).outcome = .ok (env.positionOutcomes decl))
    (passes : ∀ decl, env.Meets start decl → ∀ fault, .error fault ∈ env.positionOutcomes decl →
      strict = false ∧ fault.isUnresolved = true) :
    Search.Mirrors (env.supertypeSearch target strict)
      (fun decl => if env.tree.qualifiedNameOf decl = target then some () else none)
      env.directTargets (env.Meets start) where
  visited decl _ := rfl
  entered decl meets := by
    have here := meets.declares declares
    refine ⟨positionEdges (env.positionOutcomes decl), ?_, leads, ?_, ?_⟩
    · simp [supertypeSearch, outcomes decl meets, Except.map]
    · intro edge listed
      obtain ⟨outcome, member, within⟩ := List.mem_flatMap.mp listed
      cases outcome with
      | ok targets =>
          obtain ⟨id, isTarget, rfl⟩ := List.mem_map.mp within
          have reached : Decl.item id ∈ env.directTargets decl := by
            rw [directTargets_eq]
            exact List.mem_flatMap.mpr ⟨_, member, List.mem_map_of_mem isTarget⟩
          obtain ⟨known, inside, same⟩ := directTargets_within constructed here reached
          cases same
          exact outcome_enter_item inside
      | error fault =>
          rw [List.mem_singleton.mp within]
          obtain ⟨lenient, unresolved⟩ := passes decl meets fault member
          exact outcome_enter_passed lenient unresolved
    · rw [filterMap_leads_positionEdges, directTargets_eq]
  within := (region_meets constructed declares).within

/-- The best-effort search enters, from each declaration, its direct
supertypes. -/
theorem mirrors_supertypeSearch (constructed : env.Constructed) (inTree : env.InTree)
    (target : String) {start : Decl} (declares : env.tree.Declares start) :
    Search.Mirrors (env.supertypeSearch target false)
      (fun decl => if env.tree.qualifiedNameOf decl = target then some () else none)
      env.directTargets (env.Meets start) :=
  mirrors_of_passes constructed target declares (fun decl _ => outcome_positionTargets decl)
    fun _ meets _ member =>
      ⟨rfl, unresolved_of_mem_positionOutcomes constructed inTree (meets.declares declares) member⟩

/-- What can be met has just direct supertypes that can be met. -/
theorem meets_of_directSupertype (constructed : env.Constructed) (inTree : env.InTree)
    {start : Decl} (declares : env.tree.Declares start) (lower : Decl)
    (meets : env.Meets start lower) (upper : Decl) (step : env.DirectSupertype lower upper) :
    env.Meets start upper :=
  (region_meets constructed declares).within lower meets upper
    ((directSupertype_iff constructed inTree (meets.declares declares)).mp step)

/-- Chains of direct supertypes are paths of the search. -/
theorem reaches_iff (constructed : env.Constructed) (inTree : env.InTree) {start decl : Decl}
    (declares : env.tree.Declares start) :
    ReflTransGen env.DirectSupertype start decl ↔
      ReflTransGen (fun lower upper => upper ∈ env.directTargets lower) start decl :=
  Search.reflTransGen_iff_of_within (meets_of_directSupertype constructed inTree declares)
    (fun _ meets _ => directSupertype_iff constructed inTree (meets.declares declares)) (.inl rfl)

/-- Every declaration that a chain of direct supertypes leads to can be met. -/
theorem meets_of_reaches (constructed : env.Constructed) (inTree : env.InTree) {start decl : Decl}
    (declares : env.tree.Declares start) (chain : ReflTransGen env.DirectSupertype start decl) :
    env.Meets start decl :=
  Search.within_of_reflTransGen (meets_of_directSupertype constructed inTree declares) (.inl rfl)
    chain

/-- The best-effort test answers whether its search comes to the declaration. -/
theorem outcome_run_canBeAssignedTo (constructed : env.Constructed) (inTree : env.InTree)
    {decl : Decl} (other : Decl) (declares : env.tree.Declares decl) :
    (env.canBeAssignedTo decl other).outcome =
      .ok ((Search.plain env.tree.qualifiedNameOf
        (fun node => if env.tree.qualifiedNameOf node = env.tree.qualifiedNameOf other then some ()
          else none) env.directTargets).run env.searchDepth decl).2.isSome := by
  have ran := (mirrors_supertypeSearch constructed inTree (env.tree.qualifiedNameOf other)
    declares).outcome_run env.searchDepth (.inl rfl)
  rw [canBeAssignedTo, assignableTo, Traced.outcome_bind, ran]
  rfl

/-- The best-effort test always answers.  When names tell apart what its search
can meet, and the declaration asked about from that, it answers whether a chain
of direct supertypes leads to that declaration. -/
theorem outcome_canBeAssignedTo_of_apart (constructed : env.Constructed) (inTree : env.InTree)
    {decl other : Decl} (declares : env.tree.Declares decl)
    (apart : ∀ first second, env.Meets decl first → env.Meets decl second →
      env.tree.qualifiedNameOf first = env.tree.qualifiedNameOf second → first = second)
    (target : ∀ node, env.Meets decl node →
      env.tree.qualifiedNameOf node = env.tree.qualifiedNameOf other → node = other) :
    ∃ answer, (env.canBeAssignedTo decl other).outcome = .ok answer ∧
      (answer = true ↔ ReflTransGen env.DirectSupertype decl other) := by
  refine ⟨_, outcome_run_canBeAssignedTo constructed inTree other declares, ?_⟩
  have enough : (env.tree.qualifiedNameOf decl ::
      env.tree.ids.map env.tree.qualifiedName).length ≤ env.searchDepth := by
    simp [DeclTree.ids, searchDepth]
  refine (Search.run_answers_iff (region_meets constructed declares) (.inl rfl) enough
    apart).trans ?_
  constructor
  · rintro ⟨node, path, answers⟩
    have chain := (reaches_iff constructed inTree declares).mpr path
    have named : env.tree.qualifiedNameOf node = env.tree.qualifiedNameOf other := by
      by_contra different
      simp [different] at answers
    exact target node (meets_of_reaches constructed inTree declares chain) named ▸ chain
  · intro chain
    exact ⟨other, (reaches_iff constructed inTree declares).mp chain, by simp⟩

/-- The best-effort test always answers, and it answers whether a chain of direct
supertypes leads from one declaration to the other. -/
theorem outcome_canBeAssignedTo (constructed : env.Constructed) (inTree : env.InTree)
    (distinct : env.tree.DistinctNames) {decl other : Decl} (declares : env.tree.Declares decl)
    (declaresOther : env.tree.Declares other) :
    ∃ answer, (env.canBeAssignedTo decl other).outcome = .ok answer ∧
      (answer = true ↔ ReflTransGen env.DirectSupertype decl other) := by
  apply outcome_canBeAssignedTo_of_apart constructed inTree declares
  · intro first second meetsFirst meetsSecond
    exact distinct first second (meetsFirst.declares declares) (meetsSecond.declares declares)
  · intro node meets
    exact distinct node other (meets.declares declares) declaresOther

/-- From an item the search meets items alone, so it suffices that no two items
share a name. -/
theorem outcome_canBeAssignedTo_item (constructed : env.Constructed) (inTree : env.InTree)
    (distinct : env.tree.DistinctItems) {id other : ItemId} (inside : id < env.tree.size)
    (otherInside : other < env.tree.size) :
    ∃ answer, (env.canBeAssignedTo (.item id) (.item other)).outcome = .ok answer ∧
      (answer = true ↔ ReflTransGen env.DirectSupertype (.item id) (.item other)) := by
  have isItem : ∀ decl, env.Meets (.item id) decl →
      ∃ link : ItemId, link < env.tree.size ∧ decl = .item link := by
    rintro decl (rfl | meets)
    · exact ⟨id, inside, rfl⟩
    · exact meets
  have apart : ∀ first second, env.Meets (.item id) first → env.Meets (.item id) second →
      env.tree.qualifiedNameOf first = env.tree.qualifiedNameOf second → first = second := by
    intro first second meetsFirst meetsSecond same
    rcases isItem first meetsFirst with ⟨lower, lowerInside, rfl⟩
    rcases isItem second meetsSecond with ⟨upper, upperInside, rfl⟩
    exact congrArg Decl.item (distinct lower upper lowerInside upperInside same)
  have declares : env.tree.Declares (.item id) := inside
  apply outcome_canBeAssignedTo_of_apart constructed inTree declares apart
  intro node meets
  exact apart node (.item other) meets (.inr ⟨other, otherInside, rfl⟩)

/-- Over a source of names that keeps to the tree, and when no two declarations
share a name, the best-effort test never fails and holds just when a chain of
direct supertypes leads from one declaration to the other.  It is therefore
reflexive and transitive. -/
theorem canBeAssignedTo_iff_reaches (constructed : env.Constructed) (inTree : env.InTree)
    (distinct : env.tree.DistinctNames) :
    (∀ decl other, env.tree.Declares decl → env.tree.Declares other →
      ∃ answer, (env.canBeAssignedTo decl other).outcome = .ok answer ∧
        (answer = true ↔ ReflTransGen env.DirectSupertype decl other)) ∧
    (∀ decl, env.tree.Declares decl → (env.canBeAssignedTo decl decl).outcome = .ok true) ∧
    (∀ lower middle upper, env.tree.Declares lower → env.tree.Declares middle →
      env.tree.Declares upper → (env.canBeAssignedTo lower middle).outcome = .ok true →
      (env.canBeAssignedTo middle upper).outcome = .ok true →
      (env.canBeAssignedTo lower upper).outcome = .ok true) := by
  have reaches_of_true : ∀ decl other, env.tree.Declares decl → env.tree.Declares other →
      ((env.canBeAssignedTo decl other).outcome = .ok true ↔
        ReflTransGen env.DirectSupertype decl other) := by
    intro decl other declares declaresOther
    obtain ⟨answer, answered, iff⟩ :=
      outcome_canBeAssignedTo constructed inTree distinct declares declaresOther
    rw [answered, Except.ok.injEq]
    exact iff
  refine ⟨?_, ?_, ?_⟩
  · intro decl other declares declaresOther
    exact outcome_canBeAssignedTo constructed inTree distinct declares declaresOther
  · intro decl declares
    exact (reaches_of_true decl decl declares declares).mpr .refl
  · intro lower middle upper declaresLower declaresMiddle declaresUpper first second
    have below := (reaches_of_true lower middle declaresLower declaresMiddle).mp first
    have above := (reaches_of_true middle upper declaresMiddle declaresUpper).mp second
    exact (reaches_of_true lower upper declaresLower declaresUpper).mpr (below.trans above)

/-! ## Between types -/

/-- Between types of the tree, assignment has an answer. -/
theorem exists_assignable (constructed : env.Constructed) (inTree : env.InTree) {source target : Ty}
    (sourceWithin : source.Within env.tree) (targetWithin : target.Within env.tree) :
    ∃ answer, (env.assignable source target).outcome = .ok answer := by
  have tested : ∀ decl other, env.tree.Declares decl →
      ∃ answer, (env.canBeAssignedTo decl other).outcome = .ok answer := by
    intro decl other declares
    exact ⟨_, outcome_run_canBeAssignedTo constructed inTree other declares⟩
  fun_induction assignable env source target with
  | case9 source bound _ _ _ _ ih => exact ih sourceWithin targetWithin
  | case13 element slot _ _ ih => exact ih sourceWithin targetWithin
  | case14 component id name args =>
      rw [known_of_lt targetWithin.1, pure_bind]
      exact ⟨_, rfl⟩
  | case15 id name args slot slotName slotArgs =>
      rw [known_of_lt sourceWithin.1, known_of_lt targetWithin.1, pure_bind, pure_bind]
      exact tested (.item id) (.item slot) sourceWithin.1
  | case16 var slot name args =>
      have ownerInside : var.owner.item < env.tree.size := sourceWithin.1
      rw [known_of_lt ownerInside, known_of_lt targetWithin.1, pure_bind, pure_bind]
      exact tested (.parameter var.parameter) (.item slot) sourceWithin
  | _ => exact ⟨_, rfl⟩

/-- Two classes that extend each other, and one with a bounded type parameter
whose superclass is unknown. -/
def cyclicClasses : DeclTree :=
  .libraryWith "demo"
    [{ TypeDecl.empty .classType "Left" with extended := [.simple "Right" none] },
      { TypeDecl.empty .classType "Right" with
        extended := [.simple "Left" none]
        implemented := [.simple "Cloneable" none] },
      { TypeDecl.empty .classType "Box" with
        typeParams := [⟨"T", [.simple "Right" none]⟩]
        extended := [.simple "Unknown" none] }]

theorem constructed_cyclicClasses : (selfContained cyclicClasses).Constructed :=
  constructed_libraryWith _ _

theorem canBeAssignedTo_in_cycle :
    cyclicClasses.DistinctNames ∧
    ((selfContained cyclicClasses).canBeAssignedTo (.parameter ⟨.type 12, 0⟩)
      (.item 10)).outcome = .ok true ∧
    ReflTransGen (selfContained cyclicClasses).DirectSupertype (.parameter ⟨.type 12, 0⟩)
      (.item 10) := by
  have distinct : cyclicClasses.DistinctNames := by decide +kernel
  have answered : ((selfContained cyclicClasses).canBeAssignedTo (.parameter ⟨.type 12, 0⟩)
      (.item 10)).outcome = .ok true := by decide +kernel
  obtain ⟨answer, same, iff⟩ := (canBeAssignedTo_iff_reaches constructed_cyclicClasses
    (inTree_selfContained _) distinct).1 (.parameter ⟨.type 12, 0⟩) (.item 10)
    (DeclTree.mem_declarations.mp (by decide +kernel))
    (DeclTree.mem_declarations.mp (by decide +kernel))
  rw [answered] at same
  cases same
  exact ⟨distinct, answered, iff.mp rfl⟩

end Environment

end JavaSymbols

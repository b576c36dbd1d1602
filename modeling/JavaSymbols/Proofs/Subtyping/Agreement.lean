import JavaSymbols.Assignment
import JavaSymbols.Proofs.Subtyping.Hierarchies

/-!
# The subtype tests agree

One test walks up position by position, the other looks for a declaration among
all strict ancestors.  In an orderly hierarchy of distinctly named declarations,
none of which has a supertype nested in it, both answer whether a chain of direct
supertypes leads from one declaration to the other.

A supertype that is nested in the item itself is followed by the first test and
left out by the second.
-/

namespace JavaSymbols.Environment

open Session Relation

variable {env : Environment} {session : Session}

/-! ## Between declarations -/

/-- An item other than the start is collected just when a chain of direct
supertypes leads to it. -/
theorem mem_collected_iff (orderly : env.Orderly) (constructed : env.Constructed)
    (inTree : env.InTree) (distinct : env.tree.DistinctNames) (foreign : env.Foreign)
    {decl other : Decl} (declares : env.tree.Declares decl) :
    other ∈ env.collected decl ↔ ReflTransGen env.DirectSupertype decl other := by
  have listed : other ∈ env.collected decl ↔
      ReflTransGen (fun lower upper => upper ∈ env.ancestorTargets lower) decl other :=
    Search.mem_run_iff (atlas_ancestors constructed distinct declares) (.inl rfl)
      (length_names_le env decl)
  rw [listed]
  refine (Search.reflTransGen_iff_of_within (meets_of_directSupertype constructed inTree declares)
    ?_ (.inl rfl)).symm
  intro below meets upper
  have belowDeclares := meets.declares declares
  rw [orderly.ancestorTargets_eq constructed inTree foreign belowDeclares]
  exact directSupertype_iff constructed inTree belowDeclares

/-- From the side of the slot, an item accepts just the declarations below it. -/
theorem itemAccepts_iff (orderly : env.Orderly) (constructed : env.Constructed)
    (inTree : env.InTree) (distinct : env.tree.DistinctNames) (foreign : env.Foreign)
    (sound : session.Sound env) {id : Nat} (inside : id < env.tree.size) {other : Decl}
    (declares : env.tree.Declares other) :
    ∃ answer, (env.itemAccepts id other session).1 = .ok answer ∧
      (answer = true ↔ ReflTransGen env.DirectSupertype other (.item id)) := by
  have declaresItem : env.tree.Declares (.item id) := inside
  rw [itemAccepts]
  by_cases isObject : id = env.object
  · rw [if_pos isObject, isObject]
    exact ⟨true, rfl, fun _ => orderly.reaches_object constructed inTree declares, fun _ => rfl⟩
  rw [if_neg isObject]
  by_cases sameName : env.tree.qualifiedNameOf other = env.tree.qualifiedName id
  · rw [if_pos sameName, distinct other (.item id) declares declaresItem sameName]
    exact ⟨true, rfl, fun _ => .refl, fun _ => rfl⟩
  rw [if_neg sameName, Query.outcome_bind_pure]
  obtain ⟨references, answered, isCollected, named⟩ :=
    orderly.exists_allAncestors_strict constructed inTree sound declares
  have within : ∀ reference ∈ references, env.tree.Declares (.item reference.item) := by
    intro reference member
    have isListed : .item reference.item ∈ env.collected other := by
      rw [isCollected]
      exact List.mem_cons_of_mem other (List.mem_map_of_mem member)
    exact (meets_of_mem_collected constructed declares isListed).declares declares
  have apart : Decl.item id ≠ other := fun same => sameName (same ▸ rfl)
  have bears : ∀ reference ∈ references,
      reference.name = env.tree.qualifiedName id ↔ Decl.item reference.item = .item id := by
    intro reference member
    rw [named reference member]
    constructor
    · exact distinct _ _ (within reference member) declaresItem
    · exact fun same => congrArg env.tree.qualifiedNameOf same
  refine ⟨_, by rw [answered]; rfl, ?_⟩
  rw [← mem_collected_iff orderly constructed inTree distinct foreign declares, isCollected,
    List.mem_cons, List.mem_map, List.any_eq_true]
  constructor
  · rintro ⟨reference, member, sameName⟩
    exact .inr ⟨reference, member, (bears reference member).mp (beq_iff_eq.mp sameName)⟩
  · rintro (same | ⟨reference, member, same⟩)
    · exact absurd same apart
    · exact ⟨reference, member, beq_iff_eq.mpr ((bears reference member).mpr same)⟩

/-! ## Between types -/

/-- The types whose values can be put to both tests: the null type, references
to items of the tree, arrays, and type variables of the tree. -/
def Referential (env : Environment) : Ty → Prop
  | .null => True
  | .reference item _ _ => item < env.tree.size
  | .array _ => True
  | .typeVar var => env.tree.Declares (.parameter var.parameter)
  | _ => False

theorem assignable_null (id : Nat) :
    (env.assignable .null (env.rawReference id).toTy).outcome = .ok true := by
  simp [Reference.toTy, assignable]

theorem assignable_array {id : Nat} (inside : id < env.tree.size) (element : Ty) :
    (env.assignable (.array element) (env.rawReference id).toTy).outcome =
      .ok (env.acceptsArrays id) := by
  simp [Reference.toTy, assignable, Ty.same, rawReference, known_of_lt inside]

/-- A reference fits a raw slot if its item does. -/
theorem assignable_reference (constructed : env.Constructed) (inTree : env.InTree)
    (distinct : env.tree.DistinctNames) {item id : Nat} (itemInside : item < env.tree.size)
    (inside : id < env.tree.size) (name : String) (args : List Ty) :
    ∃ answer, (env.assignable (.reference item name args) (env.rawReference id).toTy).outcome =
        .ok answer ∧
      (answer = true ↔ ReflTransGen env.DirectSupertype (.item item) (.item id)) := by
  have tested := outcome_canBeAssignedTo constructed inTree distinct
    (show env.tree.Declares (.item item) from itemInside)
    (show env.tree.Declares (.item id) from inside)
  by_cases same : (Ty.reference item name args).same (env.rawReference id).toTy = true
  · have sameItem : item = id := by
      simp only [Reference.toTy, rawReference, Ty.same, Bool.and_eq_true, beq_iff_eq] at same
      exact same.1.1
    rw [assignable.eq_def, if_pos same, sameItem]
    exact ⟨true, rfl, fun _ => .refl, fun _ => rfl⟩
  · rw [assignable.eq_def, if_neg same]
    simpa [Reference.toTy, rawReference, known_of_lt itemInside, known_of_lt inside] using tested

/-- A type variable fits a raw slot if its type parameter does. -/
theorem assignable_typeVar (constructed : env.Constructed) (inTree : env.InTree)
    (distinct : env.tree.DistinctNames) {var : TypeVar}
    (declares : env.tree.Declares (.parameter var.parameter)) {id : Nat}
    (inside : id < env.tree.size) :
    ∃ answer, (env.assignable (.typeVar var) (env.rawReference id).toTy).outcome = .ok answer ∧
      (answer = true ↔
        ReflTransGen env.DirectSupertype (.parameter var.parameter) (.item id)) := by
  have tested := outcome_canBeAssignedTo constructed inTree distinct declares
    (show env.tree.Declares (.item id) from inside)
  have ownerInside : var.owner.item < env.tree.size := declares.1
  simpa [Reference.toTy, rawReference, assignable, Ty.same, known_of_lt ownerInside,
    known_of_lt inside] using tested

theorem declAcceptsType_reference {item : Nat} (inside : item < env.tree.size) (id : ItemId)
    (name : String) {args : List Ty} (eager : (Ty.reference item name args).isEager = true) :
    env.declAcceptsType (.item id) (.reference item name args) =
      env.itemAccepts id (.item item) := by
  rw [declAcceptsType, force_of_isEager _ eager, pure_bind]
  exact known_then inside _

theorem declAcceptsType_typeVar {var : TypeVar} (inside : var.owner.item < env.tree.size)
    (id : ItemId) :
    env.declAcceptsType (.item id) (.typeVar var) =
      env.itemAccepts id (.parameter var.parameter) := by
  rw [declAcceptsType, force_of_isEager _ rfl, pure_bind]
  exact known_then inside _

/-- Two tests that hold in the same case answer the same. -/
theorem exists_same_answer {first second : Except Fault Bool} {holds : Prop}
    (one : ∃ answer, first = .ok answer ∧ (answer = true ↔ holds))
    (other : ∃ answer, second = .ok answer ∧ (answer = true ↔ holds)) :
    ∃ answer, first = .ok answer ∧ second = .ok answer := by
  obtain ⟨answer, given, iff⟩ := one
  obtain ⟨reply, replied, iffReply⟩ := other
  have same : reply = answer := Bool.eq_iff_iff.mpr (iffReply.trans iff.symm)
  exact ⟨answer, given, same ▸ replied⟩

/-- In an orderly hierarchy of distinctly named declarations, none of which has a
supertype nested in it, and in every session that questions lead to: whether an
item accepts a declaration is what the best-effort and the strict test of the
declaration against the item answer; and whether it accepts a type without
deferred parts is whether that can be assigned to the raw item. -/
theorem subtypeTests_agree (orderly : env.Orderly) (constructed : env.Constructed)
    (inTree : env.InTree) (distinct : env.tree.DistinctNames) (foreign : env.Foreign)
    (reached : session.Reached env) {id : Nat} (inside : id < env.tree.size) :
    (∀ decl, env.tree.Declares decl → ∃ answer,
      (env.declAccepts (.item id) decl session).1 = .ok answer ∧
      (env.canBeAssignedTo decl (.item id)).outcome = .ok answer ∧
      (env.tryCanBeAssignedTo decl (.item id)).outcome = .ok answer) ∧
    ∀ type, type.isEager = true → env.Referential type → ∃ answer,
      (env.declAcceptsType (.item id) type session).1 = .ok answer ∧
      (env.isAssignable type (env.rawReference id).toTy session).1 = .ok answer := by
  have sound := (collecting_of_reached constructed reached).1.sound
  have declaresItem : env.tree.Declares (.item id) := inside
  constructor
  · intro decl declares
    have accepted := itemAccepts_iff orderly constructed inTree distinct foreign sound inside
      declares
    have tested := outcome_canBeAssignedTo constructed inTree distinct declares declaresItem
    obtain ⟨answer, accepts, answers⟩ := exists_same_answer accepted tested
    refine ⟨answer, accepts, answers, ?_⟩
    rw [orderly.outcome_tryCanBeAssignedTo constructed inTree declares, answers]
  · intro type eager referential
    rw [isAssignable_of_isEager eager rfl]
    cases type with
    | null =>
        refine ⟨true, ?_, assignable_null id⟩
        rw [declAcceptsType, force_of_isEager _ rfl]
        rfl
    | array element =>
        refine ⟨env.acceptsArrays id, ?_, assignable_array inside element⟩
        rw [declAcceptsType, force_of_isEager _ eager]
        rfl
    | reference item name args =>
        have declares : env.tree.Declares (.item item) := referential
        rw [declAcceptsType_reference declares id name eager]
        exact exists_same_answer
          (itemAccepts_iff orderly constructed inTree distinct foreign sound inside declares)
          (assignable_reference constructed inTree distinct declares inside name args)
    | typeVar var =>
        have declares : env.tree.Declares (.parameter var.parameter) := referential
        rw [declAcceptsType_typeVar declares.1 id]
        exact exists_same_answer
          (itemAccepts_iff orderly constructed inTree distinct foreign sound inside declares)
          (assignable_typeVar constructed inTree distinct declares inside)
    | _ => exact referential.elim

/-- An interface, a class that implements it, a class that extends that one, and a
class with a bounded type parameter. -/
def shapes : DeclTree :=
  .libraryWith "demo"
    [{ TypeDecl.empty .interfaceType "Shape" with typeParams := [⟨"T", []⟩] },
      { TypeDecl.empty .classType "Base" with
        typeParams := [⟨"X", []⟩]
        implemented := [.simple "Shape" (some [.named (.simple "X" none)])] },
      { TypeDecl.empty .classType "Leaf" with
        extended := [.simple "Base" (some [.named (.simple "String" none)])] },
      { TypeDecl.empty .classType "Holder" with
        typeParams := [⟨"P", [.simple "Leaf" none]⟩] }]

theorem subtypeTests_of_shapes :
    ((selfContained shapes).canBeAssignedTo (.item 12) (.item 10)).outcome = .ok true ∧
    ((selfContained shapes).tryCanBeAssignedTo (.item 12) (.item 10)).outcome = .ok true ∧
    ((selfContained shapes).isAssignable (.typeVar ⟨.type 13, 0, "P"⟩)
      ((selfContained shapes).rawReference 10).toTy .start).1 = .ok true := by
  have constructed : (selfContained shapes).Constructed := constructed_libraryWith _ _
  have orderly : (selfContained shapes).Orderly := by
    constructor
    · intro decl declares
      have resolves : ∀ decl ∈ shapes.declarations, (selfContained shapes).Resolves decl := by
        decide +kernel
      exact resolves decl (DeclTree.mem_declarations.mpr declares)
    · exact acyclic_of_ranked_candidates constructed libraryRank (by decide +kernel)
  have foreign : (selfContained shapes).Foreign := by
    unfold Foreign
    decide +kernel
  have inside : 10 < (selfContained shapes).tree.size := by decide +kernel
  have agree := subtypeTests_agree orderly constructed (inTree_selfContained _)
    (by decide +kernel) foreign .start inside
  have accepts :
      ((selfContained shapes).declAccepts (.item 10) (.item 12) .start).1 = .ok true := by
    decide +kernel
  have acceptsVar : ((selfContained shapes).declAcceptsType (.item 10)
      (.typeVar ⟨.type 13, 0, "P"⟩) .start).1 = .ok true := by decide +kernel
  obtain ⟨answer, accepted, tested, strict⟩ := agree.1 (.item 12)
    (DeclTree.mem_declarations.mp (by decide +kernel))
  have declaresVar : shapes.Declares (.parameter ⟨.type 13, 0⟩) :=
    DeclTree.mem_declarations.mp (by decide +kernel)
  obtain ⟨reply, acceptedVar, assigned⟩ := agree.2 (.typeVar ⟨.type 13, 0, "P"⟩) rfl declaresVar
  rw [accepts] at accepted
  rw [acceptsVar] at acceptedVar
  cases accepted
  cases acceptedVar
  exact ⟨tested, strict, assigned⟩

/-- A class that implements an interface that is nested in it. -/
def ownMarker : DeclTree :=
  (DeclTree.libraryWith "demo"
    [{ TypeDecl.empty .classType "Outer" with
        implemented := [.ofDotted "Outer.Marker"] }]).addMember 10
    (TypeDecl.empty .interfaceType "Marker")

/-- Among strict ancestors a nested supertype is left out, position by position
it is followed. -/
theorem subtypeTests_of_ownMarker :
    (selfContained ownMarker).Constructed ∧ ownMarker.DistinctNames ∧
    (selfContained ownMarker).Orderly ∧
    ((selfContained ownMarker).declAccepts (.item 11) (.item 10) .start).1 = .ok false ∧
    ((selfContained ownMarker).canBeAssignedTo (.item 10) (.item 11)).outcome = .ok true ∧
    ((selfContained ownMarker).tryCanBeAssignedTo (.item 10) (.item 11)).outcome = .ok true ∧
    ((selfContained ownMarker).declAcceptsType (.item 11) (.reference 10 "demo.Outer" [])
      .start).1 = .ok false ∧
    ((selfContained ownMarker).isAssignable (.reference 10 "demo.Outer" [])
      ((selfContained ownMarker).rawReference 11).toTy .start).1 = .ok true := by
  have constructed : (selfContained ownMarker).Constructed :=
    constructed_selfContained
      (.addMember (DeclTree.grownFrom_libraryWith _ _) _ _ (by decide +kernel))
  refine ⟨constructed, by decide +kernel, ?_, ?_⟩
  · constructor
    · intro decl declares
      have resolves : ∀ decl ∈ ownMarker.declarations, (selfContained ownMarker).Resolves decl := by
        decide +kernel
      exact resolves decl (DeclTree.mem_declarations.mpr declares)
    · exact acyclic_of_ranked_candidates constructed
        (fun id => if id = 11 then 1 else libraryRank id) (by decide +kernel)
  · decide +kernel

end JavaSymbols.Environment

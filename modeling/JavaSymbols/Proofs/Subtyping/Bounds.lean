import JavaSymbols.Proofs.Session.BestEffort
import JavaSymbols.Proofs.Session.Inquiries
import JavaSymbols.Proofs.Subtyping.Faults

/-!
# Type variables through their bounds

A type variable goes wherever one of its bounds goes that is a reference.  A
bound that is a type variable itself is not followed.
-/

namespace JavaSymbols.Environment

open Relation

variable {env : Environment}

/-! ## Raw slots -/

theorem assignable_raw_of_typeVar {var : TypeVar} (varInside : var.owner.item < env.tree.size)
    {id : ItemId} (inside : id < env.tree.size) :
    env.assignable (.typeVar var) (env.rawReference id).toTy =
      env.canBeAssignedTo (.parameter var.parameter) (.item id) := by
  simp [Reference.toTy, rawReference, assignable, Ty.same, known_of_lt varInside,
    known_of_lt inside]

/-- A reference goes to a raw slot when it is that type, or by the test between
their items. -/
theorem assignable_raw_of_reference {reference : Reference}
    (refInside : reference.item < env.tree.size) {id : ItemId} (inside : id < env.tree.size) :
    (reference.item = id ∧
      env.assignable reference.toTy (env.rawReference id).toTy = pure true) ∨
    env.assignable reference.toTy (env.rawReference id).toTy =
      env.canBeAssignedTo (.item reference.item) (.item id) := by
  by_cases same : reference.toTy.same (env.rawReference id).toTy = true
  · refine .inl ⟨?_, by rw [assignable.eq_def, if_pos same]⟩
    simp only [Reference.toTy, rawReference, Ty.same, Bool.and_eq_true, beq_iff_eq] at same
    exact same.1.1
  · refine .inr ?_
    rw [assignable.eq_def, if_neg same]
    simp [Reference.toTy, rawReference, known_of_lt refInside, known_of_lt inside]

/-! ## Bounds -/

/-- A raw class name outside of methods denotes the item that it is looked up as. -/
theorem outcome_convertClassAt_raw {item id : ItemId} {name : String}
    (found : (env.lookup (.body item) name).outcome = .ok (some (.item id))) :
    (env.convertClassAt ⟨item, none⟩ (.simple name none)).outcome =
      .ok (env.rawReference id).toTy := by
  simp [convertClassAt, methodParameter?, classTypeNamed, convertArgumentsAt, found, rawReference,
    Reference.toTy, Except.bind]

/-- The reference that a bound converts to is entered from its type parameter, if
the bounds can be looked at. -/
theorem mem_directTargets_of_bound {param : TypeParameter} {bound : ClassExpr} {type : Ty}
    {reference : Reference} {found : List Reference}
    (looked : (env.supertypesOfParameter param true).outcome = .ok found)
    (written : bound ∈ (env.tree.param param).bounds)
    (converts : (env.convertClassAt param.owner.typeSite bound).outcome = .ok type)
    (refers : type.reference? = some reference) :
    .item reference.item ∈ env.directTargets (.parameter param) := by
  refine mem_directTargets_parameter.mpr ⟨found, looked, reference, ?_, rfl⟩
  rw [supertypesOfParameter, Traced.outcome_bind] at looked
  obtain ⟨bounds, admitted, same⟩ := Except.bind_eq_ok looked
  have member : reference ∈ bounds :=
    (mem_admitBounds admitted).mpr ⟨bound, written, type, converts, refers⟩
  have filled : bounds.isEmpty = false := by
    cases bounds with
    | nil => cases member
    | cons _ _ => rfl
  simp only [filled, Bool.false_eq_true, if_false] at same
  cases same
  exact member

/-- The test from a type parameter ends with the fault of its bounds. -/
theorem canBeAssignedTo_of_fault {param : TypeParameter} {id : ItemId}
    (apart : env.tree.qualifiedNameOf (.parameter param) ≠ env.tree.qualifiedNameOf (.item id))
    {fault : Fault} (failed : (env.supertypesOfParameter param true).outcome = .error fault)
    (hard : fault.isUnresolved = false) :
    (env.canBeAssignedTo (.parameter param) (.item id)).outcome = .error fault := by
  let search := env.supertypeSearch (env.tree.qualifiedNameOf (.item id)) false
  have silent : (search.visit (.parameter param)).outcome = .ok none := by
    simp [search, supertypeSearch, apart]
  have listed : (search.edges (.parameter param)).outcome = .ok [.error fault] := by
    simp [search, supertypeSearch, positionTargets, failed, positionEdges, Except.map]
  have ends : (search.enter (.parameter param) (.error fault)).outcome = .error fault :=
    outcome_enter_kept (.inr hard)
  have ran : (search.run env.searchDepth (.parameter param)).outcome = .error fault :=
    Search.outcome_run_of_fault silent listed ends
  rw [canBeAssignedTo, assignableTo, Traced.outcome_bind, ran]
  rfl

/-- Wherever a reference among the bounds of a type parameter goes, the type
variable goes as well, unless the source of names answers an id outside the tree.
Then the question may end with that fault. -/
theorem isAssignable_of_bound (constructed : env.Constructed) (distinct : env.tree.DistinctNames)
    {param : TypeParameter} (declares : env.tree.Declares (.parameter param)) {bound : ClassExpr}
    (written : bound ∈ (env.tree.param param).bounds) {type : Ty}
    (converts : (env.convertClassAt param.owner.typeSite bound).outcome = .ok type)
    {reference : Reference} (refers : type.reference? = some reference) {id : ItemId}
    (inside : id < env.tree.size) {before : Session}
    (fits : (env.isAssignable type (env.rawReference id).toTy before).1 = .ok true)
    (session : Session) :
    let answer := (env.isAssignable (.typeVar (env.tree.variableOf param))
      (env.rawReference id).toTy session).1
    answer = .ok true ∨ ∃ fault, answer = .error fault ∧ env.Stray fault := by
  have declaresTarget : env.tree.Declares (.item id) := inside
  obtain ⟨eager, refWithin⟩ :=
    (soft_convertClassAt constructed.wellFormed (typeSite_lt declares.1) bound).good type converts
  have refInside := refWithin reference refers
  have declaresRef : env.tree.Declares (.item reference.item) := refInside
  obtain rfl : type = reference.toTy := by
    cases type with
    | reference item name args =>
        cases refers
        rfl
    | _ => cases refers
  rw [isAssignable_of_isEager eager rfl] at fits
  have ownerInside : (env.tree.variableOf param).owner.item < env.tree.size := declares.1
  rw [isAssignable_of_isEager rfl rfl, assignable_raw_of_typeVar ownerInside inside]
  change let answer := (env.canBeAssignedTo (.parameter param) (.item id)).outcome
    answer = .ok true ∨ ∃ fault, answer = .error fault ∧ env.Stray fault
  -- the bound goes to the target along direct supertypes
  have path : ReflTransGen (fun lower upper => upper ∈ env.directTargets lower)
      (.item reference.item) (.item id) := by
    rcases assignable_raw_of_reference refInside inside with ⟨same, _⟩ | tested
    · exact same ▸ .refl
    · rw [tested] at fits
      exact (answer_iff constructed distinct declaresRef declaresTarget fits).mp rfl
  have firm := firm_supertypesOfParameter constructed declares.1
  cases looked : (env.supertypesOfParameter param true).outcome with
  | error fault =>
      have apart : env.tree.qualifiedNameOf (.parameter param) ≠
          env.tree.qualifiedNameOf (.item id) := fun same => by
        cases distinct _ _ declares declaresTarget same
      exact .inr ⟨fault, canBeAssignedTo_of_fault apart looked (firm.hard fault looked),
        firm.stray fault looked⟩
  | ok found =>
      cases asked : (env.canBeAssignedTo (.parameter param) (.item id)).outcome with
      | error fault =>
          exact .inr ⟨fault, rfl, (firm_canBeAssignedTo constructed declares.site_lt _).stray fault
            asked⟩
      | ok answer =>
          have entered := mem_directTargets_of_bound looked written converts refers
          have reached := (answer_iff constructed distinct declares declaresTarget asked).mpr
            (path.head entered)
          exact .inl (congrArg Except.ok reached)

/-- A holder with two bounds, of which the second leads to an interface, and a
class that hands one of its type parameters down to another. -/
def narrowedClasses : DeclTree :=
  .libraryWith "demo"
    [{ TypeDecl.empty .classType "Leaf" with implemented := [.simple "Cloneable" none] },
      { TypeDecl.empty .classType "Holder" with
        typeParams := [⟨"P", [.simple "Missing" none, .simple "Leaf" none]⟩] },
      { TypeDecl.empty .classType "Sorted" with
        typeParams := [⟨"T", [.simple "Comparable" (some [.named (.simple "T" none)])]⟩,
          ⟨"U", [.simple "T" none]⟩] }]

theorem constructed_narrowedClasses : (selfContained narrowedClasses).Constructed :=
  constructed_libraryWith _ _

/-- The unknown bound is passed over, and the other leads on. -/
theorem isAssignable_holder :
    let env := selfContained narrowedClasses
    (env.lookup (.body 11) "Missing").outcome = .ok none ∧
    (env.isAssignable (env.rawReference 10).toTy (env.rawReference 3).toTy .start).1 = .ok true ∧
    (env.isAssignable (.typeVar (env.tree.variableOf ⟨.type 11, 0⟩)) (env.rawReference 3).toTy
      .start).1 = .ok true := by
  intro env
  have distinct : env.tree.DistinctNames := by decide +kernel
  have declares : env.tree.Declares (.parameter ⟨.type 11, 0⟩) :=
    DeclTree.mem_declarations.mp (by decide +kernel)
  have written : .simple "Leaf" none ∈ (env.tree.param ⟨.type 11, 0⟩).bounds := by decide +kernel
  have found : (env.lookup (.body 11) "Leaf").outcome = .ok (some (.item 10)) := by decide +kernel
  have converts := outcome_convertClassAt_raw found
  have inside : 3 < env.tree.size := by decide +kernel
  have fits : (env.isAssignable (env.rawReference 10).toTy (env.rawReference 3).toTy
      .start).1 = .ok true := by decide +kernel
  have unknown : (env.lookup (.body 11) "Missing").outcome = .ok none := by decide +kernel
  refine ⟨unknown, fits, ?_⟩
  rcases isAssignable_of_bound constructed_narrowedClasses distinct declares written converts rfl
    inside fits .start with goes | ⟨fault, _, stray⟩
  · exact goes
  · exact absurd stray ((inTree_selfContained _).not_stray fault)

/-- A bound that is a type variable is not followed. -/
theorem isAssignable_of_variable_bound :
    let env := selfContained narrowedClasses
    env.Constructed ∧ env.tree.DistinctNames ∧ env.tree.Declares (.parameter ⟨.type 12, 1⟩) ∧
    .simple "T" none ∈ (env.tree.param ⟨.type 12, 1⟩).bounds ∧
    (env.convertClassAt ⟨12, none⟩ (.simple "T" none)).outcome =
      .ok (.typeVar ⟨.type 12, 0, "T"⟩) ∧
    (env.isAssignable (.typeVar ⟨.type 12, 0, "T"⟩) (env.rawReference 2).toTy .start).1 =
      .ok true ∧
    (env.isAssignable (.typeVar (env.tree.variableOf ⟨.type 12, 1⟩)) (env.rawReference 2).toTy
      .start).1 = .ok false := by
  refine ⟨constructed_narrowedClasses, by decide +kernel, ?_, by decide +kernel, rfl,
    by decide +kernel, by decide +kernel⟩
  exact DeclTree.mem_declarations.mp (by decide +kernel)

end JavaSymbols.Environment

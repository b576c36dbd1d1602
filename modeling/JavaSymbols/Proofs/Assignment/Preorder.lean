import JavaSymbols.Proofs.Resolution.Indexed
import JavaSymbols.Proofs.Session.Inquiries

/-!
# Assignment is a preorder

Whether a value of one type fits a slot of another is decided case by case:
identical types, widening of primitive types, the null type, covariance of
arrays, the supertypes of arrays, and chains of supertypes.  `Assigns` is the
relation that these cases make up.  It is reflexive and transitive, since what
accepts all arrays has no supertypes that do not.
-/

namespace JavaSymbols

namespace Ty

/-- Types built from primitive types, the absence of a value, the null type,
references to items of a tree, and arrays.  The arguments of a reference may be
any types without deferred parts. -/
def Ground (tree : DeclTree) : Ty → Prop
  | primitive _ => True
  | void => True
  | null => True
  | reference item _ args => item < tree.size ∧ allEager args = true
  | array component => component.Ground tree
  | typeVar _ => False
  | wildcard => False
  | upperBounded _ => False
  | lowerBounded _ => False
  | deferred _ _ _ => False

theorem isEager_of_ground {tree : DeclTree} : (type : Ty) → type.Ground tree → type.isEager = true
  | reference _ _ _, ground => ground.2
  | array component, ground => isEager_of_ground component ground
  | primitive _, _ => rfl
  | void, _ => rfl
  | null, _ => rfl

mutual

/-- Without deferred parts, only equal types are the same. -/
theorem eq_of_same : (type twin : Ty) → type.isEager = true → type.same twin = true → type = twin
  | reference item name args, twin, eager, same => by
      cases twin <;> simp only [Ty.same, Bool.and_eq_true, beq_iff_eq, Bool.false_eq_true] at same
      rcases same with ⟨⟨rfl, rfl⟩, sameArgs⟩
      rw [eq_of_allSame args _ eager sameArgs]
  | array component, twin, eager, same => by
      cases twin <;> simp only [Ty.same, Bool.false_eq_true] at same
      rw [eq_of_same component _ eager same]
  | upperBounded bound, twin, eager, same => by
      cases twin <;> simp only [Ty.same, Bool.false_eq_true] at same
      rw [eq_of_same bound _ eager same]
  | lowerBounded bound, twin, eager, same => by
      cases twin <;> simp only [Ty.same, Bool.false_eq_true] at same
      rw [eq_of_same bound _ eager same]
  | deferred _ _ _, _, eager, _ => by simp [Ty.isEager] at eager
  | primitive type, twin, _, same => by
      cases twin <;> simp only [Ty.same, beq_iff_eq, Bool.false_eq_true] at same
      rw [same]
  | typeVar var, twin, _, same => by
      cases twin <;> simp only [Ty.same, beq_iff_eq, Bool.false_eq_true] at same
      rw [same]
  | void, twin, _, same => by
      cases twin <;> simp only [Ty.same, Bool.false_eq_true] at same
      rfl
  | null, twin, _, same => by
      cases twin <;> simp only [Ty.same, Bool.false_eq_true] at same
      rfl
  | wildcard, twin, _, same => by
      cases twin <;> simp only [Ty.same, Bool.false_eq_true] at same
      rfl

theorem eq_of_allSame : (types twins : List Ty) → allEager types = true →
    allSame types twins = true → types = twins
  | [], [], _, _ => rfl
  | type :: rest, twin :: others, eager, same => by
      rw [allEager, Bool.and_eq_true] at eager
      rw [allSame, Bool.and_eq_true] at same
      rw [eq_of_same type twin eager.1 same.1, eq_of_allSame rest others eager.2 same.2]

end

end Ty

namespace Environment

open Relation

/-- An item of the tree that every array fits. -/
def TakesArrays (env : Environment) (id : ItemId) : Prop :=
  id < env.tree.size ∧ env.acceptsArrays id = true

/-- Values of one type fit slots of another. -/
inductive Assigns (env : Environment) : Ty → Ty → Prop where
  | same (type : Ty) : Assigns env type type
  | widening {type slot : Primitive} (widens : type.widensTo slot = true) :
      Assigns env (.primitive type) (.primitive slot)
  | nullItem (id : ItemId) (name : String) (args : List Ty) :
      Assigns env .null (.reference id name args)
  | nullArray (slot : Ty) : Assigns env .null (.array slot)
  /-- Arrays are covariant in elements that are no primitive values. -/
  | elements {element slot : Ty} (plain : element.isPrimitive = false)
      (plainSlot : slot.isPrimitive = false) (fits : Assigns env element slot) :
      Assigns env (.array element) (.array slot)
  | arrayItem {id : ItemId} (takes : env.TakesArrays id) (element : Ty)
      (name : String) (args : List Ty) : Assigns env (.array element) (.reference id name args)
  | items {id slot : ItemId} (chain : ReflTransGen env.DirectSupertype (.item id) (.item slot))
      (name slotName : String) (args slotArgs : List Ty) :
      Assigns env (.reference id name args) (.reference slot slotName slotArgs)

variable {env : Environment}

/-- What is above an item that takes arrays takes arrays. -/
def ArraysClimb (env : Environment) : Prop :=
  ∀ id slot, env.TakesArrays id → ReflTransGen env.DirectSupertype (.item id) (.item slot) →
    env.TakesArrays slot

/-- Assignment composes. -/
theorem Assigns.trans (climb : env.ArraysClimb) {lower middle upper : Ty}
    (first : env.Assigns lower middle) (second : env.Assigns middle upper) :
    env.Assigns lower upper := by
  induction first generalizing upper with
  | same type => exact second
  | widening widens =>
      cases second with
      | same => exact .widening widens
      | widening further => exact .widening (Primitive.widensTo_trans widens further)
  | nullItem id name args =>
      cases second with
      | same => exact .nullItem id name args
      | items chain => exact .nullItem _ _ _
  | nullArray slot =>
      cases second with
      | same => exact .nullArray slot
      | elements plain plainSlot fits => exact .nullArray _
      | arrayItem takes element name args => exact .nullItem _ name args
  | elements plain plainMiddle fits ih =>
      cases second with
      | same => exact .elements plain plainMiddle fits
      | elements _ plainSlot further => exact .elements plain plainSlot (ih further)
      | arrayItem takes element name args => exact .arrayItem takes _ name args
  | arrayItem takes element name args =>
      cases second with
      | same => exact .arrayItem takes element name args
      | items chain => exact .arrayItem (climb _ _ takes chain) element _ _
  | items chain name slotName args slotArgs =>
      cases second with
      | same => exact .items chain name slotName args slotArgs
      | items further => exact .items (chain.trans further) _ _ _ _

/-- Between ground types, the test always answers, and answers whether the
relation holds. -/
theorem exists_assigns_iff (constructed : env.Constructed) (inTree : env.InTree)
    (distinct : env.tree.DistinctItems) {source target : Ty} (ground : source.Ground env.tree)
    (groundTarget : target.Ground env.tree) :
    ∃ answer, (env.assignable source target).outcome = .ok answer ∧
      (answer = true ↔ env.Assigns source target) := by
  fun_induction assignable env source target with
  | case1 target source same =>
      have equal := Ty.eq_of_same source target (Ty.isEager_of_ground source ground) same
      subst equal
      exact ⟨true, rfl, iff_of_true rfl (.same source)⟩
  | case2 type slot _ =>
      refine ⟨type.widensTo slot, rfl, .widening, ?_⟩
      intro fits
      cases fits with
      | same => exact Primitive.widensTo_self type
      | widening widens => exact widens
  | case7 target notPrimitive notVoid different =>
      cases target with
      | reference id name args => exact ⟨true, rfl, iff_of_true rfl (.nullItem id name args)⟩
      | array slot => exact ⟨true, rfl, iff_of_true rfl (.nullArray slot)⟩
      | primitive type => exact (notPrimitive type rfl).elim
      | void => exact (notVoid rfl).elim
      | null => exact (different rfl).elim
      | _ => exact groundTarget.elim
  | case12 element slot primitives different =>
      have apart : element.same slot = false := by simpa [Ty.same] using different
      refine ⟨false, by rw [apart]; rfl, iff_of_false Bool.false_ne_true ?_⟩
      intro fits
      cases fits with
      | same => simp at apart
      | elements plain plainSlot _ => simp [plain, plainSlot] at primitives
  | case13 element slot plain different ih =>
      rcases ih ground groundTarget with ⟨answer, answered, iff⟩
      rcases Bool.or_eq_false_iff.mp (Bool.not_eq_true _ ▸ plain) with ⟨plainElement, plainSlot⟩
      refine ⟨answer, answered, iff.trans ⟨.elements plainElement plainSlot, ?_⟩⟩
      intro fits
      cases fits with
      | same => exact .same element
      | elements _ _ inner => exact inner
  | case14 element id name args different =>
      rw [known_of_lt groundTarget.1, pure_bind]
      refine ⟨env.acceptsArrays id, rfl, ?_, ?_⟩
      · intro accepts
        exact .arrayItem ⟨groundTarget.1, accepts⟩ element name args
      · intro fits
        cases fits with
        | arrayItem takes => exact takes.2
  | case15 id name args slot slotName slotArgs different =>
      rw [known_of_lt ground.1, known_of_lt groundTarget.1, pure_bind, pure_bind]
      rcases outcome_canBeAssignedTo_item constructed inTree distinct ground.1 groundTarget.1 with
        ⟨answer, answered, iff⟩
      refine ⟨answer, answered, iff.trans ⟨?_, ?_⟩⟩
      · intro chain
        exact .items chain name slotName args slotArgs
      · intro fits
        cases fits with
        | same => exact .refl
        | items chain => exact chain
  | case8 | case9 | case10 | case11 => exact groundTarget.elim
  | case16 => exact ground.elim
  | case17 target source different notPrimitive _ notNull _ _ _ _ _ _ _ notArrays notArrayItem
      notItems _ =>
      refine ⟨false, rfl, iff_of_false Bool.false_ne_true ?_⟩
      intro fits
      cases fits with
      | same => simp at different
      | widening => exact notPrimitive _ rfl
      | nullItem => exact notNull rfl
      | nullArray => exact notNull rfl
      | elements => exact notArrays _ _ rfl rfl
      | arrayItem => exact notArrayItem _ _ _ _ rfl rfl
      | items => exact notItems _ _ _ _ _ _ rfl rfl
  | case3 | case4 | case5 | case6 =>
      -- Only primitive types and void are concerned, and no case of the relation is left.
      refine ⟨false, rfl, iff_of_false Bool.false_ne_true ?_⟩
      intro fits
      cases fits <;> simp_all [Ty.same]

/-! ## Over the core library -/

variable {tree : DeclTree}

open DeclTree

/-- Over the core library, arrays fit the universal base type and the two
interfaces of arrays. -/
theorem takesArrays_iff (grown : GrownFrom coreLibrary tree) (distinct : tree.DistinctItems)
    {id : ItemId} (inside : id < tree.size) :
    (indexed tree).TakesArrays id ↔ id = 0 ∨ id = 3 ∨ id = 8 := by
  have cloneable : coreLibrary.qualifiedName 3 = "java.lang.Cloneable" := by decide +kernel
  have serializable : coreLibrary.qualifiedName 8 = "java.io.Serializable" := by decide +kernel
  have named : ∀ other : ItemId, other < 10 →
      (tree.qualifiedName id = coreLibrary.qualifiedName other ↔ id = other) := by
    intro other library
    constructor
    · exact eq_of_library_name grown distinct inside library
    · rintro rfl
      exact qualifiedName_of_library grown library
  have isCloneable := named 3 (by decide)
  have isSerializable := named 8 (by decide)
  rw [cloneable] at isCloneable
  rw [serializable] at isSerializable
  simp [TakesArrays, acceptsArrays, indexed, arrayInterfaces, inside, isCloneable, isSerializable]

/-- An interface that extends nothing has the universal base type above it, and
nothing else. -/
theorem eq_object_of_bareInterface {id : ItemId}
    (isInterface : (env.tree.decl id).kind = .interfaceType)
    (bare : (env.tree.decl id).extended = []) {upper : Decl}
    (step : env.DirectSupertype (.item id) upper) : upper = .item env.object := by
  cases step with
  | superPosition resolves =>
      simp only [superPosition, isInterface, bare, List.isEmpty_nil, if_true, Traced.outcome_pure,
        Except.ok.injEq, Option.some.injEq] at resolves
      rw [← resolves]
      rfl
  | interface written => simp [interfaceClauses, isInterface, bare] at written

/-- A universal base type that implements nothing has nothing above it. -/
theorem not_directSupertype_of_bareObject (isClass : (env.tree.decl env.object).kind = .classType)
    (bare : (env.tree.decl env.object).implemented = []) {upper : Decl} :
    ¬ env.DirectSupertype (.item env.object) upper := by
  intro step
  cases step with
  | superPosition resolves => simp [superPosition, superclass, isClass] at resolves
  | interface written => simp [interfaceClauses, isClass, bare] at written

/-- Over the core library, an item that takes arrays has at most the universal
base type above it. -/
theorem eq_object_of_takesArrays (grown : GrownFrom coreLibrary tree) {id : ItemId}
    (takes : id = 0 ∨ id = 3 ∨ id = 8) {upper : Decl}
    (step : (indexed tree).DirectSupertype (.item id) upper) : id ≠ 0 ∧ upper = .item 0 := by
  have zero : (0 : ItemId) < 10 := by decide
  have bareObject : ∀ other, ¬ (indexed tree).DirectSupertype (.item 0) other := by
    intro other
    apply not_directSupertype_of_bareObject
    · exact congrArg TypeDecl.kind (decl_of_library grown zero)
    · exact congrArg TypeDecl.implemented (decl_of_library grown zero)
  have bareInterface : ∀ other : ItemId, other < 10 →
      (coreLibrary.decl other).kind = .interfaceType → (coreLibrary.decl other).extended = [] →
      (indexed tree).DirectSupertype (.item other) upper → upper = .item 0 := by
    intro other library isInterface bare
    rw [← decl_of_library grown library] at isInterface bare
    exact eq_object_of_bareInterface isInterface bare
  rcases takes with rfl | rfl | rfl
  · exact absurd step (bareObject upper)
  · exact ⟨by decide, bareInterface 3 (by decide) rfl rfl step⟩
  · exact ⟨by decide, bareInterface 8 (by decide) rfl rfl step⟩

/-- Over the core library, what is above an item that takes arrays takes
arrays. -/
theorem arraysClimb_indexed (grown : GrownFrom coreLibrary tree) (distinct : tree.DistinctItems) :
    (indexed tree).ArraysClimb := by
  have objectInside : (0 : ItemId) < tree.size := lt_size_of_library grown (by decide)
  intro id slot takes chain
  have special := (takesArrays_iff grown distinct takes.1).mp takes
  rcases chain.cases_head with same | ⟨middle, step, rest⟩
  · cases same
    exact takes
  · rcases eq_object_of_takesArrays grown special step with ⟨_, rfl⟩
    rcases rest.cases_head with same | ⟨other, further, _⟩
    · cases same
      exact (takesArrays_iff grown distinct objectInside).mpr (.inl rfl)
    · exact absurd rfl (eq_object_of_takesArrays grown (.inl rfl) further).1

/-! ## The preorder -/

/-- Between ground types, the answer does not depend on the session, and it is
whether the relation holds. -/
theorem exists_isAssignable (grown : GrownFrom coreLibrary tree) (distinct : tree.DistinctItems)
    {source target : Ty} (ground : source.Ground tree) (groundTarget : target.Ground tree) :
    ∃ answer, (∀ session, ((indexed tree).isAssignable source target session).1 = .ok answer) ∧
      (answer = true ↔ (indexed tree).Assigns source target) := by
  rcases exists_assigns_iff (constructed_indexed grown distinct) (inTree_indexed tree) distinct
    ground groundTarget with ⟨answer, answered, iff⟩
  refine ⟨answer, ?_, iff⟩
  intro session
  rw [isAssignable_of_isEager (Ty.isEager_of_ground source ground)
    (Ty.isEager_of_ground target groundTarget), answered]

theorem accepted_iff_assigns (grown : GrownFrom coreLibrary tree) (distinct : tree.DistinctItems)
    {source target : Ty} (ground : source.Ground tree) (groundTarget : target.Ground tree)
    (session : Session) :
    ((indexed tree).isAssignable source target session).1 = .ok true ↔
      (indexed tree).Assigns source target := by
  rcases exists_isAssignable grown distinct ground groundTarget with ⟨answer, answered, iff⟩
  rw [answered session, Except.ok.injEq]
  exact iff

/-- Over a tree that has grown from the core library without two items of one
name, with the tree's index as the source of names and the standard names of
the root types, assignment between ground types is a preorder: it always has an
answer, which does not depend on the session, and the answers are reflexive and
transitive. -/
theorem assignment_is_preorder (grown : GrownFrom coreLibrary tree)
    (distinct : tree.DistinctItems) :
    (create tree (NameIndex.ofTree tree).find? .standard).outcome = .ok (indexed tree) ∧
    (∀ type : Ty, type.Ground tree → ∀ session,
      ((indexed tree).isAssignable type type session).1 = .ok true) ∧
    (∀ source target : Ty, source.Ground tree → target.Ground tree →
      ∃ answer, ∀ session, ((indexed tree).isAssignable source target session).1 = .ok answer) ∧
    (∀ lower middle upper : Ty, lower.Ground tree → middle.Ground tree → upper.Ground tree →
      ∀ session,
        ((indexed tree).isAssignable lower middle session).1 = .ok true →
        ((indexed tree).isAssignable middle upper session).1 = .ok true →
        ((indexed tree).isAssignable lower upper session).1 = .ok true) := by
  constructor
  · exact (constructed_indexed grown distinct).created
  constructor
  · intro type ground session
    exact (accepted_iff_assigns grown distinct ground ground session).mpr (.same type)
  constructor
  · intro source target ground groundTarget
    rcases exists_isAssignable grown distinct ground groundTarget with ⟨answer, answered, _⟩
    exact ⟨answer, answered⟩
  · intro lower middle upper ground groundMiddle groundUpper session first second
    have below := (accepted_iff_assigns grown distinct ground groundMiddle session).mp first
    have above := (accepted_iff_assigns grown distinct groundMiddle groundUpper session).mp second
    have climb := arraysClimb_indexed grown distinct
    exact (accepted_iff_assigns grown distinct ground groundUpper session).mpr
      (below.trans climb above)

/-- A class that can be cloned, and one that extends it. -/
def cloneableClasses : DeclTree :=
  .libraryWith "demo"
    [{ TypeDecl.empty .classType "Sheep" with implemented := [.simple "Cloneable" none] },
      { TypeDecl.empty .classType "Lamb" with extended := [.simple "Sheep" none] }]

/-- Arrays of arrays of lambs fit arrays of what can be cloned, these fit what
can be serialised, and so do the former. -/
theorem assignment_is_preorder_over_arrays :
    GrownFrom coreLibrary cloneableClasses ∧ cloneableClasses.DistinctItems ∧
    ((indexed cloneableClasses).isAssignable
        (.array (.array (.reference 11 "demo.Lamb" [])))
        (.array (.reference 3 "java.lang.Cloneable" [])) .start).1 = .ok true ∧
    ((indexed cloneableClasses).isAssignable (.array (.reference 3 "java.lang.Cloneable" []))
        (.reference 8 "java.io.Serializable" []) .start).1 = .ok true ∧
    ((indexed cloneableClasses).isAssignable
        (.array (.array (.reference 11 "demo.Lamb" [])))
        (.reference 8 "java.io.Serializable" []) .start).1 = .ok true := by
  have grown : GrownFrom coreLibrary cloneableClasses := grownFrom_addUnitOf _ _ _
  have distinct : cloneableClasses.DistinctItems := by decide +kernel
  have inside : ∀ id : ItemId, id < 12 → id < cloneableClasses.size := by decide +kernel
  have first : ((indexed cloneableClasses).isAssignable
      (.array (.array (.reference 11 "demo.Lamb" [])))
      (.array (.reference 3 "java.lang.Cloneable" [])) .start).1 = .ok true := by decide +kernel
  have second : ((indexed cloneableClasses).isAssignable
      (.array (.reference 3 "java.lang.Cloneable" []))
      (.reference 8 "java.io.Serializable" []) .start).1 = .ok true := by decide +kernel
  have composed := (assignment_is_preorder grown distinct).2.2.2
    (.array (.array (.reference 11 "demo.Lamb" [])))
    (.array (.reference 3 "java.lang.Cloneable" []))
    (.reference 8 "java.io.Serializable" [])
    ⟨inside 11 (by decide), rfl⟩ ⟨inside 3 (by decide), rfl⟩ ⟨inside 8 (by decide), rfl⟩
    .start first second
  exact ⟨grown, distinct, first, second, composed⟩

end Environment

end JavaSymbols

import JavaSymbols.Proofs.DeclTree.Clashes
import JavaSymbols.Proofs.Resolution.Variables

/-!
# Names inside type parameters

A name can be looked up from a type parameter, and it can be written as a bound of
one.  The lookup starts in the body of the item that declares the type parameter or
its method.  The bound is converted where the type parameter is declared, so that
type parameters of the method hide everything else.  Names other than these mean
the same either way; a lookup never finds a type parameter of a method.
-/

namespace JavaSymbols.Environment

variable {env : Environment} {param : TypeParameter} {name : String}

/-- The type that the bare name of a declaration stands for. -/
def bareType (env : Environment) : Decl → Ty
  | .item id => (env.rawReference id).toTy
  | .parameter param => .typeVar (env.tree.variableOf param)

/-- A bare name, converted as a bound of a type parameter. -/
def boundNamed (env : Environment) (param : TypeParameter) (name : String) : Traced Ty :=
  env.convertClassAt param.owner.typeSite (.simple name none)

/-- A name looked up from a type parameter and written as its bound means the same:
one declaration, or nothing. -/
structure MeansSame (env : Environment) (param : TypeParameter) (name : String) : Prop where
  solved : ∀ decl, (env.lookupFrom (.parameter param) name).outcome = .ok (some decl) ↔
    (env.boundNamed param name).outcome = .ok (env.bareType decl)
  unsolved : (env.lookupFrom (.parameter param) name).outcome = .ok none ↔
    ∃ missing, (env.boundNamed param name).outcome = .error (.unresolvedSymbol missing)

/-- Declarations can be told apart by the types that their names stand for. -/
theorem bareType_inj {decl other : Decl} :
    env.bareType decl = env.bareType other ↔ decl = other := by
  constructor
  · intro same
    cases decl with
    | item id =>
        cases other with
        | item twin =>
            rw [bareType, bareType, Reference.toTy, Reference.toTy, Ty.reference.injEq] at same
            exact congrArg Decl.item same.1
        | parameter _ => cases same
    | parameter param =>
        cases other with
        | item _ => cases same
        | parameter twin =>
            rw [bareType, bareType, Ty.typeVar.injEq] at same
            exact congrArg Decl.parameter (congrArg TypeVar.parameter same)
  · exact congrArg env.bareType

theorem item_typeSite (owner : ParamOwner) : owner.typeSite.item = owner.item := by
  cases owner <;> rfl

/-- A name that no type parameter of the method bears is, as a bound, what it is found
to denote. -/
theorem outcome_boundNamed (free : env.methodParameter? param.owner.typeSite name = none) :
    (env.boundNamed param name).outcome =
      (env.lookupFrom (.parameter param) name).outcome.bind fun found =>
        match found with
        | none => .error (.unresolvedSymbol name)
        | some decl => .ok (env.bareType decl) := by
  rw [boundNamed, convertClassAt, free, convertArgumentsAt]
  change (env.classTypeNamed param.owner.typeSite name (pure [])).outcome = _
  rw [classTypeNamed, Traced.outcome_bind, item_typeSite]
  change (env.lookupFrom (.parameter param) name).outcome.bind _ = _
  rcases (env.lookupFrom (.parameter param) name).outcome with fault | _ | ⟨id⟩ | ⟨own⟩
  · rfl
  · rfl
  · rfl
  · rfl

/-- The name of a type parameter of the method is, as a bound, the variable of it. -/
theorem outcome_boundNamed_of_some {sibling : TypeParameter}
    (named : env.methodParameter? param.owner.typeSite name = some sibling) :
    (env.boundNamed param name).outcome = .ok (.typeVar (env.tree.variableOf sibling)) := by
  rw [boundNamed, convertClassAt, named]
  rfl

/-- A lookup does not find the type parameters of methods. -/
theorem lookupFrom_ne_methodParameter {decl : Decl} {site : TypeSite} {sibling : TypeParameter}
    (named : env.methodParameter? site name = some sibling) :
    (env.lookupFrom decl name).outcome ≠ .ok (some (.parameter sibling)) := by
  intro found
  obtain ⟨link, _, ownedByType⟩ := introducedBy_lookup found sibling rfl
  rw [methodParameter?] at named
  cases inMethod : site.method with
  | none => simp [inMethod] at named
  | some index =>
      simp only [inMethod] at named
      obtain ⟨_, _, rfl⟩ := Option.map_eq_some_iff.mp named
      cases ownedByType

/-- A lookup that fails does not report an unresolved symbol. -/
theorem lookupFrom_ne_unresolved (wellFormed : env.tree.WellFormed)
    (declares : env.tree.Declares (.parameter param)) {missing : String} :
    (env.lookupFrom (.parameter param) name).outcome ≠ .error (.unresolvedSymbol missing) := by
  intro failed
  have hard := (firm_lookup wellFormed declares.site_lt name).hard _ failed
  cases hard

/-- A name that no type parameter of the method bears means the same either way. -/
theorem meansSame_of_free (wellFormed : env.tree.WellFormed)
    (declares : env.tree.Declares (.parameter param))
    (free : env.methodParameter? param.owner.typeSite name = none) : MeansSame env param name := by
  have bound := outcome_boundNamed free
  cases found : (env.lookupFrom (.parameter param) name).outcome with
  | error fault =>
      rw [found] at bound
      constructor
      · intro decl
        rw [found, bound]
        simp [Except.bind]
      · rw [found, bound]
        constructor
        · intro none
          cases none
        · rintro ⟨missing, unresolved⟩
          cases unresolved
          exact absurd found (lookupFrom_ne_unresolved wellFormed declares)
  | ok denoted =>
      rw [found] at bound
      cases denoted with
      | none =>
          constructor
          · intro decl
            rw [found, bound]
            simp [Except.bind]
          · rw [found, bound]
            exact ⟨fun _ => ⟨name, rfl⟩, fun _ => rfl⟩
      | some decl =>
          constructor
          · intro other
            rw [found, bound]
            simp [Except.bind, bareType_inj]
          · rw [found, bound]
            simp [Except.bind]

/-- A type parameter of a type is found under its name from the others, unless the
type has that name itself. -/
theorem outcome_lookupFrom_sibling {id : ItemId} (inside : id < env.tree.size)
    (owned : param.owner = .type id) {sibling : TypeParameter}
    (named : env.tree.parameterNamed? (.type id) name = some sibling)
    (dotFree : '.' ∉ name.toList) (other : name ≠ env.tree.simpleName id) :
    (env.lookupFrom (.parameter param) name).outcome = .ok (some (.parameter sibling)) := by
  have notOwnName : [name] ≠ Dotted.split (env.tree.simpleName id) := by
    intro same
    apply other
    rw [← Dotted.join_split (env.tree.simpleName id), ← same, Dotted.join_singleton]
  have denoted : env.tree.denotedIn? id [name] = some (.parameter sibling) := by
    rw [DeclTree.denotedIn?, if_neg notOwnName]
    simp [DeclTree.visible?, named]
  have first : (env.tree.readingsIn id [name]).findSome? (env.tree.denotedIn? id) =
      some (.parameter sibling) := by
    rw [DeclTree.readingsIn, List.length_singleton, readings, List.findSome?_cons, denoted]
  have site : (Decl.parameter param).site = id := by rw [Decl.site, owned]; rfl
  rw [lookupFrom, site, lookup, known_of_lt inside, pure_bind, Dotted.split_of_dotFree dotFree,
    DeclTree.chain, lookupOutward]
  simp only [first]
  rfl

/-- A name means the same looked up from a type parameter and written as its bound,
unless a type parameter of the method that declares it has that name.  From the type
parameters of a type both ways lead to those of them with other names than the type.
From the type parameters of a method only the bound leads to the others; the lookup
never does. -/
theorem meansSame_iff (constructed : env.Constructed)
    (declares : env.tree.Declares (.parameter param)) (name : String) :
    (MeansSame env param name ↔ env.methodParameter? param.owner.typeSite name = none) ∧
    (∀ id sibling, param.owner = .type id →
      env.tree.parameterNamed? (.type id) name = some sibling → Dotted.IsSegment name →
      name ≠ env.tree.simpleName id →
        (env.lookupFrom (.parameter param) name).outcome = .ok (some (.parameter sibling)) ∧
        (env.boundNamed param name).outcome = .ok (env.bareType (.parameter sibling))) ∧
    ∀ sibling, env.methodParameter? param.owner.typeSite name = some sibling →
      (env.lookupFrom (.parameter param) name).outcome ≠ .ok (some (.parameter sibling)) ∧
      (env.boundNamed param name).outcome = .ok (env.bareType (.parameter sibling)) := by
  have wellFormed := constructed.wellFormed
  constructor
  · constructor
    · intro same
      cases named : env.methodParameter? param.owner.typeSite name with
      | none => rfl
      | some sibling =>
          have found := (same.solved (.parameter sibling)).mpr (outcome_boundNamed_of_some named)
          exact absurd found (lookupFrom_ne_methodParameter named)
    · exact meansSame_of_free wellFormed declares
  constructor
  · intro id sibling owned named segment other
    have inside : id < env.tree.size := by
      have declared := declares.1
      rwa [owned] at declared
    have found := outcome_lookupFrom_sibling inside owned named segment.2 other
    have free : env.methodParameter? param.owner.typeSite name = none := by rw [owned]; rfl
    exact ⟨found, ((meansSame_of_free wellFormed declares free).solved _).mp found⟩
  · intro sibling named
    exact ⟨lookupFrom_ne_methodParameter named, outcome_boundNamed_of_some named⟩

/-- A class with two type parameters and a method with two more, the second of
which is bounded by the first. -/
def boundedMethod : Environment :=
  selfContained (DeclTree.libraryWith "demo"
    [{ TypeDecl.empty .classType "A" with
      typeParams := [⟨"P", []⟩, ⟨"Q", []⟩]
      methods :=
        [⟨"m", [⟨"T", []⟩, ⟨"U", [.simple "T" none]⟩], [], .void, .publicAccess, false⟩] }])

theorem constructed_boundedMethod : boundedMethod.Constructed :=
  constructed_libraryWith _ _

/-- The type parameters of the class see each other both ways, and those of the
method see the class both ways. -/
theorem meansSame_boundedMethod :
    boundedMethod.Constructed ∧ boundedMethod.tree.Declares (.parameter ⟨.type 10, 1⟩) ∧
    boundedMethod.tree.Declares (.parameter ⟨.method 10 0, 1⟩) ∧
    (boundedMethod.lookupFrom (.parameter ⟨.type 10, 1⟩) "P").outcome =
      .ok (some (.parameter ⟨.type 10, 0⟩)) ∧
    (boundedMethod.boundNamed ⟨.type 10, 1⟩ "P").outcome =
      .ok (boundedMethod.bareType (.parameter ⟨.type 10, 0⟩)) ∧
    MeansSame boundedMethod ⟨.method 10 0, 1⟩ "A" := by
  have ofType : boundedMethod.tree.Declares (.parameter ⟨.type 10, 1⟩) := by
    constructor <;> decide +kernel
  have ofMethod : boundedMethod.tree.Declares (.parameter ⟨.method 10 0, 1⟩) := by
    constructor <;> decide +kernel
  have siblings := (meansSame_iff constructed_boundedMethod ofType "P").2.1 10 ⟨.type 10, 0⟩ rfl
    (by decide +kernel) (by decide +kernel) (by decide +kernel)
  have free := (meansSame_iff constructed_boundedMethod ofMethod "A").1.mpr (by decide +kernel)
  exact ⟨constructed_boundedMethod, ofType, ofMethod, siblings.1, siblings.2, free⟩

/-- A bound of a type parameter of a method can name another type parameter of the
method, and the lookup from it finds nothing of that name. -/
theorem not_meansSame_boundedMethod :
    boundedMethod.Constructed ∧ boundedMethod.InTree ∧
    boundedMethod.tree.Declares (.parameter ⟨.method 10 0, 1⟩) ∧
    (boundedMethod.boundsOf ⟨.method 10 0, 1⟩).outcome =
      .ok [boundedMethod.bareType (.parameter ⟨.method 10 0, 0⟩)] ∧
    (boundedMethod.lookupFrom (.parameter ⟨.method 10 0, 1⟩) "T").outcome = .ok none ∧
    ¬ MeansSame boundedMethod ⟨.method 10 0, 1⟩ "T" := by
  have bound : (boundedMethod.boundNamed ⟨.method 10 0, 1⟩ "T").outcome =
      .ok (boundedMethod.bareType (.parameter ⟨.method 10 0, 0⟩)) := rfl
  have unsolved : (boundedMethod.lookupFrom (.parameter ⟨.method 10 0, 1⟩) "T").outcome =
      .ok none := by decide +kernel
  refine ⟨constructed_boundedMethod, inTree_selfContained _, ?_, rfl, unsolved, ?_⟩
  · constructor <;> decide +kernel
  · intro same
    have found := (same.solved _).mpr bound
    rw [unsolved] at found
    cases found

end JavaSymbols.Environment

import JavaSymbols.Proofs.Ancestors.Candidates
import JavaSymbols.Proofs.Resolution.Redeclared
import JavaSymbols.Proofs.Subtyping.Reachability

/-!
# Subtyping without type arguments

The type arguments of supertype clauses are put off, so they have no part in
whether one declaration can be assigned to another.  The bounds of a type
parameter are converted with their arguments, and a bound with an argument that
does not resolve is left out.  So trees that differ in type arguments alone give
the same answers, for a type parameter as long as each of its bounds converts in
both trees or in neither.
-/

namespace JavaSymbols

/-! ## Raw declarations -/

/-- A class type without any type arguments. -/
def ClassExpr.raw : ClassExpr → ClassExpr
  | simple name _ => simple name none
  | within scope name _ => within scope.raw name none

@[simp]
theorem ClassExpr.name_raw (type : ClassExpr) : type.raw.name = type.name := by
  cases type <;> rfl

@[simp]
theorem ClassExpr.dotted_raw (type : ClassExpr) : type.raw.dotted = type.dotted := by
  induction type using ClassExpr.dotted.induct with
  | case1 => rfl
  | case2 scope name args ih => rw [raw, dotted, dotted, ih]

/-- A type parameter with raw bounds. -/
def TypeParam.raw (param : TypeParam) : TypeParam :=
  { param with bounds := param.bounds.map ClassExpr.raw }

/-- A method whose type parameters have raw bounds. -/
def MethodDecl.raw (method : MethodDecl) : MethodDecl :=
  { method with typeParams := method.typeParams.map TypeParam.raw }

/-- A declaration without type arguments in its supertype clauses and in the
bounds of its type parameters and those of its methods. -/
def TypeDecl.raw (decl : TypeDecl) : TypeDecl :=
  { decl with
    typeParams := decl.typeParams.map TypeParam.raw
    extended := decl.extended.map ClassExpr.raw
    implemented := decl.implemented.map ClassExpr.raw
    methods := decl.methods.map MethodDecl.raw }

/-- Names are no type arguments. -/
theorem keepsNames_raw : DeclTree.KeepsNames TypeDecl.raw where
  missing := rfl
  name _ := rfl
  params decl := by simp [TypeDecl.raw, TypeParam.raw]
  methods decl := by simp [TypeDecl.raw, MethodDecl.raw, TypeParam.raw]

theorem DeclTree.paramsOf_raw (tree : DeclTree) (owner : ParamOwner) :
    (tree.redeclare TypeDecl.raw).paramsOf owner = (tree.paramsOf owner).map TypeParam.raw := by
  cases owner with
  | type id => rw [paramsOf, decl_redeclare keepsNames_raw, paramsOf, TypeDecl.raw]
  | method id index =>
      rw [paramsOf, decl_redeclare keepsNames_raw, paramsOf, TypeDecl.raw]
      cases written : (tree.decl id).methods[index]? with
      | none => simp [written]
      | some method => simp [written, MethodDecl.raw]

theorem DeclTree.bounds_raw (tree : DeclTree) (param : TypeParameter) :
    ((tree.redeclare TypeDecl.raw).param param).bounds =
      (tree.param param).bounds.map ClassExpr.raw := by
  rw [DeclTree.param, paramsOf_raw, DeclTree.param]
  cases written : (tree.paramsOf param.owner)[param.index]? with
  | none =>
      simp only [List.getElem?_map, written, Option.map_none, Option.getD_none]
      rfl
  | some found => simp [written, TypeParam.raw]

namespace Environment

variable {env : Environment}

/-! ## Clauses -/

theorem clauseTarget_raw (id : ItemId) (clause : ClassExpr) :
    (env.redeclare TypeDecl.raw).clauseTarget id clause.raw = env.clauseTarget id clause := by
  rw [clauseTarget, clauseTarget, lookup_redeclare keepsNames_raw, ClassExpr.dotted_raw]
  congr 1
  funext found
  cases found with
  | some decl => cases clause <;> rfl
  | none =>
      cases clause with
      | simple name args => rfl
      | within scope name args =>
          simp only [ClassExpr.raw, ClassExpr.scope?, lookup_redeclare keepsNames_raw,
            ClassExpr.name_raw]
          rfl

/-- A clause leads to the same item without its arguments. -/
theorem item_clauseSupertype_raw (id : ItemId) (clause : ClassExpr) :
    ((env.redeclare TypeDecl.raw).clauseSupertype id clause.raw).outcome.map Supertype.item =
      (env.clauseSupertype id clause).outcome.map Supertype.item := by
  simp only [clauseSupertype, clauseTarget_raw, Traced.outcome_bind]
  cases (env.clauseTarget id clause).outcome with
  | error fault => rfl
  | ok found =>
      rcases found with _ | ⟨_ | _⟩
      · simp [Except.bind, Except.map]
      · rfl
      · simp [Except.bind, Except.map]

theorem item_rootSupertype_raw (name : String) (args : List SupertypeArg) :
    ((env.redeclare TypeDecl.raw).rootSupertype name args).outcome.map Supertype.item =
      (env.rootSupertype name args).outcome.map Supertype.item := by
  simp only [rootSupertype, declaration_redeclare, solve_redeclare]
  cases env.solve name with
  | none => rfl
  | some id => cases outcome : (env.declaration id).outcome <;> simp [outcome, Except.map]

/-! ## Positions -/

theorem decl_raw (id : ItemId) :
    (env.redeclare TypeDecl.raw).tree.decl id = (env.tree.decl id).raw :=
  DeclTree.decl_redeclare keepsNames_raw id

/-- The item of a supertype that stands in a position is that of the supertype. -/
theorem item_some (run : Traced Supertype) :
    (do
      let supertype ← run
      pure (some supertype) : Traced (Option Supertype)).outcome.map (Option.map Supertype.item) =
      (run.outcome.map Supertype.item).map some := by
  cases outcome : run.outcome <;> simp [outcome, Except.map]

theorem item_superclass_raw (id : ItemId) :
    ((env.redeclare TypeDecl.raw).superclass id).outcome.map (Option.map Supertype.item) =
      (env.superclass id).outcome.map (Option.map Supertype.item) := by
  simp only [superclass, decl_raw, TypeDecl.raw]
  cases (env.tree.decl id).kind with
  | classType =>
      by_cases isObject : id = env.object
      · simp [isObject, redeclare, onTree]
      · have isOther : ¬ id = (env.redeclare TypeDecl.raw).object := isObject
        simp only [if_neg isObject, if_neg isOther]
        cases (env.tree.decl id).extended with
        | nil => rfl
        | cons clause rest =>
            simp only [List.map_cons]
            rw [item_some, item_some, item_clauseSupertype_raw]
  | enumType =>
      simp only
      rw [item_some, item_some]
      exact congrArg (Except.map some) (item_rootSupertype_raw env.roots.enumBase [.self])
  | recordType => rfl
  | interfaceType => rfl
  | annotationType => rfl

/-- What stands in the position of the superclass is the same item. -/
theorem item_superPosition_raw (id : ItemId) :
    ((env.redeclare TypeDecl.raw).superPosition id).outcome.map (Option.map Supertype.item) =
      (env.superPosition id).outcome.map (Option.map Supertype.item) := by
  have asClass : ((env.redeclare TypeDecl.raw).superclass id).outcome.map
      (Option.map Supertype.item) =
        (env.superclass id).outcome.map (Option.map Supertype.item) := item_superclass_raw id
  simp only [superPosition, decl_raw, TypeDecl.raw]
  cases (env.tree.decl id).kind with
  | interfaceType =>
      cases (env.tree.decl id).extended with
      | nil => rfl
      | cons clause rest => rfl
  | annotationType =>
      simp only
      rw [item_some, item_some]
      exact congrArg (Except.map some) (item_rootSupertype_raw env.roots.annotationBase [])
  | classType => exact asClass
  | enumType => exact asClass
  | recordType => exact asClass

theorem interfaceClauses_raw (id : ItemId) :
    (env.redeclare TypeDecl.raw).interfaceClauses id =
      (env.interfaceClauses id).map ClassExpr.raw := by
  simp only [interfaceClauses, decl_raw, TypeDecl.raw]
  cases (env.tree.decl id).kind <;> rfl

/-- All supertype positions of an item lead to the same items, or fail with the
same faults. -/
theorem positionOutcomes_item_raw (id : ItemId) :
    (env.redeclare TypeDecl.raw).positionOutcomes (.item id) = env.positionOutcomes (.item id) := by
  have ofOption : ∀ run : Traced (Option Supertype),
      (do
        let supertype ← run
        pure supertype.toList : Traced (List Supertype)).outcome.map
          (fun found => found.map Supertype.item) =
        (run.outcome.map (Option.map Supertype.item)).map Option.toList := by
    intro run
    rcases outcome : run.outcome with fault | _ | supertype <;> simp [outcome, Except.map]
  have ofClause : ∀ run : Traced Supertype,
      (do
        let supertype ← run
        pure [supertype] : Traced (List Supertype)).outcome.map
          (fun found => found.map Supertype.item) =
        (run.outcome.map Supertype.item).map fun item => [item] := by
    intro run
    cases outcome : run.outcome <;> simp [outcome, Except.map]
  simp only [positionOutcomes, supertypePositions, List.map_cons, List.map_map,
    interfaceClauses_raw, Function.comp_def, ofOption, ofClause, item_superPosition_raw,
    item_clauseSupertype_raw]

theorem directTargets_item_raw (id : ItemId) :
    (env.redeclare TypeDecl.raw).directTargets (.item id) = env.directTargets (.item id) := by
  rw [directTargets_eq, directTargets_eq, positionOutcomes_item_raw]

/-! ## Bounds -/

/-- A bound that converts refers to the same item without its arguments. -/
theorem item_bound_raw {site : TypeSite} {bound : ClassExpr} {type : Ty}
    (converts : (env.convertClassAt site bound).outcome = .ok type) :
    ∃ other, ((env.redeclare TypeDecl.raw).convertClassAt site bound.raw).outcome = .ok other ∧
      other.reference?.map Reference.item = type.reference?.map Reference.item := by
  have named : ∀ name args, (env.classTypeNamed site name args).outcome = .ok type →
      ∃ other, ((env.redeclare TypeDecl.raw).classTypeNamed site name (pure [])).outcome =
          .ok other ∧ other.reference?.map Reference.item = type.reference?.map Reference.item := by
    intro name args given
    rw [classTypeNamed, Traced.outcome_bind] at given
    rw [classTypeNamed, Traced.outcome_bind, lookup_redeclare keepsNames_raw]
    cases found : (env.lookup (.body site.item) name).outcome with
    | error fault => simp [found, Except.bind] at given
    | ok denoted =>
        rcases denoted with _ | ⟨id | param⟩
        · simp [found, Except.bind] at given
        · simp only [found, Except.bind, Traced.outcome_bind] at given ⊢
          cases converted : args.outcome with
          | error fault => simp [converted] at given
          | ok values =>
              simp only [converted, Traced.outcome_pure, Except.ok.injEq] at given
              subst given
              exact ⟨_, rfl, rfl⟩
        · simp only [found, Except.bind, Traced.outcome_pure, Except.ok.injEq] at given
          subst given
          exact ⟨_, rfl, rfl⟩
  cases bound with
  | simple name args =>
      rw [convertClassAt] at converts
      rw [ClassExpr.raw, convertClassAt, methodParameter?_redeclare keepsNames_raw]
      cases hidden : env.methodParameter? site name with
      | some param =>
          simp only [hidden, Traced.outcome_pure, Except.ok.injEq] at converts
          subst converts
          exact ⟨_, rfl, rfl⟩
      | none =>
          simp only [hidden] at converts
          exact named name _ converts
  | within scope name args =>
      rw [convertClassAt] at converts
      rw [ClassExpr.raw, convertClassAt, ClassExpr.dotted_raw]
      exact named _ _ converts

/-- The item that a bound refers to, if it converts to a reference. -/
def boundItem (env : Environment) (site : TypeSite) (bound : ClassExpr) : Option ItemId :=
  ((env.convertClassAt site bound).outcome.toOption.bind Ty.reference?).map Reference.item

/-- A type parameter leads to the items that its bounds refer to, or to the
universal base type if there are none. -/
theorem directTargets_parameter_eq (wellFormed : env.tree.WellFormed) (inTree : env.InTree)
    {param : TypeParameter} (inside : param.owner.item < env.tree.size) :
    env.directTargets (.parameter param) =
      (if ((env.tree.param param).bounds.filterMap (env.boundItem param.owner.typeSite)).isEmpty
        then [env.object]
        else (env.tree.param param).bounds.filterMap (env.boundItem param.owner.typeSite)).map
          Decl.item := by
  have items : (env.tree.param param).bounds.filterMap (env.boundItem param.owner.typeSite) =
      (((env.boundOutcomes param).filterMap Except.toOption).filterMap Ty.reference?).map
        Reference.item := by
    rw [boundOutcomes, List.filterMap_map, List.filterMap_filterMap, List.map_filterMap]
    rfl
  rw [directTargets, (outcome_supertypesOfParameter wellFormed inTree inside).1, items,
    List.isEmpty_map]
  unfold boundsOrObject
  split <;> rfl

/-- Each bound of a type parameter converts in both environments or in neither. -/
def ConvertsAlike (env twin : Environment) (param : TypeParameter) : Prop :=
  (env.boundOutcomes param).map Except.toBool = (twin.boundOutcomes param).map Except.toBool

/-- Bounds that differ in type arguments alone refer to the same item when both
convert, and to none when neither does. -/
theorem boundItem_eq {twin : Environment}
    (alike : twin.redeclare TypeDecl.raw = env.redeclare TypeDecl.raw) {site : TypeSite}
    {bound other : ClassExpr} (sameRaw : bound.raw = other.raw)
    (converts : (env.convertClassAt site bound).outcome.toBool =
      (twin.convertClassAt site other).outcome.toBool) :
    env.boundItem site bound = twin.boundItem site other := by
  cases here : (env.convertClassAt site bound).outcome with
  | error fault =>
      cases there : (twin.convertClassAt site other).outcome with
      | error cause => simp [boundItem, here, there, Except.toOption]
      | ok type => simp [here, there, Except.toBool] at converts
  | ok type =>
      cases there : (twin.convertClassAt site other).outcome with
      | error cause => simp [here, there, Except.toBool] at converts
      | ok otherType =>
          rcases item_bound_raw here with ⟨rawType, isRaw, sameItem⟩
          rcases item_bound_raw there with ⟨rawOther, isRawOther, sameOther⟩
          rw [alike, ← sameRaw, isRaw] at isRawOther
          cases isRawOther
          simp [boundItem, here, there, Except.toOption, ← sameItem, ← sameOther]

theorem filterMap_boundItem_eq {twin : Environment}
    (alike : twin.redeclare TypeDecl.raw = env.redeclare TypeDecl.raw) {site : TypeSite}
    {bounds others : List ClassExpr}
    (sameRaw : bounds.map ClassExpr.raw = others.map ClassExpr.raw)
    (converts : (bounds.map fun bound => (env.convertClassAt site bound).outcome.toBool) =
      others.map fun bound => (twin.convertClassAt site bound).outcome.toBool) :
    bounds.filterMap (env.boundItem site) = others.filterMap (twin.boundItem site) := by
  induction bounds generalizing others with
  | nil =>
      cases others with
      | nil => rfl
      | cons other rest => simp at sameRaw
  | cons bound rest ih =>
      cases others with
      | nil => simp at sameRaw
      | cons other others =>
          simp only [List.map_cons, List.cons.injEq] at sameRaw converts
          have here := boundItem_eq alike sameRaw.1 converts.1
          have later := ih sameRaw.2 converts.2
          simp only [List.filterMap_cons, here, later]

/-! ## Trees that differ in type arguments -/

/-- Two trees are built by the same calls, from declarations that differ in the
type arguments of supertype clauses and bounds alone. -/
def SameButArguments : DeclTree → DeclTree → Prop :=
  DeclTree.BuiltAlike fun decl twin => decl.raw = twin.raw

section

variable {twin : DeclTree} (constructed : env.Constructed) (inTree : env.InTree)
  (alike : SameButArguments env.tree twin)

include alike

theorem qualifiedNameOf_onTree (decl : Decl) :
    twin.qualifiedNameOf decl = env.tree.qualifiedNameOf decl := by
  rw [← DeclTree.qualifiedNameOf_redeclare keepsNames_raw, ← alike.redeclare_eq,
    DeclTree.qualifiedNameOf_redeclare keepsNames_raw]

/-- Both trees declare the same. -/
theorem declares_onTree {decl : Decl} (declares : env.tree.Declares decl) : twin.Declares decl := by
  have sameSize : env.tree.size = twin.size := alike.both.2.2.1
  cases decl with
  | item id => exact Nat.lt_of_lt_of_le declares (Nat.le_of_eq sameSize)
  | parameter param =>
      have sameParams : (env.tree.paramsOf param.owner).map TypeParam.raw =
          (twin.paramsOf param.owner).map TypeParam.raw := by
        rw [← DeclTree.paramsOf_raw, ← DeclTree.paramsOf_raw, alike.redeclare_eq]
      have sameCount := congrArg List.length sameParams
      rw [List.length_map, List.length_map] at sameCount
      exact ⟨Nat.lt_of_lt_of_le declares.1 (Nat.le_of_eq sameSize), sameCount ▸ declares.2⟩

include constructed inTree

/-- Items lead to the same items, and so do type parameters whose bounds convert
alike. -/
theorem directTargets_onTree {decl : Decl} (inside : decl.site < env.tree.size)
    (converts : ∀ param, decl = .parameter param → env.ConvertsAlike (env.onTree twin) param) :
    env.directTargets decl = (env.onTree twin).directTargets decl := by
  have same := redeclare_onTree alike
  rcases alike.both with ⟨_, built, sameSize, _⟩
  cases decl with
  | item id => rw [← directTargets_item_raw, ← same, directTargets_item_raw]
  | parameter param =>
      have sameBounds : (env.tree.param param).bounds.map ClassExpr.raw =
          (twin.param param).bounds.map ClassExpr.raw := by
        rw [← DeclTree.bounds_raw, ← DeclTree.bounds_raw, alike.redeclare_eq]
      have convertsAlike := converts param rfl
      simp only [ConvertsAlike, boundOutcomes, List.map_map] at convertsAlike
      have sameItems := filterMap_boundItem_eq same sameBounds convertsAlike
      have insideTwin : param.owner.item < twin.size := sameSize ▸ inside
      rw [directTargets_parameter_eq constructed.wellFormed inTree inside,
        directTargets_parameter_eq built.wellFormed (inTree.onTree sameSize) insideTwin, sameItems]
      rfl

end

/-- Type arguments of supertype clauses have no part in whether one declaration
can be assigned to another: over trees built by the same calls, from
declarations that differ in type arguments alone, and over the same source of
names, the best-effort test gives the same answer.  For a type parameter, each
of its bounds has to convert in both trees or in neither. -/
theorem canBeAssignedTo_ignores_arguments (constructed : env.Constructed) (inTree : env.InTree)
    {twin : DeclTree} (alike : SameButArguments env.tree twin) {decl : Decl} (other : Decl)
    (declares : env.tree.Declares decl)
    (converts : ∀ param, decl = .parameter param → env.ConvertsAlike (env.onTree twin) param) :
    (env.onTree twin).Constructed ∧
      ∃ answer, (env.canBeAssignedTo decl other).outcome = .ok answer ∧
        ((env.onTree twin).canBeAssignedTo decl other).outcome = .ok answer := by
  rcases alike.both with ⟨_, built, sameSize, _⟩
  have constructedTwin := constructed.onTree built sameSize
  have agree : ∀ node, env.Meets decl node →
      env.directTargets node = (env.onTree twin).directTargets node := by
    rintro node (rfl | ⟨id, inside, rfl⟩)
    · exact directTargets_onTree constructed inTree alike declares.site_lt converts
    · have site : (Decl.item id).site < env.tree.size := inside
      apply directTargets_onTree constructed inTree alike site
      intro param same
      cases same
  have sameName : (env.onTree twin).tree.qualifiedNameOf = env.tree.qualifiedNameOf :=
    funext (qualifiedNameOf_onTree alike)
  have sameDepth : (env.onTree twin).searchDepth = env.searchDepth :=
    congrArg (fun size => size + 2) sameSize.symm
  have twinAnswers := outcome_run_canBeAssignedTo constructedTwin (inTree.onTree sameSize) other
    (declares_onTree alike declares)
  rw [sameName, sameDepth] at twinAnswers
  refine ⟨constructedTwin, _, ?_, twinAnswers⟩
  have ran := ((mirrors_supertypeSearch constructed inTree (env.tree.qualifiedNameOf other)
    declares).congr agree).outcome_run env.searchDepth (.inl rfl)
  rw [canBeAssignedTo, assignableTo, Traced.outcome_bind, ran]
  rfl

/-- A class whose type parameter has a bound, and one that extends the bound's
class. -/
def boundedClasses (bound superclass : ClassExpr) : DeclTree :=
  .libraryWith "demo"
    [{ TypeDecl.empty .classType "Foo" with typeParams := [⟨"X", []⟩] },
      { TypeDecl.empty .classType "Box" with typeParams := [⟨"T", [bound]⟩] },
      { TypeDecl.empty .classType "Leaf" with extended := [superclass] }]

/-- A class type with one type argument. -/
def oneArgument (name argument : String) : ClassExpr :=
  .simple name (some [.named (.simple argument none)])

theorem sameButArguments_boundedClasses {bound other superclass instead : ClassExpr}
    (sameBound : bound.raw = other.raw) (sameClause : superclass.raw = instead.raw) :
    SameButArguments (boundedClasses bound superclass) (boundedClasses other instead) := by
  have builtLibrary : DeclTree.BuiltAlike (fun decl twin : TypeDecl => decl.raw = twin.raw)
      DeclTree.coreLibrary DeclTree.coreLibrary :=
    DeclTree.built_coreLibrary.alike fun _ => rfl
  apply builtLibrary.addUnitOf
  constructor
  · rfl
  constructor
  · simp [TypeDecl.raw, TypeParam.raw, TypeDecl.empty, sameBound]
  constructor
  · simp [TypeDecl.raw, TypeDecl.empty, sameClause]
  · exact .nil

/-- The arguments of a clause may fail to resolve, and so may those of a bound as
long as they do in both trees. -/
theorem canBeAssignedTo_ignores_arguments_of_leaf :
    SameButArguments (boundedClasses (oneArgument "Leaf" "Leaf") (oneArgument "Foo" "Nope"))
      (boundedClasses (.simple "Leaf" none) (.simple "Foo" none)) ∧
    ((selfContained (boundedClasses (oneArgument "Leaf" "Leaf")
      (oneArgument "Foo" "Nope"))).canBeAssignedTo (.parameter ⟨.type 11, 0⟩)
        (.item 10)).outcome = .ok true ∧
    (((selfContained (boundedClasses (oneArgument "Leaf" "Leaf") (oneArgument "Foo" "Nope"))).onTree
      (boundedClasses (.simple "Leaf" none) (.simple "Foo" none))).canBeAssignedTo
        (.parameter ⟨.type 11, 0⟩) (.item 10)).outcome = .ok true := by
  have alike : SameButArguments
      (boundedClasses (oneArgument "Leaf" "Leaf") (oneArgument "Foo" "Nope"))
      (boundedClasses (.simple "Leaf" none) (.simple "Foo" none)) :=
    sameButArguments_boundedClasses rfl rfl
  have constructed : (selfContained
      (boundedClasses (oneArgument "Leaf" "Leaf") (oneArgument "Foo" "Nope"))).Constructed :=
    constructed_libraryWith _ _
  have declares : (boundedClasses (oneArgument "Leaf" "Leaf")
      (oneArgument "Foo" "Nope")).Declares (.parameter ⟨.type 11, 0⟩) :=
    DeclTree.mem_declarations.mp (by decide +kernel)
  have converts : (selfContained
      (boundedClasses (oneArgument "Leaf" "Leaf") (oneArgument "Foo" "Nope"))).ConvertsAlike
      ((selfContained
        (boundedClasses (oneArgument "Leaf" "Leaf") (oneArgument "Foo" "Nope"))).onTree
        (boundedClasses (.simple "Leaf" none) (.simple "Foo" none))) ⟨.type 11, 0⟩ := by
    unfold ConvertsAlike
    decide +kernel
  have answered : ((selfContained (boundedClasses (oneArgument "Leaf" "Leaf")
      (oneArgument "Foo" "Nope"))).canBeAssignedTo (.parameter ⟨.type 11, 0⟩)
        (.item 10)).outcome = .ok true := by decide +kernel
  rcases (canBeAssignedTo_ignores_arguments constructed (inTree_selfContained _) alike (.item 10)
    declares fun param same => by cases same; exact converts).2 with ⟨answer, here, there⟩
  rw [answered] at here
  cases here
  exact ⟨alike, answered, there⟩

/-- A bound with an argument that does not resolve is left out, and with it the
supertype that the same bound without the argument leads to. -/
theorem canBeAssignedTo_of_unknownArgument :
    SameButArguments (boundedClasses (oneArgument "Foo" "Nope") (.simple "Foo" none))
      (boundedClasses (.simple "Foo" none) (.simple "Foo" none)) ∧
    (selfContained (boundedClasses (oneArgument "Foo" "Nope") (.simple "Foo" none))).Constructed ∧
    (selfContained (boundedClasses (oneArgument "Foo" "Nope") (.simple "Foo" none))).InTree ∧
    (boundedClasses (oneArgument "Foo" "Nope") (.simple "Foo" none)).Declares
      (.parameter ⟨.type 11, 0⟩) ∧
    ((selfContained (boundedClasses (oneArgument "Foo" "Nope")
      (.simple "Foo" none))).canBeAssignedTo (.parameter ⟨.type 11, 0⟩)
        (.item 10)).outcome = .ok false ∧
    (((selfContained (boundedClasses (oneArgument "Foo" "Nope") (.simple "Foo" none))).onTree
      (boundedClasses (.simple "Foo" none) (.simple "Foo" none))).canBeAssignedTo
        (.parameter ⟨.type 11, 0⟩) (.item 10)).outcome = .ok true := by
  constructor
  · exact sameButArguments_boundedClasses rfl rfl
  constructor
  · exact constructed_libraryWith _ _
  constructor
  · exact inTree_selfContained _
  constructor
  · exact DeclTree.mem_declarations.mp (by decide +kernel)
  constructor
  · decide +kernel
  · decide +kernel

end Environment

end JavaSymbols

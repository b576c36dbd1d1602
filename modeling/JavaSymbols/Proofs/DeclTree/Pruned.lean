import JavaSymbols.Methods
import JavaSymbols.Proofs.DeclTree.Redeclared

/-!
# Declarations without unused lists

A declaration keeps every list as it is written, and its kind decides which of
them mean something.  Pruning drops the others.  Trees whose declarations agree in
what is used become equal by it, and all that is read off a tree stays.
-/

namespace JavaSymbols

namespace TypeDecl

/-- A declaration without the entries of lists that its kind gives no meaning. -/
def pruned (decl : TypeDecl) : TypeDecl :=
  { decl with
    extended :=
      match decl.kind with
      | .classType => decl.extended.take 1
      | .interfaceType => decl.extended
      | _ => []
    implemented :=
      match decl.kind with
      | .interfaceType | .annotationType => []
      | _ => decl.implemented
    components := if decl.kind = .recordType then decl.components else []
    constants := if decl.kind = .enumType then decl.constants else []
    constructors := if decl.kind = .recordType then [] else decl.constructors }

@[simp]
theorem kind_pruned (decl : TypeDecl) : decl.pruned.kind = decl.kind :=
  rfl

/-- Two declarations differ at most in components unless they are records, in
constants unless they are enums, in `implements` clauses if they are interfaces or
annotation types, in `extends` clauses if they are records, enums or annotation
types, in the entries of such a clause after the first if they are classes, and in
constructors if they are records. -/
structure SameUse (decl twin : TypeDecl) : Prop where
  kind : decl.kind = twin.kind
  name : decl.name = twin.name
  access : decl.access = twin.access
  typeParams : decl.typeParams = twin.typeParams
  annotations : decl.annotations = twin.annotations
  superclass : decl.kind = .classType → decl.extended.head? = twin.extended.head?
  superinterfaces : decl.kind = .interfaceType → decl.extended = twin.extended
  implemented : decl.kind ≠ .interfaceType → decl.kind ≠ .annotationType →
    decl.implemented = twin.implemented
  components : decl.kind = .recordType → decl.components = twin.components
  constants : decl.kind = .enumType → decl.constants = twin.constants
  fields : decl.fields = twin.fields
  methods : decl.methods = twin.methods
  constructors : decl.kind ≠ .recordType → decl.constructors = twin.constructors

theorem SameUse.refl (decl : TypeDecl) : decl.SameUse decl := by
  constructor <;> simp

/-- Declarations that differ in unused lists alone are pruned to one. -/
theorem SameUse.pruned_eq {decl twin : TypeDecl} (same : decl.SameUse twin) :
    decl.pruned = twin.pruned := by
  rcases decl with ⟨kind, name, access, typeParams, annotations, extended, implemented, components,
    constants, fields, methods, constructors⟩
  rcases twin with ⟨_, _, _, _, _, others, _, _, _, _, _, _⟩
  rcases same with ⟨rfl, rfl, rfl, rfl, rfl, superclass, superinterfaces, implemented, components,
    constants, rfl, rfl, constructors⟩
  have firstEntry : kind = .classType → extended.take 1 = others.take 1 := by
    intro isClass
    rw [List.take_one, List.take_one]
    exact congrArg Option.toList (superclass isClass)
  cases kind <;> simp_all [pruned]

end TypeDecl

namespace DeclTree

/-- Pruning leaves names alone. -/
theorem keepsNames_pruned : KeepsNames TypeDecl.pruned where
  missing := rfl
  name _ := rfl
  params _ := rfl
  methods _ := rfl

/-- The tree of pruned declarations. -/
abbrev pruned (tree : DeclTree) : DeclTree :=
  tree.redeclare TypeDecl.pruned

/-- Building alike is a matter of what is demanded of the declarations. -/
theorem BuiltAlike.mono {alike other : TypeDecl → TypeDecl → Prop} {left right : DeclTree}
    (built : BuiltAlike alike left right)
    (weaken : ∀ decl twin, alike decl twin → other decl twin) :
    BuiltAlike other left right := by
  induction built with
  | empty => exact .empty
  | addUnit _ package imports ih => exact ih.addUnit package imports
  | addType _ unit same known ih => exact ih.addType unit (weaken _ _ same) known
  | addMember _ outer same known ih => exact ih.addMember outer (weaken _ _ same) known

/-- Trees that are built alike up to unused lists are pruned to one. -/
theorem BuiltAlike.prunes {left right : DeclTree} (alike : BuiltAlike TypeDecl.SameUse left right) :
    BuiltAlike (fun decl twin => decl.pruned = twin.pruned) left right :=
  alike.mono fun _ _ same => same.pruned_eq

variable (tree : DeclTree)

/-! ## Declarations -/

@[simp]
theorem decl_pruned (id : ItemId) : tree.pruned.decl id = (tree.decl id).pruned :=
  decl_redeclare keepsNames_pruned id

@[simp]
theorem paramsOf_pruned : tree.pruned.paramsOf = tree.paramsOf := by
  funext owner
  cases owner <;> simp only [paramsOf, decl_pruned] <;> rfl

@[simp]
theorem param_pruned : tree.pruned.param = tree.param := by
  funext param
  simp only [DeclTree.param, paramsOf_pruned]

@[simp]
theorem parameters_pruned : tree.pruned.parameters = tree.parameters := by
  funext owner
  simp only [parameters, paramsOf_pruned]

@[simp]
theorem variableOf_pruned : tree.pruned.variableOf = tree.variableOf := by
  funext param
  simp only [variableOf, param_pruned]

@[simp]
theorem simpleName_pruned : tree.pruned.simpleName = tree.simpleName :=
  funext (simpleName_redeclare keepsNames_pruned)

@[simp]
theorem nameOf_pruned : tree.pruned.nameOf = tree.nameOf := by
  funext decl
  cases decl with
  | item id => exact congrFun (simpleName_pruned tree) id
  | parameter param => simp only [nameOf, param_pruned]

@[simp]
theorem className_pruned : tree.pruned.className = tree.className := by
  funext id
  simp only [className, chain_redeclare, simpleName_pruned]

@[simp]
theorem classNameOf_pruned : tree.pruned.classNameOf = tree.classNameOf := by
  funext decl
  cases decl with
  | item id => simp only [classNameOf, className_pruned]
  | parameter param => simp only [classNameOf, className_pruned, param_pruned]

@[simp]
theorem qualifiedName_pruned : tree.pruned.qualifiedName = tree.qualifiedName :=
  funext (qualifiedName_redeclare keepsNames_pruned)

@[simp]
theorem qualifiedNameOf_pruned : tree.pruned.qualifiedNameOf = tree.qualifiedNameOf :=
  funext (qualifiedNameOf_redeclare keepsNames_pruned)

/-- The types nested in an item stay. -/
theorem nestedTo_pruned (depth : Nat) : tree.pruned.nestedTo depth = tree.nestedTo depth := by
  induction depth with
  | zero => rfl
  | succ depth ih =>
      funext id
      simp only [nestedTo, members_redeclare, ih]

@[simp]
theorem hasNested_pruned : tree.pruned.hasNested = tree.hasNested := by
  funext id name
  simp only [hasNested, nested, size_redeclare, nestedTo_pruned, qualifiedName_pruned]

@[simp]
theorem declHasNested_pruned : tree.pruned.declHasNested = tree.declHasNested := by
  funext decl name
  cases decl with
  | item id => simp only [declHasNested, hasNested_pruned]
  | parameter param => rfl

@[simp]
theorem visible?_pruned : tree.pruned.visible? = tree.visible? := by
  funext id path
  simp only [visible?, parameterNamed?_redeclare keepsNames_pruned,
    memberAt?_redeclare keepsNames_pruned]

/-! ## Kinds and places -/

@[simp]
theorem packageOf_pruned : tree.pruned.packageOf = tree.packageOf := by
  funext decl
  simp only [packageOf, package, itemUnit_redeclare, unit_redeclare]

@[simp]
theorem accessOf_pruned : tree.pruned.accessOf = tree.accessOf := by
  funext decl
  cases decl with
  | item id => simp only [accessOf, decl_pruned, TypeDecl.pruned]
  | parameter param => rfl

@[simp]
theorem kindOf?_pruned : tree.pruned.kindOf? = tree.kindOf? := by
  funext decl
  cases decl with
  | item id => simp only [kindOf?, decl_pruned, TypeDecl.pruned]
  | parameter param => rfl

@[simp]
theorem typeParametersOf_pruned : tree.pruned.typeParametersOf = tree.typeParametersOf := by
  funext decl
  cases decl with
  | item id => simp only [typeParametersOf, parameters_pruned]
  | parameter param => rfl

@[simp]
theorem memberTypesOf_pruned : tree.pruned.memberTypesOf = tree.memberTypesOf := by
  funext decl
  cases decl with
  | item id => simp only [memberTypesOf, members_redeclare]
  | parameter param => rfl

theorem parent_pruned (id : ItemId) : (tree.pruned.item id).parent = (tree.item id).parent := by
  simp only [Item.parent, enclosing_redeclare, itemUnit_redeclare]

@[simp]
theorem containerOf?_pruned : tree.pruned.containerOf? = tree.containerOf? := by
  funext decl
  cases decl with
  | item id => simp only [containerOf?, parent_pruned]
  | parameter param => rfl

@[simp]
theorem parent?_pruned : Scope.parent? tree.pruned = Scope.parent? tree := by
  funext scope
  cases scope with
  | unit id => rfl
  | body id => simp only [Scope.parent?, parent_pruned]

/-! ## Members -/

@[simp]
theorem methodDecl?_pruned : tree.pruned.methodDecl? = tree.methodDecl? := by
  funext method
  simp only [methodDecl?, decl_pruned]
  rfl

@[simp]
theorem declaredMethodsOf_pruned : tree.pruned.declaredMethodsOf = tree.declaredMethodsOf := by
  funext decl
  cases decl with
  | item id => simp only [declaredMethodsOf, decl_pruned]; rfl
  | parameter param => rfl

@[simp]
theorem constructorsOf_pruned : tree.pruned.constructorsOf = tree.constructorsOf := by
  funext decl
  cases decl with
  | parameter param => rfl
  | item id =>
      by_cases isRecord : (tree.decl id).kind = .recordType
      · simp [constructorsOf, TypeDecl.pruned, isRecord]
      · simp [constructorsOf, TypeDecl.pruned, isRecord]

/-- The accessors of a record stay. -/
theorem accessorNamed?_pruned {id : ItemId} (isRecord : (tree.decl id).kind = .recordType)
    (name : String) : tree.pruned.accessorNamed? id name = tree.accessorNamed? id name := by
  simp [accessorNamed?, TypeDecl.pruned, isRecord]

end DeclTree

end JavaSymbols

import Mathlib.Data.List.Forall2
import JavaSymbols.Decl
import JavaSymbols.DeclTree.CoreLibrary
import JavaSymbols.Scope

/-!
# Trees with other declarations

Changing what the items of a tree declare leaves their places alone.  When the
names of types, methods and type parameters stay, every name inside the tree
denotes what it denoted before.

Trees that are built by the same operations from declarations that a change does
not tell apart become equal by the change.
-/

namespace JavaSymbols

namespace DeclTree

/-- The tree with changed declarations. -/
def redeclare (change : TypeDecl → TypeDecl) (tree : DeclTree) : DeclTree where
  units := tree.units
  items := tree.items.map fun item => { item with decl := change item.decl }

variable {tree left right : DeclTree} {change : TypeDecl → TypeDecl}

/-! ## Places -/

@[simp]
theorem size_redeclare : (tree.redeclare change).size = tree.size := by
  simp [redeclare, size]

theorem item?_redeclare (id : ItemId) : (tree.redeclare change).item? id =
    (tree.item? id).map fun item => { item with decl := change item.decl } := by
  simp [redeclare, item?]

@[simp]
theorem unit?_redeclare (id : UnitId) : (tree.redeclare change).unit? id = tree.unit? id :=
  rfl

@[simp]
theorem unit_redeclare (id : UnitId) : (tree.redeclare change).unit id = tree.unit id :=
  rfl

@[simp]
theorem enclosing_redeclare (id : ItemId) :
    ((tree.redeclare change).item id).enclosing = (tree.item id).enclosing := by
  cases stored : tree.item? id <;> simp [item, item?_redeclare, stored]

@[simp]
theorem itemUnit_redeclare (id : ItemId) :
    ((tree.redeclare change).item id).unit = (tree.item id).unit := by
  cases stored : tree.item? id <;> simp [item, item?_redeclare, stored]

@[simp]
theorem members_redeclare (id : ItemId) :
    ((tree.redeclare change).item id).members = (tree.item id).members := by
  cases stored : tree.item? id <;> simp [item, item?_redeclare, stored]

@[simp]
theorem chain_redeclare (id : ItemId) : (tree.redeclare change).chain id = tree.chain id := by
  simp [chain]

/-! ## Building -/

theorem redeclare_addUnit (package : PackageName) (imports : List Import) :
    (tree.addUnit package imports).redeclare change =
      (tree.redeclare change).addUnit package imports :=
  rfl

theorem redeclare_addType (unit : UnitId) (decl : TypeDecl) :
    (tree.addType unit decl).redeclare change =
      (tree.redeclare change).addType unit (change decl) := by
  simp [redeclare, addType, size]

theorem redeclare_addMember (outer : ItemId) (decl : TypeDecl) :
    (tree.addMember outer decl).redeclare change =
      (tree.redeclare change).addMember outer (change decl) := by
  have sameItems : ((tree.items.modify outer fun data =>
        { data with members := data.members ++ [tree.size] }).map
        fun item => { item with decl := change item.decl }) =
      (tree.items.map fun item => { item with decl := change item.decl }).modify outer
        fun data => { data with members := data.members ++ [tree.size] } := by
    apply Array.ext_getElem?
    intro index
    by_cases here : outer = index
    · cases stored : tree.items[index]? <;> simp [Array.getElem?_modify, here, stored]
    · simp [Array.getElem?_modify, here]
  have grown : (tree.redeclare change).addMember outer (change decl) =
      ⟨tree.units, ((tree.redeclare change).items.modify outer fun data =>
          { data with members := data.members ++ [tree.size] }).push
        ⟨change decl, tree.chain outer, (tree.item outer).unit, []⟩⟩ := by
    rw [addMember, size_redeclare, chain_redeclare, itemUnit_redeclare]
    rfl
  rw [grown]
  simp only [redeclare, addMember, Array.map_push, sameItems]

/-- Two trees that are built by the same operations from declarations that are
alike. -/
inductive BuiltAlike (alike : TypeDecl → TypeDecl → Prop) : DeclTree → DeclTree → Prop where
  | empty : BuiltAlike alike .empty .empty
  | addUnit {left right : DeclTree} (built : BuiltAlike alike left right) (package : PackageName)
      (imports : List Import) :
      BuiltAlike alike (left.addUnit package imports) (right.addUnit package imports)
  | addType {left right : DeclTree} (built : BuiltAlike alike left right) (unit : UnitId)
      {decl twin : TypeDecl} (same : alike decl twin) (known : unit < left.units.size) :
      BuiltAlike alike (left.addType unit decl) (right.addType unit twin)
  | addMember {left right : DeclTree} (built : BuiltAlike alike left right) (outer : ItemId)
      {decl twin : TypeDecl} (same : alike decl twin) (known : outer < left.size) :
      BuiltAlike alike (left.addMember outer decl) (right.addMember outer twin)

/-- Both of two trees built alike were built, and they have equally many items and
units. -/
theorem BuiltAlike.both {alike : TypeDecl → TypeDecl → Prop} (built : BuiltAlike alike left right) :
    left.Built ∧ right.Built ∧ left.size = right.size ∧ left.units.size = right.units.size := by
  induction built with
  | empty => exact ⟨.empty, .empty, rfl, rfl⟩
  | addUnit _ package imports ih =>
      rcases ih with ⟨builtLeft, builtRight, sameSize, sameUnits⟩
      refine ⟨builtLeft.addUnit package imports, builtRight.addUnit package imports, sameSize, ?_⟩
      simp [DeclTree.addUnit, sameUnits]
  | addType _ unit _ known ih =>
      rcases ih with ⟨builtLeft, builtRight, sameSize, sameUnits⟩
      refine ⟨builtLeft.addType unit _ known, builtRight.addType unit _ (sameUnits ▸ known), ?_, ?_⟩
      · simp [sameSize]
      · simp [DeclTree.addType, sameUnits]
  | addMember _ outer _ known ih =>
      rcases ih with ⟨builtLeft, builtRight, sameSize, sameUnits⟩
      refine ⟨builtLeft.addMember outer _ known, builtRight.addMember outer _ (sameSize ▸ known),
        ?_, sameUnits⟩
      simp [sameSize]

/-- A tree that was built was built like itself. -/
theorem Built.alike {alike : TypeDecl → TypeDecl → Prop} (same : ∀ decl, alike decl decl)
    (built : tree.Built) : BuiltAlike alike tree tree := by
  induction built with
  | empty => exact .empty
  | addUnit _ package imports ih => exact ih.addUnit package imports
  | addType _ unit decl known ih => exact ih.addType unit (same decl) known
  | addMember _ outer decl known ih => exact ih.addMember outer (same decl) known

/-- Units of alike types, added to trees built alike. -/
theorem BuiltAlike.addUnitOf {alike : TypeDecl → TypeDecl → Prop}
    (built : BuiltAlike alike left right) (package : String) {types twins : List TypeDecl}
    (same : List.Forall₂ alike types twins) :
    BuiltAlike alike (left.addUnitOf package types) (right.addUnitOf package twins) := by
  have sameUnits := built.both.2.2.2
  have grow : ∀ grown twin : DeclTree, BuiltAlike alike grown twin →
      left.units.size < grown.units.size →
      BuiltAlike alike (types.foldl (fun grown decl => grown.addType left.units.size decl) grown)
        (twins.foldl (fun grown decl => grown.addType right.units.size decl) twin) := by
    induction same with
    | nil =>
        intro grown twin builtBoth _
        exact builtBoth
    | cons head _ ih =>
        intro grown twin builtBoth known
        rw [List.foldl_cons, List.foldl_cons]
        apply ih
        · rw [← sameUnits]
          exact builtBoth.addType left.units.size head known
        · simpa [DeclTree.addType] using known
  apply grow _ _ (built.addUnit _ _)
  simp [DeclTree.addUnit]

/-- Trees built alike become equal by a change that makes their declarations
equal. -/
theorem BuiltAlike.redeclare_eq
    (built : BuiltAlike (fun decl twin => change decl = change twin) left right) :
    left.redeclare change = right.redeclare change := by
  induction built with
  | empty => rfl
  | addUnit _ package imports ih => rw [redeclare_addUnit, redeclare_addUnit, ih]
  | addType _ unit same _ ih => rw [redeclare_addType, redeclare_addType, ih, same]
  | addMember _ outer same _ ih => rw [redeclare_addMember, redeclare_addMember, ih, same]

/-! ## Names -/

/-- A change of declarations that leaves the names of types, methods and type
parameters as they are. -/
structure KeepsNames (change : TypeDecl → TypeDecl) : Prop where
  missing : change default = default
  name : ∀ decl, (change decl).name = decl.name
  params : ∀ decl, (change decl).typeParams.map TypeParam.name = decl.typeParams.map TypeParam.name
  methods : ∀ decl,
    (change decl).methods.map (fun method => (method.name, method.typeParams.map TypeParam.name)) =
      decl.methods.map fun method => (method.name, method.typeParams.map TypeParam.name)

variable (keeps : KeepsNames change)

include keeps

theorem decl_redeclare (id : ItemId) : (tree.redeclare change).decl id = change (tree.decl id) := by
  cases stored : tree.item? id with
  | some found => simp [decl, item, item?_redeclare, stored]
  | none =>
      simp only [decl, item, item?_redeclare, stored]
      exact keeps.missing.symm

theorem simpleName_redeclare (id : ItemId) :
    (tree.redeclare change).simpleName id = tree.simpleName id := by
  rw [simpleName, decl_redeclare keeps, keeps.name]
  rfl

theorem qualifiedName_redeclare (id : ItemId) :
    (tree.redeclare change).qualifiedName id = tree.qualifiedName id := by
  have sameNames : (tree.redeclare change).simpleName = tree.simpleName :=
    funext fun link => simpleName_redeclare keeps link
  simp [qualifiedName, className, package, sameNames]

/-- The names of the type parameters of an owner stay. -/
theorem paramNames_redeclare (owner : ParamOwner) :
    ((tree.redeclare change).paramsOf owner).map TypeParam.name =
      (tree.paramsOf owner).map TypeParam.name := by
  cases owner with
  | type id => rw [paramsOf, decl_redeclare keeps, keeps.params, paramsOf]
  | method id index =>
      have sameMethod := congrArg (fun methods => methods[index]?) (keeps.methods (tree.decl id))
      simp only [List.getElem?_map] at sameMethod
      rw [paramsOf, decl_redeclare keeps, paramsOf]
      cases changed : (change (tree.decl id)).methods[index]? with
      | none =>
          cases written : (tree.decl id).methods[index]? with
          | none => rfl
          | some method => simp [changed, written] at sameMethod
      | some other =>
          cases written : (tree.decl id).methods[index]? with
          | none => simp [changed, written] at sameMethod
          | some method =>
              simp only [changed, written, Option.map_some, Option.some.injEq,
                Prod.mk.injEq] at sameMethod
              exact sameMethod.2

/-- A type parameter keeps its name. -/
theorem paramName_redeclare (param : TypeParameter) :
    ((tree.redeclare change).param param).name = (tree.param param).name := by
  have nameOf : ∀ params : List TypeParam, (params[param.index]?.getD default).name =
      ((params.map TypeParam.name)[param.index]?).getD "" := by
    intro params
    cases stored : params[param.index]? with
    | none =>
        simp only [List.getElem?_map, stored, Option.map_none, Option.getD_none]
        rfl
    | some written => simp [stored]
  rw [DeclTree.param, nameOf, paramNames_redeclare keeps, ← nameOf, DeclTree.param]

/-- The same type parameter of an owner has a name. -/
theorem parameterNamed?_redeclare (owner : ParamOwner) (name : String) :
    (tree.redeclare change).parameterNamed? owner name = tree.parameterNamed? owner name := by
  have indexOf : ∀ params : List TypeParam, (params.findIdx? fun param => param.name == name) =
      (params.map TypeParam.name).findIdx? fun other => other == name := by
    intro params
    rw [List.findIdx?_map]
    rfl
  rw [parameterNamed?, indexOf, paramNames_redeclare keeps, ← indexOf, parameterNamed?]

theorem ownerName_redeclare (owner : ParamOwner) :
    (tree.redeclare change).ownerName owner = tree.ownerName owner := by
  cases owner with
  | type id => exact qualifiedName_redeclare keeps id
  | method id index =>
      have sameMethod := congrArg (fun methods => (methods[index]?).map Prod.fst)
        (keeps.methods (tree.decl id))
      simp only [List.getElem?_map, Option.map_map] at sameMethod
      rw [ownerName, ownerName, qualifiedName_redeclare keeps, decl_redeclare keeps]
      exact congrArg (fun name => tree.qualifiedName id ++ "." ++ Option.getD name "") sameMethod

/-- Every declaration keeps its qualified name. -/
theorem qualifiedNameOf_redeclare (decl : Decl) :
    (tree.redeclare change).qualifiedNameOf decl = tree.qualifiedNameOf decl := by
  cases decl with
  | item id => exact qualifiedName_redeclare keeps id
  | parameter param =>
      rw [qualifiedNameOf, qualifiedNameOf, ownerName_redeclare keeps, paramName_redeclare keeps]

/-! ## What paths denote -/

theorem member?_redeclare (id : ItemId) (name : String) :
    (tree.redeclare change).member? id name = tree.member? id name := by
  simp [member?, simpleName_redeclare keeps]

theorem memberAt?_redeclare (id : ItemId) (path : List String) :
    (tree.redeclare change).memberAt? id path = tree.memberAt? id path := by
  induction path generalizing id with
  | nil => rfl
  | cons name rest ih => simp [memberAt?, member?_redeclare keeps, ih]

theorem denotedIn?_redeclare (id : ItemId) (path : List String) :
    (tree.redeclare change).denotedIn? id path = tree.denotedIn? id path := by
  simp only [denotedIn?, visible?, simpleName_redeclare keeps, parameterNamed?_redeclare keeps,
    memberAt?_redeclare keeps]

theorem readingsIn_redeclare (id : ItemId) (path : List String) :
    (tree.redeclare change).readingsIn id path = tree.readingsIn id path := by
  rw [readingsIn, simpleName_redeclare keeps, readingsIn]

theorem topLevel?_redeclare (unit : UnitId) (path : List String) :
    (tree.redeclare change).topLevel? unit path = tree.topLevel? unit path := by
  cases path with
  | nil => rfl
  | cons head rest =>
      simp only [topLevel?, unit_redeclare, simpleName_redeclare keeps, memberAt?_redeclare keeps]

end DeclTree

end JavaSymbols

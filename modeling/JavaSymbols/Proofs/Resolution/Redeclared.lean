import JavaSymbols.Proofs.DeclTree.Redeclared
import JavaSymbols.Proofs.Outcomes
import JavaSymbols.Proofs.Resolution.Confined

/-!
# Resolution in trees with other declarations

When a change of declarations leaves names alone, every name that is looked up
denotes what it denoted, and the lookup reports the same events.  An environment
moves to a tree that was built alike with its source of names and its root
types.
-/

namespace JavaSymbols

namespace Environment

open DeclTree

variable {env : Environment} {change : TypeDecl → TypeDecl}

/-! ## Other trees -/

/-- The environment over another tree. -/
def onTree (env : Environment) (tree : DeclTree) : Environment :=
  { env with tree := tree }

/-- The root types of a source of names that keeps to a tree are found in any
built tree of its size. -/
theorem Constructed.onTree (constructed : env.Constructed) {tree : DeclTree} (built : tree.Built)
    (sameSize : env.tree.size = tree.size) : (env.onTree tree).Constructed where
  built := built
  created := by
    rcases constructed.roots_solved with ⟨⟨object, objectInside⟩, record, recordInside⟩
    rw [sameSize] at objectInside recordInside
    have objectFound := rootType_of_solved built.wellFormed object objectInside
    have recordFound := rootType_of_solved built.wellFormed record recordInside
    change (create tree env.solve env.roots).outcome = .ok (env.onTree tree)
    rw [create, objectFound, recordFound]
    rfl

theorem InTree.onTree (inTree : env.InTree) {tree : DeclTree}
    (sameSize : env.tree.size = tree.size) : (env.onTree tree).InTree := by
  intro name id found
  exact Nat.lt_of_lt_of_le (inTree name id found) (Nat.le_of_eq sameSize)

/-- The environment with changed declarations. -/
def redeclare (change : TypeDecl → TypeDecl) (env : Environment) : Environment :=
  env.onTree (env.tree.redeclare change)

@[simp]
theorem tree_redeclare : (env.redeclare change).tree = env.tree.redeclare change :=
  rfl

@[simp]
theorem solve_redeclare : (env.redeclare change).solve = env.solve :=
  rfl

@[simp]
theorem roots_redeclare : (env.redeclare change).roots = env.roots :=
  rfl

@[simp]
theorem object_redeclare : (env.redeclare change).object = env.object :=
  rfl

@[simp]
theorem record_redeclare : (env.redeclare change).record = env.record :=
  rfl

/-- Over trees built alike, the environments with changed declarations are one. -/
theorem redeclare_onTree {tree : DeclTree}
    (alike : DeclTree.BuiltAlike (fun decl twin => change decl = change twin) env.tree tree) :
    (env.onTree tree).redeclare change = env.redeclare change := by
  rw [redeclare, redeclare, alike.redeclare_eq]
  rfl

/-! ## What names denote -/

theorem validate_redeclare (tree : DeclTree) (id : ItemId) :
    (tree.redeclare change).validate id = tree.validate id := by
  simp [validate, item?_redeclare]

/-- An environment keeps the tree over which it is created. -/
theorem tree_of_create {tree : DeclTree} {solve : String → Option ItemId} {roots : RootNames}
    (created : (create tree solve roots).outcome = .ok env) : env.tree = tree := by
  rw [create, Traced.outcome_bind] at created
  rcases Except.bind_eq_ok created with ⟨object, _, created⟩
  rw [Traced.outcome_bind] at created
  rcases Except.bind_eq_ok created with ⟨record, _, created⟩
  cases created
  rfl

/-- Over trees built alike, the root types are found alike. -/
theorem create_onTree {tree twin : DeclTree}
    (alike : DeclTree.BuiltAlike (fun decl other => change decl = change other) tree twin)
    (solve : String → Option ItemId) (roots : RootNames) :
    create twin solve roots = (fun env => env.onTree twin) <$> create tree solve roots := by
  have sameValid : twin.validate = tree.validate := by
    funext id
    rw [← validate_redeclare twin id, ← alike.redeclare_eq, validate_redeclare]
  have sameRoot : ∀ name, rootType twin solve name = rootType tree solve name := by
    intro name
    simp only [rootType, validated, sameValid]
  have sameSize : tree.size = twin.size := alike.both.2.2.1
  simp only [create, sameRoot, ← sameSize, map_bind, map_pure]
  rfl

theorem declaration_redeclare (id : ItemId) :
    (env.redeclare change).declaration id = env.declaration id := by
  simp only [declaration, tree_redeclare, validated, validate_redeclare]

theorem known_redeclare (id : ItemId) : (env.redeclare change).known id = env.known id := by
  simp only [known, tree_redeclare, size_redeclare]

theorem firstSolved_redeclare (names : List String) :
    (env.redeclare change).firstSolved names = env.firstSolved names := by
  induction names with
  | nil => rfl
  | cons name rest ih =>
      simp only [firstSolved, solveQualified, declaration_redeclare, ih]
      rfl

variable (keeps : KeepsNames change)

include keeps

theorem lookupInUnit_redeclare (unit : UnitId) (path : List String) :
    (env.redeclare change).lookupInUnit unit path = env.lookupInUnit unit path := by
  simp only [lookupInUnit, firstSolved_redeclare, tree_redeclare, topLevel?_redeclare keeps,
    unit_redeclare]

theorem lookupOutward_redeclare (unit : UnitId) (chain : List ItemId) (path : List String) :
    (env.redeclare change).lookupOutward unit chain path = env.lookupOutward unit chain path := by
  induction chain generalizing path with
  | nil => exact lookupInUnit_redeclare keeps unit path
  | cons id outer ih =>
      have sameDenoted : (env.tree.redeclare change).denotedIn? id = env.tree.denotedIn? id :=
        funext fun path => denotedIn?_redeclare keeps id path
      simp only [lookupOutward, tree_redeclare, sameDenoted, readingsIn_redeclare keeps,
        qualifiedName_redeclare keeps, ih]

/-- A name denotes what it denoted, with the same events on the way. -/
theorem lookup_redeclare (scope : Scope) (name : String) :
    (env.redeclare change).lookup scope name = env.lookup scope name := by
  cases scope with
  | unit id => exact lookupInUnit_redeclare keeps id _
  | body item =>
      simp only [lookup, known_redeclare, lookupOutward_redeclare keeps, tree_redeclare,
        itemUnit_redeclare, chain_redeclare]

theorem methodParameter?_redeclare (site : TypeSite) (name : String) :
    (env.redeclare change).methodParameter? site name = env.methodParameter? site name := by
  simp only [methodParameter?, tree_redeclare, parameterNamed?_redeclare keeps]

end Environment

end JavaSymbols

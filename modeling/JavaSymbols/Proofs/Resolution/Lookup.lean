import JavaSymbols.Proofs.Resolution.Confined

/-!
# What names and clauses denote

Looking a name up never gives up: it denotes a declaration of the tree or
nothing.  Supertype clauses and conversions do give up when a name denotes
nothing, and the lenient queries built on them pass over just that.
-/

namespace JavaSymbols.Environment

variable {env : Environment}

/-! ## Names -/

/-- What a lookup found, if anything, is a declaration of the tree. -/
def Denotes (env : Environment) (found : Option Decl) : Prop :=
  ∀ decl, found = some decl → env.tree.Declares decl

theorem denotes_none : env.Denotes none := by
  intro decl found
  cases found

theorem denotes_some {decl : Decl} (declares : env.tree.Declares decl) :
    env.Denotes (some decl) := by
  intro other found
  cases found
  exact declares

theorem declaration_of_lt (wellFormed : env.tree.WellFormed) {id : ItemId}
    (inside : id < env.tree.size) : env.declaration id = pure (.item id) := by
  simp [declaration, validated, validate_of_lt wellFormed inside]

theorem declaration_of_size_le {id : ItemId} (outside : env.tree.size ≤ id) :
    env.declaration id = .fail (.inconsistent (.unknownItem id)) := by
  rw [declaration, validated, validate_of_size_le outside]
  rfl

/-- The declaration with an id that the source of names answers. -/
theorem firm_declaration (wellFormed : env.tree.WellFormed) {name : String} {id : ItemId}
    (known : env.solve name = some id) :
    Firm env (fun decl => decl = .item id ∧ id < env.tree.size) (env.declaration id) := by
  by_cases inside : id < env.tree.size
  · rw [declaration_of_lt wellFormed inside]
    exact firm_pure ⟨rfl, inside⟩
  · have outside := Nat.le_of_not_lt inside
    rw [declaration_of_size_le outside]
    exact firm_fail ⟨name, id, known, outside, rfl⟩

theorem firm_solveQualified (wellFormed : env.tree.WellFormed) (name : String) :
    Firm env env.Denotes (env.solveQualified name) := by
  unfold solveQualified
  cases known : env.solve name with
  | none => exact firm_pure denotes_none
  | some id =>
      apply (firm_declaration wellFormed known).bind
      rintro decl ⟨rfl, inside⟩
      exact firm_pure (denotes_some inside)

theorem firm_firstSolved (wellFormed : env.tree.WellFormed) (names : List String) :
    Firm env env.Denotes (env.firstSolved names) := by
  induction names with
  | nil => exact firm_pure denotes_none
  | cons name rest ih =>
      refine (firm_solveQualified wellFormed name).bind ?_
      intro found denotes
      cases found with
      | none => exact ih
      | some decl => exact firm_pure denotes

theorem firm_lookupInUnit (wellFormed : env.tree.WellFormed) (unit : UnitId)
    (path : List String) : Firm env env.Denotes (env.lookupInUnit unit path) := by
  unfold lookupInUnit
  cases top : env.tree.topLevel? unit path with
  | none => exact firm_firstSolved wellFormed _
  | some id =>
      refine firm_pure (denotes_some ?_)
      cases path with
      | nil => simp [DeclTree.topLevel?] at top
      | cons head rest =>
          obtain ⟨type, listed, reached⟩ := List.exists_of_findSome?_eq_some top
          split at reached
          · exact wellFormed.memberAt?_type_lt listed reached
          · cases reached

/-- What is visible inside an item is a declaration of the tree. -/
theorem declares_visible? (wellFormed : env.tree.WellFormed) {id : ItemId}
    (inside : id < env.tree.size) {path : List String} {decl : Decl}
    (found : env.tree.visible? id path = some decl) : env.tree.Declares decl := by
  have member : ∀ other, (env.tree.memberAt? id path).map Decl.item = some other →
      env.tree.Declares other := by
    intro other reached
    obtain ⟨inner, walked, rfl⟩ := Option.map_eq_some_iff.mp reached
    exact wellFormed.memberAt?_lt inside walked
  match path with
  | [] => exact member decl found
  | [name] =>
      cases named : env.tree.parameterNamed? (.type id) name with
      | none =>
          simp only [DeclTree.visible?, named, Option.map_none] at found
          exact member decl found
      | some param =>
          simp only [DeclTree.visible?, named, Option.map_some, Option.some.injEq] at found
          have owned : (ParamOwner.type id).item < env.tree.size := inside
          exact found ▸ DeclTree.declares_parameterNamed? owned named
  | _ :: _ :: _ => exact member decl found

/-- What a path denotes inside an item is a declaration of the tree. -/
theorem declares_denotedIn? (wellFormed : env.tree.WellFormed) {id : ItemId}
    (inside : id < env.tree.size) {path : List String} {decl : Decl}
    (found : env.tree.denotedIn? id path = some decl) : env.tree.Declares decl := by
  unfold DeclTree.denotedIn? at found
  split at found
  · cases found
    exact inside
  · exact declares_visible? wellFormed inside found

theorem firm_report (event : Event) : Firm env (fun _ => True) (Traced.report event) where
  good _ _ := trivial
  stray fault failed := by cases failed

theorem firm_lookupOutward (wellFormed : env.tree.WellFormed) (unit : UnitId)
    {enclosing : List ItemId} (inside : ∀ link ∈ enclosing, link < env.tree.size) :
    ∀ path, Firm env env.Denotes (env.lookupOutward unit enclosing path) := by
  induction enclosing with
  | nil => exact firm_lookupInUnit wellFormed unit
  | cons id outer ih =>
      intro path
      simp only [lookupOutward]
      split
      · next decl denoted =>
          obtain ⟨reading, _, found⟩ := List.exists_of_findSome?_eq_some denoted
          have here := inside id List.mem_cons_self
          exact firm_pure (denotes_some (declares_denotedIn? wellFormed here found))
      · refine (firm_report _).bind ?_
        intro _ _
        exact ih (fun link member => inside link (List.mem_cons_of_mem id member)) _

/-- A name looked up in the body of an item denotes a declaration or nothing. -/
theorem firm_lookup (wellFormed : env.tree.WellFormed) {item : ItemId}
    (inside : item < env.tree.size) (name : String) :
    Firm env env.Denotes (env.lookup (.body item) name) := by
  simp only [lookup, known_of_lt inside, pure_bind]
  exact firm_lookupOutward wellFormed _ (fun link => wellFormed.chain_lt inside) _

/-! ## Clauses -/

theorem firm_clauseTarget (wellFormed : env.tree.WellFormed) {item : ItemId}
    (inside : item < env.tree.size) (clause : ClassExpr) :
    Firm env env.Denotes (env.clauseTarget item clause) := by
  unfold clauseTarget
  refine (firm_lookup wellFormed inside clause.dotted).bind ?_
  intro found denotes
  split
  · exact firm_lookup wellFormed inside _
  · exact firm_pure denotes

/-- What a clause of an item denotes is an item of the tree. -/
theorem soft_clauseSupertype (wellFormed : env.tree.WellFormed) {item : ItemId}
    (inside : item < env.tree.size) (clause : ClassExpr) :
    Soft env (fun supertype => supertype.item < env.tree.size)
      (env.clauseSupertype item clause) := by
  unfold clauseSupertype
  refine (firm_clauseTarget wellFormed inside clause).toSoft.bind ?_
  intro found denotes
  split
  · next id =>
      have here : env.tree.Declares (.item id) := denotes _ rfl
      exact Firm.toSoft (firm_pure here)
  · exact soft_fail rfl

theorem soft_rootSupertype (wellFormed : env.tree.WellFormed) (name : String)
    (args : List SupertypeArg) :
    Soft env (fun supertype => supertype.item < env.tree.size)
      (env.rootSupertype name args) := by
  unfold rootSupertype
  cases known : env.solve name with
  | none => exact soft_fail rfl
  | some id =>
      apply (firm_declaration wellFormed known).toSoft.bind
      rintro decl ⟨_, inside⟩
      exact Firm.toSoft (firm_pure inside)

end JavaSymbols.Environment

import JavaSymbols.Proofs.Methods.Pruned
import JavaSymbols.Proofs.Resolution.SelfContained
import JavaSymbols.Proofs.Session.Dialogues

/-!
# Lists that a kind of declaration does not use

A declaration has every list, and its kind gives some of them no meaning.  No
client can tell what these hold: each request has the same answer without them,
and leaves the same session behind, so a dialogue takes the same course.
-/

namespace JavaSymbols

open DeclTree Environment

/-! ## Answers without unused lists -/

/-- The answer to a request stays, as long as it is about what the tree tells of. -/
theorem Request.answer_pruned {α : Type} (env : Environment) (request : Request α)
    (told : ∀ handle, request.handle? = some handle → env.tree.TellsOf handle) :
    request.answer env.pruned = request.answer env := by
  cases request with
  | force type => exact force_pruned env type
  | componentsOf id =>
      by_cases isRecord : (env.tree.decl id).kind = .recordType
      · simp [answer, isRecord, componentFields_pruned env isRecord]
      · simp [answer, isRecord]
  | hasComponent id name =>
      by_cases isRecord : (env.tree.decl id).kind = .recordType
      · simp [answer, Environment.hasComponent, isRecord, TypeDecl.pruned]
      · simp [answer, isRecord]
  | constantsOf id =>
      by_cases isEnum : (env.tree.decl id).kind = .enumType
      · simp [answer, isEnum, TypeDecl.pruned]
      · simp [answer, isEnum]
  | methodName method =>
      have tells : env.tree.TellsMethod method := told _ rfl
      simp only [answer, tree_redeclare, methodName_pruned tells]
  | returnType method =>
      have tells : env.tree.TellsMethod method := told _ rfl
      simp only [answer, returnType_pruned env tells]
  | constructorAccess constructor =>
      have tells : env.tree.TellsConstructor constructor := told _ rfl
      simp only [answer, tree_redeclare, constructorDecl_pruned tells]
  | constructorParamTypes constructor =>
      have tells : env.tree.TellsConstructor constructor := told _ rfl
      simp only [answer, constructorParamTypes_pruned env tells]
  | _ => simp [answer]

/-- A dialogue about what the tree tells of takes the same course. -/
theorem Dialogue.run_pruned {α : Type} (env : Environment) (dialogue : Dialogue α) :
    ∀ {known : Handle → Prop}, dialogue.KeepsTo known →
      (∀ handle, known handle → env.tree.TellsOf handle) →
      dialogue.run env.pruned = dialogue.run env := by
  induction dialogue with
  | done result =>
      intro known _ _
      rfl
  | ask request next ih =>
      intro known keeps told
      have sameAnswer : request.answer env.pruned = request.answer env :=
        request.answer_pruned env fun handle about => told handle (keeps.1 handle about)
      funext session
      simp only [run, sameAnswer]
      apply congrFun (ih _ (keeps.2 _) ?_)
      rintro handle (isKnown | ⟨value, done, listed⟩)
      · exact told handle isKnown
      · exact (request.gives_handles).of_eq done handle listed

namespace Environment

/-- Trees that are built by the same calls, from declarations that differ in lists
alone that their kind does not use, cannot be told apart: over the same source of
names, an environment is created for both or for neither, and every genuine
dialogue has the same result with both. -/
theorem run_ignores_unusedLists {tree twin : DeclTree}
    (alike : BuiltAlike TypeDecl.SameUse tree twin) (solve : String → Option ItemId)
    (roots : RootNames) :
    create twin solve roots = (fun env => env.onTree twin) <$> create tree solve roots ∧
      ∀ env, (create tree solve roots).outcome = .ok env →
        ∀ {α : Type} (dialogue : Dialogue α), dialogue.Genuine →
          ∀ session, dialogue.run (env.onTree twin) session = dialogue.run env session := by
  constructor
  · exact create_onTree alike.prunes solve roots
  · intro env created α dialogue genuine session
    have sameTree := tree_of_create created
    subst sameTree
    have sameEnv : (env.onTree twin).pruned = env.pruned := redeclare_onTree alike.prunes
    calc dialogue.run (env.onTree twin) session
      _ = dialogue.run (env.onTree twin).pruned session :=
        congrFun (dialogue.run_pruned _ genuine fun _ => False.elim).symm session
      _ = dialogue.run env.pruned session := by rw [sameEnv]
      _ = dialogue.run env session :=
        congrFun (dialogue.run_pruned _ genuine fun _ => False.elim) session

/-- A declaration of each kind, with some entries in lists that it does not use. -/
def oneOfEachKind (clauses : List ClassExpr) (components : List Component)
    (constants : List String) (constructors : List ConstructorDecl) : DeclTree :=
  .libraryWith "demo"
    [{ TypeDecl.empty .classType "Base" with components := components, constants := constants },
      { TypeDecl.empty .classType "Leaf" with
        extended := .simple "Base" none :: clauses
        components := components
        constants := constants },
      { TypeDecl.empty .interfaceType "Face" with
        implemented := clauses
        components := components
        constants := constants },
      { TypeDecl.empty .recordType "Point" with
        extended := clauses
        components := [⟨"tip", .ofDotted "Leaf"⟩]
        constants := constants
        constructors := constructors },
      { TypeDecl.empty .enumType "Tone" with
        extended := clauses
        components := components
        constants := ["LOW"] },
      { TypeDecl.empty .annotationType "Mark" with
        extended := clauses
        implemented := clauses
        components := components
        constants := constants }]

theorem builtAlike_oneOfEachKind (clauses otherClauses : List ClassExpr)
    (components otherComponents : List Component) (constants otherConstants : List String)
    (constructors otherConstructors : List ConstructorDecl) :
    BuiltAlike TypeDecl.SameUse (oneOfEachKind clauses components constants constructors)
      (oneOfEachKind otherClauses otherComponents otherConstants otherConstructors) := by
  have library : BuiltAlike TypeDecl.SameUse coreLibrary coreLibrary :=
    built_coreLibrary.alike TypeDecl.SameUse.refl
  apply library.addUnitOf
  repeat' first | exact .nil | apply List.Forall₂.cons
  all_goals
    constructor
    all_goals simp [TypeDecl.empty]

/-- What a client can learn of a record: the ancestors of the type that an accessor
returns, and the number of its constructors. -/
def askAccessor (record : ItemId) (name : String) : Dialogue (Option (List String × Nat)) :=
  .require (.lookupMethod (.body record) ⟨name, [], false⟩) fun found =>
    match found with
    | none => .done none
    | some accessor =>
        .require (.returnType accessor) fun type =>
          match type.reference? with
          | none => .done none
          | some reference =>
              .require (.allAncestorsOf (.item reference.item) true) fun ancestors =>
                .require (.constructorsOf (.item record)) fun constructors =>
                  .done (some (ancestors.map Reference.name, constructors.length))

theorem genuine_askAccessor (record : ItemId) (name : String) :
    (askAccessor record name).Genuine := by
  apply Dialogue.keepsTo_require
  · rintro handle ⟨⟩
  rintro (_ | accessor)
  · trivial
  apply Dialogue.keepsTo_require
  · rintro handle ⟨⟩
    exact .inr (List.mem_singleton_self _)
  intro type
  split
  · trivial
  apply Dialogue.keepsTo_require
  · rintro handle ⟨⟩
  intro ancestors
  apply Dialogue.keepsTo_require
  · rintro handle ⟨⟩
  intro constructors
  trivial

/-- Entries without meaning, some of which would not even resolve. -/
def strayTree : DeclTree :=
  oneOfEachKind [.simple "Nope" none, .simple "Comparable" none] [⟨"side", .ofDotted "Nope"⟩]
    ["HIGH"] [⟨[], .publicAccess⟩]

/-- A client learns the same of a record whether or not its declaration, and that of
the type of its component, hold entries without meaning. -/
theorem run_of_strayTree :
    strayTree ≠ oneOfEachKind [] [] [] [] ∧
    BuiltAlike TypeDecl.SameUse strayTree (oneOfEachKind [] [] [] []) ∧
    (askAccessor 13 "tip").Genuine ∧
    ((askAccessor 13 "tip").run (selfContained strayTree) .start).1 =
      some (["demo.Base", "java.lang.Object"], 0) ∧
    ((askAccessor 13 "tip").run ((selfContained strayTree).onTree (oneOfEachKind [] [] [] []))
      .start).1 = some (["demo.Base", "java.lang.Object"], 0) := by
  have alike : BuiltAlike TypeDecl.SameUse strayTree (oneOfEachKind [] [] [] []) :=
    builtAlike_oneOfEachKind _ _ _ _ _ _ _ _
  have created : (create strayTree strayTree.firstNamed? .standard).outcome =
      .ok (selfContained strayTree) := rfl
  have answered : ((askAccessor 13 "tip").run (selfContained strayTree) .start).1 =
      some (["demo.Base", "java.lang.Object"], 0) := by decide +kernel
  have sameRun := (run_ignores_unusedLists alike strayTree.firstNamed? .standard).2
    (selfContained strayTree) created (askAccessor 13 "tip") (genuine_askAccessor 13 "tip") .start
  constructor
  · decide +kernel
  constructor
  · exact alike
  constructor
  · exact genuine_askAccessor 13 "tip"
  constructor
  · exact answered
  · rw [sameRun]
    exact answered

end Environment

end JavaSymbols

import JavaSymbols.Proofs.Subtyping.Faults

/-!
# The strict test refines the best-effort one

Both tests search the same supertypes in the same order.  The strict one ends
with the first position that does not resolve, unless it has come to the target
before; the best-effort one passes over such a position and goes on.  An answer
of the strict test is therefore the answer of the other, and its fault comes from
a declaration that the other visits as well.
-/

namespace JavaSymbols

namespace Environment

/-! ## Where faults come from -/

/-- A supertype clause of a declaration, or a bound of a type parameter, does not
resolve.  A class is asked for no more than its first `extends` entry. -/
inductive ClauseFails (env : Environment) : Decl → Fault → Prop where
  | superclass {id : ItemId} {clause : ClassExpr} {rest : List ClassExpr} {fault : Fault}
      (isClass : (env.tree.decl id).kind = .classType) (other : id ≠ env.object)
      (written : (env.tree.decl id).extended = clause :: rest)
      (failed : (env.clauseSupertype id clause).outcome = .error fault) :
      ClauseFails env (.item id) fault
  | interface {id : ItemId} {clause : ClassExpr} {fault : Fault}
      (written : clause ∈ env.interfaceClauses id)
      (failed : (env.clauseSupertype id clause).outcome = .error fault) :
      ClauseFails env (.item id) fault
  | bound {param : TypeParameter} {bound : ClassExpr} {fault : Fault}
      (written : bound ∈ (env.tree.param param).bounds)
      (failed : (env.convertClassAt param.owner.typeSite bound).outcome = .error fault) :
      ClauseFails env (.parameter param) fault

/-- The supertype that the kind of an item implies is unknown to the source of
names. -/
inductive BaseFails (env : Environment) : Decl → Fault → Prop where
  | enumType {id : ItemId} (isEnum : (env.tree.decl id).kind = .enumType)
      (unknown : env.solve env.roots.enumBase = none) :
      BaseFails env (.item id) (.unresolvedAncestor env.roots.enumBase)
  | annotationType {id : ItemId} (isAnnotationType : (env.tree.decl id).kind = .annotationType)
      (unknown : env.solve env.roots.annotationBase = none) :
      BaseFails env (.item id) (.unresolvedAncestor env.roots.annotationBase)

variable {env : Environment}

/-- A fault is a name that denotes nothing, of one of two kinds. -/
theorem isUnresolved_iff {fault : Fault} : fault.isUnresolved = true ↔
    ∃ name, fault = .unresolvedSymbol name ∨ fault = .unresolvedAncestor name := by
  cases fault <;> simp [Fault.isUnresolved]

/-- A clause that does not resolve lacks a name. -/
theorem ClauseFails.isUnresolved (constructed : env.Constructed) (inTree : env.InTree)
    {decl : Decl} (declares : env.tree.Declares decl) {fault : Fault}
    (fails : env.ClauseFails decl fault) : fault.isUnresolved = true := by
  cases fails with
  | superclass _ _ _ failed =>
      exact (soft_clauseSupertype constructed.wellFormed declares _).soft inTree fault failed
  | interface _ failed =>
      exact (soft_clauseSupertype constructed.wellFormed declares _).soft inTree fault failed
  | @bound param bound _ written failed =>
      have converting := soft_convertClassAt constructed.wellFormed (typeSite_lt declares.1) bound
      exact converting.soft inTree fault failed

theorem BaseFails.isUnresolved {decl : Decl} {fault : Fault} (fails : env.BaseFails decl fault) :
    fault.isUnresolved = true := by
  cases fails <;> rfl

/-- A root type that the settings name fails only when its name is unknown. -/
theorem unknown_of_rootSupertype (wellFormed : env.tree.WellFormed) (inTree : env.InTree)
    {name : String} {args : List SupertypeArg} {fault : Fault}
    (failed : (env.rootSupertype name args).outcome = .error fault) :
    env.solve name = none ∧ fault = .unresolvedAncestor name := by
  unfold rootSupertype at failed
  cases known : env.solve name with
  | none =>
      rw [known] at failed
      cases failed
      exact ⟨rfl, rfl⟩
  | some id =>
      simp only [known, declaration_of_lt wellFormed (inTree name id known), pure_bind] at failed
      cases failed

/-- The position of the superclass fails through the clause that stands there, or
for want of the base type that the kind implies. -/
theorem fails_of_superPosition (wellFormed : env.tree.WellFormed) (inTree : env.InTree)
    {id : ItemId} {fault : Fault} (failed : (env.superPosition id).outcome = .error fault) :
    env.ClauseFails (.item id) fault ∨ env.BaseFails (.item id) fault := by
  cases kind : (env.tree.decl id).kind with
  | classType =>
      simp only [superPosition, superclass, kind] at failed
      split at failed
      · cases failed
      · next other =>
        cases written : (env.tree.decl id).extended with
        | nil =>
            rw [written] at failed
            cases failed
        | cons clause rest =>
            simp only [written, bind_pure_comp, Traced.outcome_map] at failed
            exact .inl (.superclass kind other written (Except.map_eq_error failed))
  | interfaceType =>
      simp only [superPosition, kind] at failed
      split at failed <;> cases failed
  | enumType =>
      simp only [superPosition, superclass, kind, bind_pure_comp, Traced.outcome_map] at failed
      obtain ⟨unknown, rfl⟩ :=
        unknown_of_rootSupertype wellFormed inTree (Except.map_eq_error failed)
      exact .inr (.enumType kind unknown)
  | recordType =>
      simp only [superPosition, superclass, kind] at failed
      cases failed
  | annotationType =>
      simp only [superPosition, kind, bind_pure_comp, Traced.outcome_map] at failed
      obtain ⟨unknown, rfl⟩ :=
        unknown_of_rootSupertype wellFormed inTree (Except.map_eq_error failed)
      exact .inr (.annotationType kind unknown)

/-- The strict search ends at a declaration through one of its clauses or bounds,
or for want of the base type that its kind implies. -/
theorem EndsAt.fails (wellFormed : env.tree.WellFormed) (inTree : env.InTree) {decl : Decl}
    {fault : Fault} (ends : env.EndsAt true decl fault) :
    env.ClauseFails decl fault ∨ env.BaseFails decl fault := by
  cases decl with
  | item id =>
      obtain ⟨position, listed, changed⟩ := List.mem_map.mp ends.asked
      have failed := Except.map_eq_error changed
      rcases List.mem_cons.mp listed with rfl | clausePosition
      · rw [bind_pure_comp, Traced.outcome_map] at failed
        exact fails_of_superPosition wellFormed inTree (Except.map_eq_error failed)
      · obtain ⟨clause, written, rfl⟩ := List.mem_map.mp clausePosition
        rw [bind_pure_comp, Traced.outcome_map] at failed
        exact .inl (.interface written (Except.map_eq_error failed))
  | parameter param =>
      have failed := Except.map_eq_error (List.mem_singleton.mp ends.asked).symm
      obtain ⟨bound, written, converted⟩ := exists_bound_of_strict failed
      exact .inl (.bound written converted)

/-! ## The refinement -/

/-- Over a source of names that keeps to the tree, the strict test refines the
best-effort one.  Where it answers, the other gives the same answer.  Where it
fails, a name denotes nothing, and the fault comes from a declaration that the
best-effort search visits: from a supertype clause or bound of it that does not
resolve, or from the base type that its kind implies. -/
theorem tryCanBeAssignedTo_refines (constructed : env.Constructed) (inTree : env.InTree)
    {decl : Decl} (other : Decl) (declares : env.tree.Declares decl) :
    (∀ holds, (env.tryCanBeAssignedTo decl other).outcome = .ok holds →
      (env.canBeAssignedTo decl other).outcome = .ok holds) ∧
    ∃ visited answer,
      ((env.supertypeSearch (env.tree.qualifiedNameOf other) false).run env.searchDepth
        decl).outcome = .ok (visited, answer) ∧
      ∀ fault, (env.tryCanBeAssignedTo decl other).outcome = .error fault →
        (∃ name, fault = .unresolvedSymbol name ∨ fault = .unresolvedAncestor name) ∧
        ∃ origin ∈ visited, env.ClauseFails origin fault ∨ env.BaseFails origin fault := by
  have lenient := (mirrors_supertypeSearch constructed inTree (env.tree.qualifiedNameOf other)
    declares).outcome_run env.searchDepth (.inl rfl)
  have shadowed := (shadows_supertypeSearch constructed (env.tree.qualifiedNameOf other) true
    declares).run env.searchDepth (.inl rfl)
  rw [canBeAssignedTo, tryCanBeAssignedTo, assignableTo, assignableTo, Traced.outcome_bind,
    Traced.outcome_bind]
  generalize (env.supertypeSearch (env.tree.qualifiedNameOf other) true).run env.searchDepth decl =
    strictRun at shadowed
  cases outcome : strictRun.outcome with
  | ok result =>
      rw [outcome] at shadowed
      cases shadowed
      refine ⟨fun holds same => ?_, _, _, lenient, fun fault failed => (by cases failed)⟩
      rw [lenient]
      exact same
  | error cause =>
      rw [outcome] at shadowed
      refine ⟨fun holds same => (by cases same), _, _, lenient, fun fault failed => ?_⟩
      cases failed
      cases shadowed with
      | fault visited ends =>
          have fails := ends.fails constructed.wellFormed inTree
          refine ⟨isUnresolved_iff.mp ?_, _, visited, fails⟩
          rcases fails with clause | base
          · exact clause.isUnresolved constructed inTree ends.declares
          · exact base.isUnresolved

/-- A class whose superclass is unknown, one with an unknown interface after a
known one, and a type parameter bounded by the former. -/
def halfKnownClasses : DeclTree :=
  .libraryWith "demo"
    [{ TypeDecl.empty .classType "Partial" with
        extended := [.simple "Missing" none]
        implemented := [.simple "Cloneable" none] },
      { TypeDecl.empty .classType "Usable" with
        typeParams := [⟨"T", [.simple "Partial" none]⟩]
        implemented := [.simple "Cloneable" none, .simple "Missing" none] }]

theorem constructed_halfKnownClasses : (selfContained halfKnownClasses).Constructed :=
  constructed_libraryWith _ _

/-- The unknown interface does not matter once the target is found, but the
unknown superclass does, also to a type parameter below it. -/
theorem tryCanBeAssignedTo_halfKnownClasses :
    let env := selfContained halfKnownClasses
    (env.canBeAssignedTo (.item 11) (.item 3)).outcome = .ok true ∧
    (env.tryCanBeAssignedTo (.item 11) (.item 3)).outcome = .ok true ∧
    (env.tryCanBeAssignedTo (.parameter ⟨.type 11, 0⟩) (.item 3)).outcome =
      .error (.unresolvedAncestor "Missing") ∧
    ∃ visited answer,
      ((env.supertypeSearch "java.lang.Cloneable" false).run env.searchDepth
        (.parameter ⟨.type 11, 0⟩)).outcome = .ok (visited, answer) ∧
      ∃ origin ∈ visited, env.ClauseFails origin (.unresolvedAncestor "Missing") ∨
        env.BaseFails origin (.unresolvedAncestor "Missing") := by
  intro env
  have declaresClass : env.tree.Declares (.item 11) :=
    DeclTree.mem_declarations.mp (by decide +kernel)
  have declaresParam : env.tree.Declares (.parameter ⟨.type 11, 0⟩) :=
    DeclTree.mem_declarations.mp (by decide +kernel)
  have found : (env.tryCanBeAssignedTo (.item 11) (.item 3)).outcome = .ok true := by
    decide +kernel
  have failed : (env.tryCanBeAssignedTo (.parameter ⟨.type 11, 0⟩) (.item 3)).outcome =
      .error (.unresolvedAncestor "Missing") := by
    decide +kernel
  obtain ⟨same, _⟩ := tryCanBeAssignedTo_refines constructed_halfKnownClasses
    (inTree_selfContained _) (.item 3) declaresClass
  obtain ⟨_, visited, answer, ran, comesFrom⟩ := tryCanBeAssignedTo_refines
    constructed_halfKnownClasses (inTree_selfContained _) (.item 3) declaresParam
  exact ⟨same true found, found, failed, visited, answer, ran, (comesFrom _ failed).2⟩

/-- A class library with an enum, known by a source of names that lacks the base
type of enums. -/
def enumWithoutBase : Environment where
  tree := .libraryWith "demo" [TypeDecl.empty .enumType "Mode"]
  solve name := [("java.lang.Object", 0), ("java.lang.Record", 1), ("demo.Mode", 10)].lookup name
  roots := .standard
  object := 0
  record := 1

/-- An enum fails the strict test without any clause or bound, when the base type
of enums is unknown. -/
theorem tryCanBeAssignedTo_enumWithoutBase :
    enumWithoutBase.Constructed ∧ enumWithoutBase.InTree ∧
    enumWithoutBase.tree.Declares (.item 10) ∧
    (enumWithoutBase.tryCanBeAssignedTo (.item 10) (.item 0)).outcome =
      .error (.unresolvedAncestor "java.lang.Enum") ∧
    ((enumWithoutBase.supertypeSearch "java.lang.Object" false).run enumWithoutBase.searchDepth
      (.item 10)).outcome = .ok ([.item 10], none) ∧
    ∀ origin ∈ [Decl.item 10], ∀ fault, ¬ enumWithoutBase.ClauseFails origin fault := by
  refine ⟨⟨DeclTree.built_libraryWith _ _, rfl⟩, ?_, ?_, by decide +kernel, by decide +kernel, ?_⟩
  · intro name id known
    obtain ⟨entry, listed, same⟩ : ∃ entry : String × ItemId, entry ∈
        [("java.lang.Object", 0), ("java.lang.Record", 1), ("demo.Mode", 10)] ∧ entry.2 = id := by
      obtain ⟨before, after, split, _⟩ := List.lookup_eq_some_iff.mp known
      exact ⟨(name, id), split ▸ by simp, rfl⟩
    have bounded : ∀ entry ∈ [("java.lang.Object", 0), ("java.lang.Record", 1), ("demo.Mode", 10)],
        entry.2 < enumWithoutBase.tree.size := by decide +kernel
    exact same ▸ bounded entry listed
  · exact DeclTree.mem_declarations.mp (by decide +kernel)
  · intro origin isEnum fault fails
    cases List.mem_singleton.mp isEnum
    have isEnum : (enumWithoutBase.tree.decl 10).kind = .enumType := by decide +kernel
    have clauses : enumWithoutBase.interfaceClauses 10 = [] := by decide +kernel
    cases fails with
    | superclass isClass =>
        rw [isEnum] at isClass
        cases isClass
    | interface written =>
        rw [clauses] at written
        cases written

end Environment

end JavaSymbols

import JavaSymbols.Proofs.Ancestors.Modes
import JavaSymbols.Proofs.Fields.Chains

/-!
# Orderly hierarchies

In an orderly hierarchy every supertype position resolves, with its type
arguments, and no declaration is among its own supertypes.  Every chain of
supertypes then ends with the universal base type, and a strict look never
fails.  Where in addition no item has a supertype nested in it, the direct
ancestors of a declaration are just its direct supertypes.
-/

namespace JavaSymbols.Environment

open Session Relation

variable (env : Environment)

/-- Everything that stands in a supertype position of an item resolves, with its
type arguments; every bound of a type parameter does. -/
def Resolves : Decl → Prop
  | .item id => (∀ outcome ∈ env.candidates id, outcome.toBool = true) ∧
      ∀ supertype ∈ (env.candidates id).filterMap Except.toOption,
        (env.convertArgs id supertype).toBool = true
  | .parameter param => ∀ outcome ∈ env.boundOutcomes param, outcome.toBool = true

instance : DecidablePred env.Resolves
  | .item _ => inferInstanceAs (Decidable (_ ∧ _))
  | .parameter _ => inferInstanceAs (Decidable (∀ _ ∈ _, _))

/-- A hierarchy in which everything resolves and nothing is above itself. -/
structure Orderly : Prop where
  resolves : ∀ decl, env.tree.Declares decl → env.Resolves decl
  acyclic : ∀ decl, env.tree.Declares decl → ¬ TransGen env.DirectSupertype decl decl

/-- No item has a supertype that is nested in it. -/
def Foreign : Prop :=
  ∀ id < env.tree.size, ∀ supertype ∈ (env.candidates id).filterMap Except.toOption,
    env.tree.hasNested id supertype.name = false

variable {env} {session : Session}

/-! ## Candidates and direct supertypes -/

/-- The best-effort search enters the candidates that resolve, in order. -/
theorem directTargets_item (id : ItemId) :
    env.directTargets (.item id) =
      ((env.candidates id).filterMap Except.toOption).map
        fun supertype => .item supertype.item := by
  rw [candidates_eq, List.filterMap_flatMap, List.map_flatMap, directTargets]
  congr 1
  funext position
  cases position.outcome with
  | error fault => rfl
  | ok found => simp [targetsOf, yieldedBy, Except.map, List.filterMap_map, Function.comp_def,
      Except.toOption]

theorem directSupertype_of_candidate {id : ItemId} {supertype : Supertype}
    (member : .ok supertype ∈ env.candidates id) :
    env.DirectSupertype (.item id) (.item supertype.item) := by
  rw [directSupertype_item_iff, directTargets_item]
  exact List.mem_map.mpr ⟨supertype, mem_filterMap_toOption.mpr member, rfl⟩

/-- Nothing stands in the position of the superclass only of the universal base
type, and of interfaces that extend others. -/
theorem exists_clause_of_superPosition {id : ItemId}
    (nothing : (env.superPosition id).outcome = .ok none) :
    id = env.object ∨ ∃ clause, clause ∈ env.interfaceClauses id := by
  have noSome : ∀ run : Traced Supertype, (do
      let supertype ← run
      pure (some supertype) : Traced (Option Supertype)).outcome ≠ .ok none := by
    intro run
    rw [Traced.outcome_bind]
    cases run.outcome with
    | error fault => exact nofun
    | ok supertype => exact nofun
  unfold superPosition at nothing
  split at nothing
  · next isInterface =>
    split at nothing
    · cases nothing
    · next extendsSome =>
      cases clauses : (env.tree.decl id).extended with
      | nil => simp [clauses] at extendsSome
      | cons clause rest => exact .inr ⟨clause, by simp [interfaceClauses, isInterface, clauses]⟩
  · exact absurd nothing (noSome _)
  · next notInterface notAnnotation =>
    unfold superclass at nothing
    split at nothing
    · split at nothing
      · next isObject => exact .inl isObject
      · split at nothing
        · cases nothing
        · exact absurd nothing (noSome _)
    · exact absurd nothing (noSome _)
    · cases nothing
    · next isInterface => exact absurd isInterface notInterface
    · next isAnnotation => exact absurd isAnnotation notAnnotation

theorem boundsOrObject_ne_nil (types : List Ty) : env.boundsOrObject types ≠ [] := by
  unfold boundsOrObject
  split
  · simp
  · next some => simpa using some

/-- A type parameter always has a direct supertype. -/
theorem exists_directSupertype_parameter (constructed : env.Constructed) (inTree : env.InTree)
    {param : TypeParameter} (inside : param.owner.item < env.tree.size) :
    ∃ id : Nat, id < env.tree.size ∧ env.DirectSupertype (.parameter param) (.item id) := by
  have given := (outcome_supertypesOfParameter constructed.wellFormed inTree inside).1
  cases found : env.boundsOrObject ((env.boundOutcomes param).filterMap Except.toOption) with
  | nil => exact absurd found (boundsOrObject_ne_nil _)
  | cons reference rest =>
      rw [found] at given
      have first : reference ∈ reference :: rest := List.mem_cons_self
      have within := (firm_supertypesOfParameter constructed inside).good _ given reference first
      have isTarget : .item reference.item ∈ env.directTargets (.parameter param) :=
        mem_directTargets_parameter.mpr ⟨_, given, reference, first, rfl⟩
      exact ⟨reference.item, within,
        (directSupertype_parameter_iff constructed inTree inside).mpr isTarget⟩

namespace Orderly

variable (orderly : env.Orderly) (constructed : env.Constructed) (inTree : env.InTree)

include orderly

/-! ## The universal base type -/

/-- Every other item has a candidate that resolves. -/
theorem exists_candidate {id : Nat} (inside : id < env.tree.size) (other : id ≠ env.object) :
    ∃ supertype, .ok supertype ∈ env.candidates id := by
  have resolves := (orderly.resolves (.item id) inside).1
  cases inPosition : (env.superPosition id).outcome with
  | error fault =>
      have candidate : .error fault ∈ env.candidates id := by
        simp [candidates, inPosition, yieldedBy, Except.map]
      exact absurd (resolves _ candidate) Bool.false_ne_true
  | ok found =>
      cases found with
      | some supertype =>
          exact ⟨supertype, by simp [candidates, inPosition, yieldedBy, Except.map]⟩
      | none =>
          rcases exists_clause_of_superPosition inPosition with isObject | ⟨clause, written⟩
          · exact absurd isObject other
          · have candidate : (env.clauseSupertype id clause).outcome ∈ env.candidates id :=
              List.mem_append_right _ (List.mem_map_of_mem written)
            obtain ⟨supertype, denotes⟩ := Except.exists_of_toBool (resolves _ candidate)
            exact ⟨supertype, denotes ▸ candidate⟩

include constructed

/-- Every item is below the universal base type. -/
theorem item_reaches_object {id : Nat} (inside : id < env.tree.size) :
    ReflTransGen env.DirectSupertype (.item id) (.item env.object) := by
  have within : ∀ lower < env.tree.size, ∀ upper,
      env.DirectSupertype (.item lower) (.item upper) → upper < env.tree.size := by
    intro lower lowerInside upper step
    have declares : env.tree.Declares (.item lower) := lowerInside
    obtain ⟨id, idInside, same⟩ := directTargets_within constructed declares
      (directSupertype_item_iff.mp step)
    cases same
    exact idInside
  have acyclic : ∀ id < env.tree.size,
      ¬ TransGen (fun lower upper => env.DirectSupertype (.item lower) (.item upper)) id id :=
    fun id inside cycle =>
      orderly.acyclic (.item id) inside (cycle.lift Decl.item fun _ _ step => step)
  have step : ∀ id < env.tree.size, (∀ upper, env.DirectSupertype (.item id) (.item upper) →
      ReflTransGen env.DirectSupertype (.item upper) (.item env.object)) →
        ReflTransGen env.DirectSupertype (.item id) (.item env.object) := by
    intro id inside ih
    by_cases isObject : id = env.object
    · rw [isObject]
    · obtain ⟨supertype, candidate⟩ := orderly.exists_candidate inside isObject
      have first := directSupertype_of_candidate candidate
      exact .head first (ih supertype.item first)
  exact induction_of_acyclic within acyclic step inside

include inTree

/-- Every declaration is below the universal base type. -/
theorem reaches_object {decl : Decl} (declares : env.tree.Declares decl) :
    ReflTransGen env.DirectSupertype decl (.item env.object) := by
  cases decl with
  | item id => exact orderly.item_reaches_object constructed declares
  | parameter param =>
      obtain ⟨id, inside, step⟩ := exists_directSupertype_parameter constructed inTree declares.1
      exact .head step (orderly.item_reaches_object constructed inside)

omit inTree

/-- The universal base type has no supertypes. -/
theorem not_directSupertype_object (decl : Decl) :
    ¬ env.DirectSupertype (.item env.object) decl := by
  intro step
  have declares : env.tree.Declares (.item env.object) := constructed.object_lt
  obtain ⟨id, inside, rfl⟩ := directTargets_within constructed declares
    (directSupertype_item_iff.mp step)
  exact orderly.acyclic _ declares
    (.head' step (orderly.item_reaches_object constructed inside))

/-! ## Nothing is overlooked -/

include inTree

theorem not_flawed {decl : Decl} (declares : env.tree.Declares decl) : ¬ env.Flawed decl := by
  have resolves := orderly.resolves decl declares
  rintro (skips | keeps)
  · cases decl with
    | item id =>
        obtain ⟨_, fault, candidate⟩ := skips
        exact absurd (resolves.1 _ candidate) Bool.false_ne_true
    | parameter param =>
        obtain ⟨fault, bound⟩ := skips
        exact absurd (resolves _ bound) Bool.false_ne_true
  · cases decl with
    | item id =>
        obtain ⟨found, given, supertype, member, fault, failed⟩ := keeps
        have candidate := mem_candidates_of_supertypesOf constructed inTree declares given member
        have converts := resolves.2 supertype (mem_filterMap_toOption.mpr candidate)
        rw [failed] at converts
        cases converts
    | parameter param => exact keeps

/-- The direct ancestors of a declaration are its direct supertypes. -/
theorem ancestorTargets_eq (foreign : env.Foreign) {decl : Decl}
    (declares : env.tree.Declares decl) : env.ancestorTargets decl = env.directTargets decl := by
  cases decl with
  | parameter param => rfl
  | item id =>
      by_cases isObject : id = env.object
      · have noTargets : env.directTargets (.item id) = [] := by
          apply List.eq_nil_iff_forall_not_mem.mpr
          intro other member
          rw [isObject] at member
          exact orderly.not_directSupertype_object constructed other
            (directSupertype_item_iff.mpr member)
        have nothing : (env.supertypesOf id true).outcome = .ok [] := by
          rw [supertypesOf, if_pos isObject]
          rfl
        rw [noTargets, ancestorTargets_of_item nothing]
        rfl
      · have all : env.admitted id ((env.candidates id).filterMap Except.toOption) =
            (env.candidates id).filterMap Except.toOption := by
          apply List.filter_eq_self.mpr
          intro supertype member
          simp [foreign id declares supertype member]
        have given := (outcome_supertypesOf constructed inTree declares isObject).1
        rw [ancestorTargets_of_item given, all, directTargets_item]

/-! ## The strict test -/

/-- No supertype position of a declaration gives up. -/
theorem no_fault_in_positionOutcomes {decl : Decl} (declares : env.tree.Declares decl)
    (fault : Fault) : .error fault ∉ env.positionOutcomes decl := by
  intro member
  cases decl with
  | item id =>
      obtain ⟨position, listed, failed⟩ := List.mem_map.mp member
      have result := Except.map_eq_error failed
      have candidate : .error fault ∈ env.candidates id := by
        rw [candidates_eq]
        exact List.mem_flatMap.mpr ⟨position, listed, by simp [result, yieldedBy]⟩
      exact absurd ((orderly.resolves _ declares).1 _ candidate) Bool.false_ne_true
  | parameter param =>
      obtain ⟨found, given⟩ := (firm_supertypesOfParameter constructed declares.1).total inTree
      simp [positionOutcomes, given, Except.map] at member

theorem outcome_positionTargets_strict {decl : Decl} (declares : env.tree.Declares decl) :
    (env.positionTargets true decl).outcome = .ok (env.positionOutcomes decl) := by
  cases decl with
  | item id => exact outcome_mapM_attempt _ _
  | parameter param =>
      rcases supertypesOfParameter_strict constructed.wellFormed inTree declares.1 with
        ⟨found, strict, lenient, _⟩ | ⟨_, _, skips⟩
      · simp [positionTargets, positionOutcomes, strict, lenient, Except.map]
      · exact absurd (.inl skips) (orderly.not_flawed constructed inTree declares)

/-- Both tests give the same answer. -/
theorem outcome_tryCanBeAssignedTo {decl : Decl} (declares : env.tree.Declares decl)
    (other : Decl) :
    (env.tryCanBeAssignedTo decl other).outcome = (env.canBeAssignedTo decl other).outcome := by
  have strictly := (mirrors_of_passes constructed (env.tree.qualifiedNameOf other) declares
    (fun below meets => orderly.outcome_positionTargets_strict constructed inTree
      (meets.declares declares))
    fun below meets fault member => absurd member (orderly.no_fault_in_positionOutcomes constructed
      inTree (meets.declares declares) fault)).outcome_run env.searchDepth (.inl rfl)
  have leniently := (mirrors_supertypeSearch constructed inTree (env.tree.qualifiedNameOf other)
    declares).outcome_run env.searchDepth (.inl rfl)
  rw [tryCanBeAssignedTo, canBeAssignedTo, assignableTo, assignableTo, Traced.outcome_bind,
    Traced.outcome_bind, strictly, leniently]
  rfl

/-! ## All ancestors -/

/-- Asked strictly for all ancestors, a declaration has those that are collected
after it. -/
theorem exists_allAncestors_strict (sound : session.Sound env) {decl : Decl}
    (declares : env.tree.Declares decl) :
    ∃ references, (env.allAncestorsOf decl false session).1 = .ok references ∧
      env.collected decl = decl :: references.map (fun reference => .item reference.item) ∧
      ∀ reference ∈ references, reference.name = env.tree.qualifiedName reference.item := by
  obtain ⟨walked, walk⟩ : ∃ walked, env.strictWalk decl = .ok walked := by
    cases walk : env.strictWalk decl with
    | ok walked => exact ⟨walked, rfl⟩
    | error fault =>
        obtain ⟨visited, member, flawed⟩ :=
          (strictWalk_fails_iff constructed inTree declares).mp ⟨fault, walk⟩
        have visitedDeclares :=
          (meets_of_mem_collected constructed declares member).declares declares
        exact absurd flawed (orderly.not_flawed constructed inTree visitedDeclares)
  have strictly := (runs_allAncestors_of_strictWalk constructed inTree sound declares false
    (walk ▸ foreseen_ok walked)).good
  have leniently := (runs_allAncestors_of_strictWalk constructed inTree sound declares true
    (walk ▸ foreseen_ok walked)).good
  obtain ⟨references, answered, collected⟩ :=
    (runs_allAncestors_lenient constructed inTree sound declares).good
  exact ⟨references, by rw [strictly, ← leniently, answered], collected⟩

end Orderly

/-! ## Hierarchies that can be checked -/

/-- No declaration is above itself if the candidates of every item rank below
it. -/
theorem acyclic_of_ranked_candidates (constructed : env.Constructed) (rank : Nat → Nat)
    (ranked : ∀ id < env.tree.size, ∀ supertype ∈ (env.candidates id).filterMap Except.toOption,
      rank supertype.item < rank id) :
    ∀ decl, env.tree.Declares decl → ¬ TransGen env.DirectSupertype decl decl := by
  have above_item : ∀ {lower upper : Decl}, env.DirectSupertype lower upper →
      ∃ id, upper = .item id := by
    intro lower upper step
    cases step <;> exact ⟨_, rfl⟩
  have descends : ∀ (id : Nat), id < env.tree.size → ∀ decl,
      TransGen env.DirectSupertype (.item id) decl →
        ∃ upper : Nat, decl = .item upper ∧ upper < env.tree.size ∧ rank upper < rank id := by
    have step : ∀ (lower : Nat), lower < env.tree.size → ∀ decl,
        env.DirectSupertype (.item lower) decl →
          ∃ upper : Nat, decl = .item upper ∧ upper < env.tree.size ∧ rank upper < rank lower := by
      intro lower inside decl direct
      have declares : env.tree.Declares (.item lower) := inside
      have isTarget := directSupertype_item_iff.mp direct
      obtain ⟨upper, upperInside, rfl⟩ := directTargets_within constructed declares isTarget
      rw [directTargets_item] at isTarget
      obtain ⟨supertype, member, same⟩ := List.mem_map.mp isTarget
      cases same
      exact ⟨_, rfl, upperInside, ranked lower inside supertype member⟩
    intro id inside decl path
    induction path with
    | single direct => exact step id inside _ direct
    | tail _ direct ih =>
        obtain ⟨middle, rfl, middleInside, below⟩ := ih
        obtain ⟨upper, same, upperInside, lower⟩ := step middle middleInside _ direct
        exact ⟨upper, same, upperInside, lower.trans below⟩
  intro decl declares cycle
  obtain ⟨_, _, last⟩ := TransGen.tail'_iff.mp cycle
  obtain ⟨id, rfl⟩ := above_item last
  obtain ⟨upper, same, _, below⟩ := descends id declares _ cycle
  cases same
  exact below.false

end JavaSymbols.Environment

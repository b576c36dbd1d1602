import JavaSymbols.Proofs.Ancestors.Candidates
import JavaSymbols.Proofs.Subtyping.Reachability

/-!
# Faults of a search for supertypes

A search for supertypes ends with a fault at the first position that does not
resolve, if it is strict, and otherwise at the first that fails for another
reason than an unknown name.  Up to there it runs in step with the plain search
through direct supertypes, whatever ids the source of names answers.
-/

namespace JavaSymbols.Environment

open Relation

/-- What the supertype positions of a declaration come to in a search. -/
def askedOutcomes (env : Environment) (strict : Bool) : Decl → List (Except Fault (List ItemId))
  | .item id => env.positionOutcomes (.item id)
  | .parameter param =>
      [(env.supertypesOfParameter param !strict).outcome.map fun found => found.map Reference.item]

/-- A search ends at a declaration, because one of its supertype positions has a
fault that is not passed over. -/
structure EndsAt (env : Environment) (strict : Bool) (decl : Decl) (fault : Fault) : Prop where
  declares : env.tree.Declares decl
  asked : .error fault ∈ env.askedOutcomes strict decl
  kept : strict = true ∨ fault.isUnresolved = false

variable {env : Environment}

theorem outcome_positionTargets_asked (strict : Bool) (decl : Decl) :
    (env.positionTargets strict decl).outcome = .ok (env.askedOutcomes strict decl) := by
  cases decl with
  | item id => exact outcome_mapM_attempt _ _
  | parameter param => rfl

/-! ## Bounds -/

/-- Bounds of which all resolve are the same to a strict and to a lenient look. -/
theorem outcome_admitBounds_of_strict {site : TypeSite} {bounds : List ClassExpr}
    {found : List Reference} (done : (env.admitBounds site false bounds).outcome = .ok found) :
    (env.admitBounds site true bounds).outcome = .ok found := by
  rw [outcome_admitBounds_strict] at done
  cases all : (bounds.map fun bound => (env.convertClassAt site bound).outcome).mapM
      fun outcome => outcome with
  | error fault =>
      rw [all] at done
      cases done
  | ok types =>
      rw [all] at done
      cases done
      have converted := eq_map_ok_of_mapM all
      have soft : ∀ bound ∈ bounds, ∀ fault,
          (env.convertClassAt site bound).outcome = .error fault → fault.isUnresolved = true := by
        intro bound written fault failed
        have member : (env.convertClassAt site bound).outcome ∈ types.map Except.ok :=
          converted ▸ List.mem_map_of_mem written
        obtain ⟨type, _, same⟩ := List.mem_map.mp member
        rw [failed] at same
        cases same
      rw [outcome_admitBounds_lenient soft, filterMap_toOption_of_mapM all]

theorem outcome_supertypesOfParameter_of_strict {param : TypeParameter} {found : List Reference}
    (done : (env.supertypesOfParameter param false).outcome = .ok found) :
    (env.supertypesOfParameter param true).outcome = .ok found := by
  rw [supertypesOfParameter, Traced.outcome_bind] at done ⊢
  obtain ⟨bounds, given, same⟩ := Except.bind_eq_ok done
  rw [outcome_admitBounds_of_strict given]
  exact same

/-- A strict look at the bounds of a type parameter fails at a bound. -/
theorem exists_bound_of_strict {param : TypeParameter} {fault : Fault}
    (failed : (env.supertypesOfParameter param false).outcome = .error fault) :
    ∃ bound ∈ (env.tree.param param).bounds,
      (env.convertClassAt param.owner.typeSite bound).outcome = .error fault := by
  rw [supertypesOfParameter, Traced.outcome_bind, outcome_admitBounds_strict] at failed
  cases all : ((env.tree.param param).bounds.map fun bound =>
      (env.convertClassAt param.owner.typeSite bound).outcome).mapM fun outcome => outcome with
  | ok types =>
      rw [all] at failed
      cases failed
  | error cause =>
      rw [all] at failed
      cases failed
      obtain ⟨outcome, listed, same⟩ := exists_of_mapM_eq_error all
      obtain ⟨bound, written, converted⟩ := List.mem_map.mp listed
      exact ⟨bound, written, converted.trans same⟩

/-! ## The search -/

theorem error_mem_positionEdges {outcomes : List (Except Fault (List ItemId))} {fault : Fault}
    (member : .error fault ∈ positionEdges outcomes) : .error fault ∈ outcomes := by
  obtain ⟨outcome, listed, within⟩ := List.mem_flatMap.mp member
  cases outcome with
  | ok targets =>
      obtain ⟨id, _, same⟩ := List.mem_map.mp within
      cases same
  | error cause =>
      cases List.mem_singleton.mp within
      exact listed

/-- Edges of a search lead to their items, up to the first fault that is not
passed over. -/
theorem advances_edges {target : String} {strict : Bool} {decl : Decl} {fails : Fault → Prop}
    {edges : List (Except Fault ItemId)}
    (inside : ∀ next ∈ edges.filterMap leads, ∃ id : Nat, id < env.tree.size ∧ next = .item id)
    (ends : ∀ fault, .error fault ∈ edges → strict = true ∨ fault.isUnresolved = false →
      fails fault) :
    Search.Advances (fun edge => ((env.supertypeSearch target strict).enter decl edge).outcome)
      fails edges (edges.filterMap leads) := by
  induction edges with
  | nil => exact .done
  | cons edge rest ih =>
      have endsLater := fun fault member => ends fault (List.mem_cons_of_mem edge member)
      cases edge with
      | ok id =>
          rw [List.filterMap_cons_some (show leads (.ok id) = some (.item id) from rfl)] at inside ⊢
          obtain ⟨known, bound, same⟩ := inside (.item id) List.mem_cons_self
          cases same
          exact .step (outcome_enter_item bound)
            (ih (fun next member => inside next (List.mem_cons_of_mem _ member)) endsLater)
      | error fault =>
          rw [List.filterMap_cons_none (show leads (.error fault) = none from rfl)] at inside ⊢
          by_cases passed : strict = false ∧ fault.isUnresolved = true
          · exact .pass (outcome_enter_passed passed.1 passed.2) (ih inside endsLater)
          · have kept : strict = true ∨ fault.isUnresolved = false := by
              cases strict <;> simp_all
            exact .fault (outcome_enter_kept kept) (ends fault List.mem_cons_self kept)

/-- A search for supertypes runs in step with the plain one through direct
supertypes, up to a fault of a declaration that it ends at. -/
theorem shadows_supertypeSearch (constructed : env.Constructed) (target : String) (strict : Bool)
    {start : Decl} (declares : env.tree.Declares start) :
    Search.Shadows (env.supertypeSearch target strict)
      (fun decl => if env.tree.qualifiedNameOf decl = target then some () else none)
      env.directTargets (env.EndsAt strict) (env.Meets start) where
  visited decl _ := rfl
  entered decl meets := by
    have here := meets.declares declares
    refine ⟨positionEdges (env.askedOutcomes strict decl), ?_, ?_⟩
    · simp [supertypeSearch, outcome_positionTargets_asked, Except.map]
    · have ends : ∀ fault, .error fault ∈ positionEdges (env.askedOutcomes strict decl) →
          strict = true ∨ fault.isUnresolved = false → env.EndsAt strict decl fault :=
        fun fault member kept => ⟨here, error_mem_positionEdges member, kept⟩
      have ofTargets : env.askedOutcomes strict decl = env.positionOutcomes decl →
          Search.Advances
            (fun edge => ((env.supertypeSearch target strict).enter decl edge).outcome)
            (env.EndsAt strict decl) (positionEdges (env.askedOutcomes strict decl))
            (env.directTargets decl) := by
        intro same
        have targets : (positionEdges (env.askedOutcomes strict decl)).filterMap leads =
            env.directTargets decl := by
          rw [filterMap_leads_positionEdges, same, ← directTargets_eq]
        rw [← targets]
        refine advances_edges ?_ ends
        intro next member
        exact directTargets_within constructed here (targets ▸ member)
      cases decl with
      | item id => exact ofTargets rfl
      | parameter param =>
          cases strict with
          | false => exact ofTargets rfl
          | true =>
              cases asked : (env.supertypesOfParameter param false).outcome with
              | ok found =>
                  apply ofTargets
                  simp [askedOutcomes, positionOutcomes, asked,
                    outcome_supertypesOfParameter_of_strict asked]
              | error fault =>
                  -- the bounds of the best-effort search do not matter, since this one ends here
                  have listed : env.askedOutcomes true (.parameter param) = [.error fault] := by
                    simp [askedOutcomes, asked, Except.map]
                  rw [listed] at ends ⊢
                  exact .fault rfl (ends fault List.mem_cons_self (.inl rfl))
  within := (region_meets constructed declares).within

/-- Where a test answers, and declarations are told apart by their names, it
answers whether the plain search comes to the declaration asked about. -/
theorem answer_iff (constructed : env.Constructed) (distinct : env.tree.DistinctNames)
    {strict : Bool} {decl other : Decl} (declares : env.tree.Declares decl)
    (declaresOther : env.tree.Declares other) {answer : Bool}
    (done : (env.assignableTo decl other strict).outcome = .ok answer) :
    answer = true ↔
      ReflTransGen (fun lower upper => upper ∈ env.directTargets lower) decl other := by
  have shadowed := (shadows_supertypeSearch constructed (env.tree.qualifiedNameOf other) strict
    declares).run env.searchDepth (.inl rfl)
  rw [assignableTo, Traced.outcome_bind] at done
  obtain ⟨result, ran, same⟩ := Except.bind_eq_ok done
  rw [ran] at shadowed
  cases same
  cases shadowed
  have region := region_meets constructed declares
  have apart : ∀ first second, env.Meets decl first → env.Meets decl second →
      env.tree.qualifiedNameOf first = env.tree.qualifiedNameOf second → first = second :=
    fun first second meets meetsOther => distinct first second (meets.declares declares)
      (meetsOther.declares declares)
  have enough : (env.tree.qualifiedNameOf decl ::
      env.tree.ids.map env.tree.qualifiedName).length ≤ env.searchDepth := by
    simp [DeclTree.ids, searchDepth]
  refine (Search.run_answers_iff region (.inl rfl) enough apart).trans ?_
  constructor
  · rintro ⟨node, path, answers⟩
    have meets := Search.within_of_reflTransGen region.within (.inl rfl) path
    have named : env.tree.qualifiedNameOf node = env.tree.qualifiedNameOf other := by
      by_contra different
      simp [different] at answers
    exact distinct node other (meets.declares declares) declaresOther named ▸ path
  · exact fun path => ⟨other, path, by simp⟩

end JavaSymbols.Environment

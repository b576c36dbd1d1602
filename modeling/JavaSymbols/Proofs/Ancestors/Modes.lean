import JavaSymbols.Proofs.Ancestors.Exact

/-!
# Strict and lenient ancestors

The two modes ask the same positions and walk the same way.  A strict look has
the answer of a lenient one, or it has a fault; and a strict walk has a fault
just when the lenient walk overlooks something at a declaration that it comes to.
Neither depends on what was asked before.
-/

namespace JavaSymbols.Environment

open Session

variable {env : Environment} {session : Session}

/-! ## Direct ancestors -/

/-- The answer to a query consists of some supertypes of an item as
references. -/
def Instantiates (env : Environment) (query : Query (List Reference)) (session : Session)
    (id : ItemId) (found : List Supertype) : Prop :=
  ∃ references, (query session).1 = .ok references ∧
    List.Forall₂ (Instance env (query session).2.cells id) found references

theorem instantiates_of_supertypesOf (sound : session.Sound env) {id : Nat}
    (inside : id < env.tree.size) {lenient : Bool} {found : List Supertype}
    (given : (env.supertypesOf id lenient).outcome = .ok found) :
    env.Instantiates (env.ancestorsOf (.item id) lenient) session id found := by
  have agree := (runs_itemAncestors sound inside lenient).good
  rw [given] at agree
  obtain ⟨references, answered, instances, _⟩ := agree.answers
  exact ⟨references, answered, instances⟩

theorem fails_of_supertypesOf (sound : session.Sound env) {id : Nat}
    (inside : id < env.tree.size) {lenient : Bool} {fault : Fault}
    (failed : (env.supertypesOf id lenient).outcome = .error fault) :
    (env.ancestorsOf (.item id) lenient session).1 = .error fault := by
  have agree := (runs_itemAncestors sound inside lenient).good
  rw [failed] at agree
  exact agree.fails

/-! ## All ancestors -/

/-- What a strict walk comes to, or its first fault. -/
def strictWalk (env : Environment) (decl : Decl) : Except Fault (List Ascent × Option Empty) :=
  (Search.outline (fun ascent : Ascent => env.tree.qualifiedNameOf ascent.decl)
    (fun ascent => env.strictEdges ascent.decl) ascend).run env.searchDepth ⟨decl, none⟩

/-- Both modes give the references of the strict walk; the lenient one as far as
that has no fault. -/
theorem runs_allAncestors_of_strictWalk (constructed : env.Constructed) (inTree : env.InTree)
    (sound : session.Sound env) {decl : Decl} (declares : env.tree.Declares decl) (lenient : Bool)
    (foreseen : Foreseen (lenient = true) (env.strictWalk decl)) :
    Query.Runs (Sound env) Follows session (env.allAncestorsOf decl lenient) fun _ outcome =>
      outcome = (env.strictWalk decl).map fun walked => walked.1.filterMap Ascent.view := by
  have start : env.Viewed ⟨decl, none⟩ := ⟨declares, nofun⟩
  have walks := (outlined_ancestorSearch constructed inTree lenient).runs_run (env.tree.size + 1)
    sound ⟨rfl, start⟩ foreseen
  change Query.Runs _ _ _ _ fun after => Agree _ (env.strictWalk decl) at walks
  generalize env.strictWalk decl = walk at walks
  refine walks.bind ?_ ?_
  · rintro after cause _ agree
    cases agree
    rfl
  · rintro after ⟨ascents, answer⟩ soundAfter _ agree
    refine Query.runs_pure soundAfter ?_
    cases agree with
    | @value walked _ collected =>
        have same : ascents = walked.1 := by
          have pairs := collected.same
          change List.Forall₂ _ walked.1 ascents at pairs
          generalize walked.1 = twins at pairs
          clear collected
          induction pairs with
          | nil => rfl
          | cons here _ ih => rw [here.1, ih]
        rw [same]
        rfl

/-- A strict walk has a fault just when something is overlooked at a declaration
that a lenient one collects. -/
theorem strictWalk_fails_iff (constructed : env.Constructed) (inTree : env.InTree) {decl : Decl}
    (declares : env.tree.Declares decl) :
    (∃ fault, env.strictWalk decl = .error fault) ↔
      ∃ visited ∈ env.collected decl, env.Flawed visited := by
  have start : env.Viewed ⟨decl, none⟩ := ⟨declares, nofun⟩
  exact Search.outline_run_fails_iff (faulty_ascend constructed inTree) env.searchDepth start

/-- In any two sessions that questions lead to: leniently an item other than the
universal base type has as its ancestors those of its candidates that resolve and
are not nested in it; strictly it has the same if all candidates resolve, and else
the fault of the first that does not.  A strict answer for all ancestors is the
lenient answer, and there is none just when, at a declaration that the lenient
walk comes to, it skips a candidate or keeps a supertype whose type arguments do
not resolve. -/
theorem ancestors_modes_agree (constructed : env.Constructed) (inTree : env.InTree)
    {decl : Decl} (declares : env.tree.Declares decl) {first second : Session}
    (reached : first.Reached env) (reachedOther : second.Reached env) :
    (∀ id, decl = .item id → id ≠ env.object →
      env.Instantiates (env.ancestorsOf decl true) first id
        (env.admitted id ((env.candidates id).filterMap Except.toOption)) ∧
      ((∀ outcome ∈ env.candidates id, ∃ supertype, outcome = .ok supertype) →
        env.Instantiates (env.ancestorsOf decl false) first id
          (env.admitted id ((env.candidates id).filterMap Except.toOption))) ∧
      ∀ (early : List Supertype) fault late,
        env.candidates id = early.map Except.ok ++ Except.error fault :: late →
          (env.ancestorsOf decl false first).1 = .error fault) ∧
    (∀ references, (env.allAncestorsOf decl false first).1 = .ok references →
      (env.allAncestorsOf decl true second).1 = .ok references) ∧
    ((∃ fault, (env.allAncestorsOf decl false first).1 = .error fault) ↔
      ∃ references, (env.allAncestorsOf decl true second).1 = .ok references ∧
        ∃ visited ∈ decl :: references.map (fun reference => .item reference.item),
          env.Skips visited ∨ env.Keeps visited) := by
  have sound := (collecting_of_reached constructed reached).1.sound
  have soundOther := (collecting_of_reached constructed reachedOther).1.sound
  have strictly := (runs_allAncestors_of_strictWalk constructed inTree sound declares false
    (foreseen_of_not Bool.false_ne_true)).good
  refine ⟨?_, ?_, ?_⟩
  · rintro id rfl other
    have inside : id < env.tree.size := declares
    obtain ⟨lenient, strict⟩ := outcome_supertypesOf constructed inTree inside other
    refine ⟨instantiates_of_supertypesOf sound inside lenient, ?_, ?_⟩
    · intro resolve
      obtain ⟨values, done⟩ := exists_mapM_eq_ok resolve
      rw [done] at strict
      rw [filterMap_toOption_of_mapM done]
      exact instantiates_of_supertypesOf sound inside strict
    · intro early fault late split
      rw [split, mapM_map_ok_append_error] at strict
      exact fails_of_supertypesOf sound inside strict
  · intro references answered
    rw [answered] at strictly
    cases walk : env.strictWalk decl with
    | error fault =>
        rw [walk] at strictly
        cases strictly
    | ok walked =>
        have leniently := (runs_allAncestors_of_strictWalk constructed inTree soundOther declares
          true (walk ▸ foreseen_ok walked)).good
        rw [leniently, strictly]
  · obtain ⟨references, answered, isCollected, _⟩ :=
      (runs_allAncestors_lenient constructed inTree soundOther declares).good
    have fails := strictWalk_fails_iff constructed inTree declares
    rw [isCollected] at fails
    rw [strictly]
    constructor
    · rintro ⟨fault, failed⟩
      cases walk : env.strictWalk decl with
      | ok walked =>
          rw [walk] at failed
          cases failed
      | error cause => exact ⟨references, answered, fails.mp ⟨cause, walk⟩⟩
    · rintro ⟨others, given, overlooks⟩
      rw [answered] at given
      cases given
      obtain ⟨fault, failed⟩ := fails.mpr overlooks
      exact ⟨fault, by rw [failed]; rfl⟩

/-- A class that extends another with an unknown type argument, and a class that
extends that one and implements an unknown interface. -/
def wantingClasses : DeclTree :=
  .libraryWith "demo"
    [{ TypeDecl.empty .classType "Base" with typeParams := [⟨"X", []⟩] },
      { TypeDecl.empty .classType "Keeper" with
        extended := [.simple "Base" (some [.named (.simple "Unknown" none)])] },
      { TypeDecl.empty .classType "Skipper" with
        extended := [.simple "Keeper" none]
        implemented := [.simple "Missing" none, .simple "Cloneable" none] }]

/-- A session in which a lenient look has skipped a clause and kept arguments. -/
def afterLenientLook : Session :=
  ((Question.allAncestors (.item 12) true).ask (selfContained wantingClasses) .start).2

theorem ancestors_modes_of_wantingClasses :
    (selfContained wantingClasses).Instantiates
      ((selfContained wantingClasses).ancestorsOf (.item 12) true) afterLenientLook 12
      [⟨11, "demo.Keeper", []⟩, ⟨3, "java.lang.Cloneable", []⟩] ∧
    ((selfContained wantingClasses).ancestorsOf (.item 12) false afterLenientLook).1 =
      .error (.unresolvedAncestor "Missing") ∧
    ((selfContained wantingClasses).allAncestorsOf (.item 10) true afterLenientLook).1 =
      .ok [(selfContained wantingClasses).rawReference 0] ∧
    ∃ fault, ((selfContained wantingClasses).allAncestorsOf (.item 11) false .start).1 =
      .error fault := by
  have constructed : (selfContained wantingClasses).Constructed :=
    constructed_libraryWith _ _
  have inTree := inTree_selfContained wantingClasses
  have inside : ∀ id : Nat, id ≤ 12 → id < (selfContained wantingClasses).tree.size := by
    decide +kernel
  have declares : ∀ id : Nat, id ≤ 12 →
      (selfContained wantingClasses).tree.Declares (.item id) := inside
  have reached : afterLenientLook.Reached (selfContained wantingClasses) :=
    .asked .start _ (declares 12 (Nat.le_refl 12))
  have candidates : (selfContained wantingClasses).candidates 12 =
      [.ok ⟨11, "demo.Keeper", []⟩, .error (.unresolvedAncestor "Missing"),
        .ok ⟨3, "java.lang.Cloneable", []⟩] := by decide +kernel
  have answered : ((selfContained wantingClasses).allAncestorsOf (.item 10) false .start).1 =
      .ok [(selfContained wantingClasses).rawReference 0] := by rfl
  have keeps : (selfContained wantingClasses).Keeps (.item 11) :=
    ⟨[⟨10, "demo.Base", [.written (.named (.simple "Unknown" none))]⟩], by decide +kernel, _,
      List.mem_singleton_self _, .unresolvedSymbol "Unknown", rfl⟩
  have walked : ((selfContained wantingClasses).allAncestorsOf (.item 11) true
      afterLenientLook).1.map (List.map Reference.item) = .ok [10, 0] := by decide +kernel
  have ofSkipper := (ancestors_modes_agree constructed inTree (declares 12 (by decide))
    reached .start).1 12 rfl (by decide)
  have ofBase := (ancestors_modes_agree constructed inTree (declares 10 (by decide))
    .start reached).2.1 _ answered
  have ofKeeper := (ancestors_modes_agree constructed inTree (declares 11 (by decide))
    .start reached).2.2
  refine ⟨?_, ofSkipper.2.2 [⟨11, "demo.Keeper", []⟩] _ _ candidates, ofBase, ?_⟩
  · have leniently := ofSkipper.1
    rw [candidates] at leniently
    exact leniently
  · cases given : ((selfContained wantingClasses).allAncestorsOf (.item 11) true
        afterLenientLook).1 with
    | error fault => simp [given, Except.map] at walked
    | ok references =>
        exact ofKeeper.mpr ⟨references, given, .item 11, List.mem_cons_self, .inr keeps⟩

end JavaSymbols.Environment

import JavaSymbols.Proofs.Ancestors.Candidates
import JavaSymbols.Proofs.Search.Outline
import JavaSymbols.Proofs.Session.Ancestors
import JavaSymbols.Proofs.Subtyping.Reachability
import JavaSymbols.Proofs.Views.Substitution

/-!
# Where a strict look at ancestors fails

A lenient walk up passes over candidates that do not resolve, and follows a
supertype as it stands when its type arguments do not.  A strict walk fails at
the first declaration where the lenient one does either.
-/

namespace JavaSymbols

namespace Environment

variable (env : Environment)

/-! ## Flaws -/

/-- A lenient look passes over a candidate of a declaration, or over one of the
bounds of a type parameter, because it does not resolve. -/
def Skips : Decl → Prop
  | .item id => id ≠ env.object ∧ ∃ fault, .error fault ∈ env.candidates id
  | .parameter param => ∃ fault, .error fault ∈ env.boundOutcomes param

/-- A lenient walk follows a supertype of a declaration as it stands, because one
of its type arguments does not resolve. -/
def Keeps : Decl → Prop
  | .item id => ∃ found, (env.supertypesOf id true).outcome = .ok found ∧
      ∃ supertype ∈ found, ∃ fault, env.convertArgs id supertype = .error fault
  | .parameter _ => False

/-- A declaration at which a lenient walk overlooks something. -/
def Flawed (decl : Decl) : Prop :=
  env.Skips decl ∨ env.Keeps decl

/-! ## Steps of a strict walk -/

/-- A supertype of an item with converted type arguments. -/
def convertedEdge (id : ItemId) (supertype : Supertype) : Except Fault Reference :=
  (env.convertArgs id supertype).map fun args => ⟨supertype.item, supertype.name, args⟩

/-- What a strict walk follows from a declaration. -/
def strictEdges : Decl → Except Fault (List (Except Fault Reference))
  | .item id => (env.supertypesOf id false).outcome.map (List.map (env.convertedEdge id))
  | .parameter param => (env.supertypesOfParameter param false).outcome.map (List.map .ok)

/-- Following an edge, with the arguments along the way carried through. -/
def ascend (ascent : Ascent) (edge : Except Fault Reference) : Except Fault Ascent :=
  edge.map fun reference =>
    ⟨.item reference.item, some (reference.seenThrough ascent.view .empty)⟩

/-- What a lenient walk follows from a declaration. -/
def ancestorTargets : Decl → List Decl
  | .item id => targetsOf ((env.supertypesOf id true).outcome.map (List.map Supertype.item))
  | .parameter param =>
      targetsOf ((env.supertypesOfParameter param true).outcome.map (List.map Reference.item))

variable {env}

theorem ancestorTargets_of_item {id : ItemId} {found : List Supertype}
    (given : (env.supertypesOf id true).outcome = .ok found) :
    env.ancestorTargets (.item id) = found.map fun supertype => .item supertype.item := by
  rw [ancestorTargets, given]
  exact List.map_map ..

theorem ancestorTargets_of_parameter {param : TypeParameter} {found : List Reference}
    (given : (env.supertypesOfParameter param true).outcome = .ok found) :
    env.ancestorTargets (.parameter param) = found.map fun reference => .item reference.item := by
  rw [ancestorTargets, given]
  exact List.map_map ..

/-- Strictly and leniently, an item has the same supertypes unless a candidate is
passed over, and then a strict look fails. -/
theorem supertypesOf_strict (constructed : env.Constructed) (inTree : env.InTree) {id : Nat}
    (inside : id < env.tree.size) :
    (∃ found, (env.supertypesOf id false).outcome = .ok found ∧
      (env.supertypesOf id true).outcome = .ok found ∧ ¬ env.Skips (.item id)) ∨
    ∃ fault, (env.supertypesOf id false).outcome = .error fault ∧ env.Skips (.item id) := by
  by_cases isObject : id = env.object
  · refine .inl ⟨[], ?_, ?_, fun skips => skips.1 isObject⟩
    · rw [supertypesOf, if_pos isObject]
      rfl
    · rw [supertypesOf, if_pos isObject]
      rfl
  · obtain ⟨lenient, strict⟩ := outcome_supertypesOf constructed inTree inside isObject
    cases done : (env.candidates id).mapM fun outcome => outcome with
    | error fault =>
        refine .inr ⟨fault, ?_, isObject, mapM_fails_iff.mp ⟨fault, done⟩⟩
        rw [strict, done]
        rfl
    | ok found =>
        refine .inl ⟨env.admitted id found, ?_, ?_, ?_⟩
        · rw [strict, done]
          rfl
        · rw [lenient, filterMap_toOption_of_mapM done]
        · rintro ⟨_, skips⟩
          obtain ⟨fault, failed⟩ := mapM_fails_iff.mpr skips
          rw [done] at failed
          cases failed

/-- As far as a strict look at the supertypes of an item has no fault, a lenient
one gives the same. -/
theorem supertypesOf_of_foreseen (constructed : env.Constructed) (inTree : env.InTree) {id : Nat}
    (inside : id < env.tree.size) {lenient : Bool}
    (foreseen : Foreseen (lenient = true) (env.supertypesOf id false).outcome) :
    (env.supertypesOf id lenient).outcome = (env.supertypesOf id false).outcome := by
  cases lenient with
  | false => rfl
  | true =>
      obtain ⟨found, given⟩ := foreseen rfl
      rcases supertypesOf_strict constructed inTree inside with
        ⟨others, strict, same, _⟩ | ⟨fault, failed, _⟩
      · rw [strict, same]
      · rw [failed] at given
        cases given

theorem supertypesOfParameter_strict (wellFormed : env.tree.WellFormed) (inTree : env.InTree)
    {param : TypeParameter} (inside : param.owner.item < env.tree.size) :
    (∃ found, (env.supertypesOfParameter param false).outcome = .ok found ∧
      (env.supertypesOfParameter param true).outcome = .ok found ∧
        ¬ env.Skips (.parameter param)) ∨
    ∃ fault, (env.supertypesOfParameter param false).outcome = .error fault ∧
      env.Skips (.parameter param) := by
  obtain ⟨lenient, strict⟩ := outcome_supertypesOfParameter wellFormed inTree inside
  cases done : (env.boundOutcomes param).mapM fun outcome => outcome with
  | error fault =>
      refine .inr ⟨fault, ?_, mapM_fails_iff.mp ⟨fault, done⟩⟩
      rw [strict, done]
      rfl
  | ok types =>
      refine .inl ⟨env.boundsOrObject types, ?_, ?_, ?_⟩
      · rw [strict, done]
        rfl
      · rw [lenient, filterMap_toOption_of_mapM done]
      · intro skips
        obtain ⟨fault, failed⟩ := mapM_fails_iff.mpr skips
        rw [done] at failed
        cases failed

theorem supertypesOfParameter_of_foreseen (wellFormed : env.tree.WellFormed) (inTree : env.InTree)
    {param : TypeParameter} (inside : param.owner.item < env.tree.size) {lenient : Bool}
    (foreseen : Foreseen (lenient = true) (env.supertypesOfParameter param false).outcome) :
    (env.supertypesOfParameter param lenient).outcome =
      (env.supertypesOfParameter param false).outcome := by
  cases lenient with
  | false => rfl
  | true =>
      obtain ⟨found, given⟩ := foreseen rfl
      rcases supertypesOfParameter_strict wellFormed inTree inside with
        ⟨others, strict, same, _⟩ | ⟨fault, failed, _⟩
      · rw [strict, same]
      · rw [failed] at given
        cases given

/-! ## What supertypes refer to -/

/-- A supertype of an item is among the candidates that resolve. -/
theorem mem_candidates_of_supertypesOf (constructed : env.Constructed) (inTree : env.InTree)
    {id : Nat} (inside : id < env.tree.size) {found : List Supertype}
    (given : (env.supertypesOf id true).outcome = .ok found) {supertype : Supertype}
    (member : supertype ∈ found) : .ok supertype ∈ env.candidates id := by
  by_cases isObject : id = env.object
  · rw [supertypesOf, if_pos isObject] at given
    cases given
    cases member
  · rw [(outcome_supertypesOf constructed inTree inside isObject).1] at given
    cases given
    exact mem_filterMap_toOption.mp (List.mem_filter.mp member).1

/-- A supertype of an item is an item of the tree and bears its name. -/
theorem within_of_supertypesOf (constructed : env.Constructed) (inTree : env.InTree) {id : Nat}
    (inside : id < env.tree.size) {lenient : Bool} {found : List Supertype}
    (given : (env.supertypesOf id lenient).outcome = .ok found) {supertype : Supertype}
    (member : supertype ∈ found) : supertype.item < env.tree.size ∧ env.Bears supertype := by
  have leniently : (env.supertypesOf id true).outcome = .ok found := by
    cases lenient with
    | true => exact given
    | false =>
        rcases supertypesOf_strict constructed inTree inside with
          ⟨others, strict, same, _⟩ | ⟨fault, failed, _⟩
        · rw [strict] at given
          cases given
          exact same
        · rw [failed] at given
          cases given
  exact ⟨(firm_supertypesOf constructed inside).good found leniently supertype member,
    bears_of_mem_candidates (mem_candidates_of_supertypesOf constructed inTree inside leniently
      member)⟩

/-- The direct supertypes of a type parameter come from bounds that resolve. -/
theorem exists_bounds_of_supertypesOfParameter (wellFormed : env.tree.WellFormed)
    (inTree : env.InTree) {param : TypeParameter} (inside : param.owner.item < env.tree.size)
    {lenient : Bool} {found : List Reference}
    (given : (env.supertypesOfParameter param lenient).outcome = .ok found) :
    ∃ types, found = env.boundsOrObject types ∧
      ∀ type ∈ types, .ok type ∈ env.boundOutcomes param := by
  obtain ⟨leniently, strictly⟩ := outcome_supertypesOfParameter wellFormed inTree inside
  cases lenient with
  | true =>
      rw [leniently] at given
      cases given
      exact ⟨_, rfl, fun type listed => mem_filterMap_toOption.mp listed⟩
  | false =>
      rw [strictly] at given
      cases done : (env.boundOutcomes param).mapM fun outcome => outcome with
      | error fault =>
          rw [done] at given
          cases given
      | ok types =>
          rw [done] at given
          cases given
          refine ⟨types, rfl, ?_⟩
          intro type listed
          rw [eq_map_ok_of_mapM done]
          exact List.mem_map_of_mem listed

/-- A direct supertype of a type parameter is an item of the tree that bears its
name, and nothing in its arguments is deferred. -/
theorem within_of_supertypesOfParameter (constructed : env.Constructed) (inTree : env.InTree)
    {param : TypeParameter} (inside : param.owner.item < env.tree.size) {lenient : Bool}
    {found : List Reference} (given : (env.supertypesOfParameter param lenient).outcome = .ok found)
    {reference : Reference} (member : reference ∈ found) :
    reference.item < env.tree.size ∧ Ty.allEager reference.args = true ∧
      reference.name = env.tree.qualifiedName reference.item := by
  obtain ⟨types, isFound, ofBounds⟩ :=
    exists_bounds_of_supertypesOfParameter constructed.wellFormed inTree inside given
  rw [isFound] at member
  unfold boundsOrObject at member
  split at member
  · rw [List.mem_singleton.mp member]
    exact ⟨constructed.object_lt, rfl, rfl⟩
  · obtain ⟨type, listed, refers⟩ := List.mem_filterMap.mp member
    obtain ⟨bound, _, converts⟩ := List.mem_map.mp (ofBounds type listed)
    obtain ⟨eager, within⟩ :=
      (soft_convertClassAt constructed.wellFormed (typeSite_lt inside) bound).good type converts
    refine ⟨within reference refers, ?_, name_of_convertClassAt converts refers⟩
    cases type with
    | reference item name args =>
        cases refers
        exact eager
    | _ => cases refers

/-! ## Strict and lenient steps -/

/-- A declaration of the tree, come to by a reference without deferred parts. -/
structure Viewed (env : Environment) (ascent : Ascent) : Prop where
  declares : env.tree.Declares ascent.decl
  eager : ∀ view, ascent.view = some view → Ty.allEager view.args = true

theorem Viewed.above {ascent : Ascent} (viewed : env.Viewed ascent) (edge : Reference)
    (inside : edge.item < env.tree.size) (eager : Ty.allEager edge.args = true) :
    env.Viewed ⟨.item edge.item, some (edge.seenThrough ascent.view .empty)⟩ where
  declares := inside
  eager := by
    intro view same
    cases same
    exact Reference.allEager_seenThrough eager viewed.eager

/-- Where nothing is overlooked, a strict walk goes from an item to the ancestors
that a lenient one goes to. -/
theorem strictEdges_of_item (constructed : env.Constructed) (inTree : env.InTree) {id : Nat}
    {view : Option Reference} (viewed : env.Viewed ⟨.item id, view⟩)
    (fine : ¬ env.Flawed (.item id)) :
    ∃ edges, env.strictEdges (.item id) = .ok edges ∧
      List.Forall₂ (fun edge next => ∃ entered, ascend ⟨.item id, view⟩ edge = .ok entered ∧
        entered.decl = next ∧ env.Viewed entered) edges (env.ancestorTargets (.item id)) := by
  have inside : id < env.tree.size := viewed.declares
  rcases supertypesOf_strict constructed inTree inside with
    ⟨found, strict, lenient, _⟩ | ⟨fault, _, skips⟩
  · refine ⟨found.map (env.convertedEdge id), by simp [strictEdges, strict, Except.map], ?_⟩
    rw [ancestorTargets_of_item lenient, List.forall₂_map_left_iff, List.forall₂_map_right_iff,
      List.forall₂_same]
    intro supertype member
    cases converts : env.convertArgs id supertype with
    | error fault =>
        exact absurd (.inr ⟨found, lenient, supertype, member, fault, converts⟩) fine
    | ok args =>
        have eager := allEager_of_convertArgs constructed.wellFormed inside converts
        have within := (within_of_supertypesOf constructed inTree inside lenient member).1
        have above : env.Viewed ⟨.item supertype.item, some (Reference.seenThrough view .empty
            ⟨supertype.item, supertype.name, args⟩)⟩ :=
          viewed.above ⟨supertype.item, supertype.name, args⟩ within eager
        refine ⟨_, ?_, rfl, above⟩
        simp only [convertedEdge, converts, Except.map, ascend]
  · exact absurd (.inl skips) fine

theorem strictEdges_of_parameter (constructed : env.Constructed) (inTree : env.InTree)
    {param : TypeParameter} {view : Option Reference} (viewed : env.Viewed ⟨.parameter param, view⟩)
    (fine : ¬ env.Flawed (.parameter param)) :
    ∃ edges, env.strictEdges (.parameter param) = .ok edges ∧
      List.Forall₂ (fun edge next => ∃ entered, ascend ⟨.parameter param, view⟩ edge = .ok entered ∧
        entered.decl = next ∧ env.Viewed entered) edges
          (env.ancestorTargets (.parameter param)) := by
  have inside : param.owner.item < env.tree.size := viewed.declares.1
  rcases supertypesOfParameter_strict constructed.wellFormed inTree inside with
    ⟨found, strict, lenient, _⟩ | ⟨fault, _, skips⟩
  · refine ⟨found.map .ok, by simp [strictEdges, strict, Except.map], ?_⟩
    rw [ancestorTargets_of_parameter lenient, List.forall₂_map_left_iff,
      List.forall₂_map_right_iff, List.forall₂_same]
    intro reference member
    obtain ⟨within, eager, _⟩ :=
      within_of_supertypesOfParameter constructed inTree inside lenient member
    exact ⟨_, rfl, rfl, viewed.above reference within eager⟩
  · exact absurd (.inl skips) fine

/-- A strict walk has a fault at just those declarations where a lenient one
overlooks something; at others both go the same way. -/
theorem faulty_ascend (constructed : env.Constructed) (inTree : env.InTree) :
    Search.Faulty (fun ascent : Ascent => env.tree.qualifiedNameOf ascent.decl)
      (fun ascent => env.strictEdges ascent.decl) ascend env.tree.qualifiedNameOf
      env.ancestorTargets Ascent.decl env.Flawed env.Viewed where
  keyed _ := rfl
  sound := by
    rintro ⟨decl, view⟩ viewed fine
    cases decl with
    | item id => exact strictEdges_of_item constructed inTree viewed fine
    | parameter param => exact strictEdges_of_parameter constructed inTree viewed fine
  fails := by
    rintro ⟨decl, view⟩ viewed flawed
    cases decl with
    | item id =>
        have inside : id < env.tree.size := viewed.declares
        rcases supertypesOf_strict constructed inTree inside with
          ⟨found, strict, lenient, sound⟩ | ⟨fault, failed, _⟩
        · rcases flawed with skips | ⟨others, given, supertype, member, fault, failed⟩
          · exact absurd skips sound
          · rw [lenient] at given
            cases given
            refine .inr ⟨found.map (env.convertedEdge id),
              by simp [strictEdges, strict, Except.map], _, List.mem_map_of_mem member, fault, ?_⟩
            simp only [convertedEdge, failed, Except.map, ascend]
        · exact .inl ⟨fault, by simp [strictEdges, failed, Except.map]⟩
    | parameter param =>
        have inside : param.owner.item < env.tree.size := viewed.declares.1
        rcases supertypesOfParameter_strict constructed.wellFormed inTree inside with
          ⟨found, strict, lenient, sound⟩ | ⟨fault, failed, _⟩
        · rcases flawed with skips | keeps
          · exact absurd skips sound
          · exact keeps.elim
        · exact .inl ⟨fault, by simp [strictEdges, failed, Except.map]⟩

end Environment

end JavaSymbols

import JavaSymbols.Proofs.Outcomes
import JavaSymbols.Proofs.Resolution.Supertypes

/-!
# Candidates for supertypes

The candidates of an item are what stands in the position of its superclass and
then what its superinterface clauses denote.  A strict look at them ends with the
first that does not resolve; a lenient one leaves those out.  Neither admits a
type that is nested in the item itself.
-/

namespace JavaSymbols

namespace Environment

variable (env : Environment)

/-! ## Candidates -/

/-- The candidates that a position yields, each with its outcome. -/
def yieldedBy (outcome : Except Fault (List Supertype)) : List (Except Fault Supertype) :=
  match outcome with
  | .ok found => found.map .ok
  | .error fault => [.error fault]

/-- The candidates for the supertypes of an item with their outcomes: what stands
in the position of its superclass, and its superinterface clauses in source
order. -/
def candidates (id : ItemId) : List (Except Fault Supertype) :=
  yieldedBy ((env.superPosition id).outcome.map Option.toList) ++
    (env.interfaceClauses id).map fun clause => (env.clauseSupertype id clause).outcome

/-- The supertypes of a list that are not nested in an item. -/
def admitted (id : ItemId) (found : List Supertype) : List Supertype :=
  found.filter fun supertype => !env.tree.hasNested id supertype.name

variable {env}

theorem admitted_append (id : ItemId) (early late : List Supertype) :
    env.admitted id (early ++ late) = env.admitted id early ++ env.admitted id late :=
  List.filter_append ..

/-- The candidates are what the positions yield. -/
theorem candidates_eq (id : ItemId) :
    env.candidates id =
      (env.supertypePositions id).flatMap fun position => yieldedBy position.outcome := by
  rw [supertypePositions, List.flatMap_cons, candidates]
  congr 1
  · simp only [bind_pure_comp, Traced.outcome_map]
  · rw [List.flatMap_map, List.map_eq_flatMap]
    congr 1
    funext clause
    cases denoted : (env.clauseSupertype id clause).outcome with
    | error fault => simp [denoted, yieldedBy, Except.map]
    | ok supertype => simp [denoted, yieldedBy, Except.map]

/-! ## Strict and lenient looks -/

/-- A strict look at several positions: all that they yield, or the first fault. -/
theorem outcome_admitSupertypes_strict (id : ItemId) (positions : List (Traced (List Supertype))) :
    (env.admitSupertypes id false positions).outcome =
      ((positions.flatMap fun position => yieldedBy position.outcome).mapM
        fun outcome => outcome).map (env.admitted id) := by
  induction positions with
  | nil => rfl
  | cons position rest ih =>
      rw [admitSupertypes, Traced.outcome_bind, Traced.outcome_attempt, List.flatMap_cons]
      cases here : position.outcome with
      | error fault =>
          simp only [Except.bind, Bool.false_and, Bool.false_eq_true, if_false, yieldedBy]
          rfl
      | ok found =>
          change ((env.admitSupertypes id false rest >>= _).outcome) = _
          rw [Traced.outcome_bind, ih, yieldedBy, mapM_map_ok_append]
          cases (rest.flatMap fun position => yieldedBy position.outcome).mapM
              (fun outcome => outcome) with
          | error fault => rfl
          | ok others => exact congrArg Except.ok (admitted_append id found others).symm

/-- A lenient look at several positions: what those yield that resolve. -/
theorem outcome_admitSupertypes_lenient (id : ItemId) {positions : List (Traced (List Supertype))}
    (soft : ∀ position ∈ positions, ∀ fault, position.outcome = .error fault →
      fault.isUnresolved = true) :
    (env.admitSupertypes id true positions).outcome =
      .ok (env.admitted id ((positions.flatMap fun position =>
        yieldedBy position.outcome).filterMap Except.toOption)) := by
  induction positions with
  | nil => rfl
  | cons position rest ih =>
      have later := ih fun other member => soft other (List.mem_cons_of_mem position member)
      rw [admitSupertypes, Traced.outcome_bind, Traced.outcome_attempt, List.flatMap_cons]
      cases here : position.outcome with
      | error fault =>
          have unresolved := soft position List.mem_cons_self fault here
          simp only [Except.bind, Bool.true_and, unresolved, if_true, Traced.outcome_bind,
            Traced.outcome_report, later, yieldedBy]
          rfl
      | ok found =>
          have values : (found.map Except.ok : List (Except Fault Supertype)).filterMap
              Except.toOption = found := by
            rw [List.filterMap_map]
            exact List.filterMap_some
          change ((env.admitSupertypes id true rest >>= _).outcome) = _
          rw [Traced.outcome_bind, later, yieldedBy, List.filterMap_append, values, admitted_append]
          rfl

/-- The direct supertypes of an item other than the universal base type: leniently
its candidates that resolve, strictly all of them or the first fault, and in both
cases none that is nested in the item. -/
theorem outcome_supertypesOf (constructed : env.Constructed) (inTree : env.InTree) {id : Nat}
    (inside : id < env.tree.size) (other : id ≠ env.object) :
    (env.supertypesOf id true).outcome =
        .ok (env.admitted id ((env.candidates id).filterMap Except.toOption)) ∧
      (env.supertypesOf id false).outcome =
        ((env.candidates id).mapM fun outcome => outcome).map (env.admitted id) := by
  have soft : ∀ position ∈ env.supertypePositions id, ∀ fault, position.outcome = .error fault →
      fault.isUnresolved = true := by
    intro position listed fault failed
    exact (soft_position constructed inside listed).soft inTree fault failed
  rw [supertypesOf, supertypesOf, if_neg other, if_neg other, candidates_eq]
  exact ⟨outcome_admitSupertypes_lenient id soft, outcome_admitSupertypes_strict id _⟩

/-! ## Names -/

/-- A supertype bears the qualified name of its item. -/
def Bears (env : Environment) (supertype : Supertype) : Prop :=
  supertype.name = env.tree.qualifiedName supertype.item

theorem bears_of_clauseSupertype {id : ItemId} {clause : ClassExpr} {supertype : Supertype}
    (given : (env.clauseSupertype id clause).outcome = .ok supertype) : env.Bears supertype := by
  rw [clauseSupertype, Traced.outcome_bind] at given
  obtain ⟨target, _, onward⟩ := Except.bind_eq_ok given
  split at onward
  · cases onward
    rfl
  · cases onward

theorem bears_of_rootSupertype {name : String} {args : List SupertypeArg} {supertype : Supertype}
    (given : (env.rootSupertype name args).outcome = .ok supertype) : env.Bears supertype := by
  unfold rootSupertype at given
  split at given
  · cases given
  · rw [Traced.outcome_bind] at given
    obtain ⟨_, _, onward⟩ := Except.bind_eq_ok given
    cases onward
    rfl

/-- A computed supertype, as the one in its position. -/
theorem bears_of_some {run : Traced Supertype} {supertype : Supertype}
    (bears : ∀ other, run.outcome = .ok other → env.Bears other)
    (given : (do
      let found ← run
      pure (some found) : Traced (Option Supertype)).outcome = .ok (some supertype)) :
    env.Bears supertype := by
  rw [Traced.outcome_bind] at given
  obtain ⟨found, isFound, onward⟩ := Except.bind_eq_ok given
  cases onward
  exact bears supertype isFound

theorem bears_of_superclass {id : ItemId} {supertype : Supertype}
    (given : (env.superclass id).outcome = .ok (some supertype)) : env.Bears supertype := by
  unfold superclass at given
  split at given
  · split at given
    · cases given
    · split at given
      · cases given
        rfl
      · exact bears_of_some (fun _ => bears_of_clauseSupertype) given
  · exact bears_of_some (fun _ => bears_of_rootSupertype) given
  · cases given
    rfl
  · cases given
  · cases given

theorem bears_of_superPosition {id : ItemId} {supertype : Supertype}
    (given : (env.superPosition id).outcome = .ok (some supertype)) : env.Bears supertype := by
  unfold superPosition at given
  split at given
  · split at given
    · cases given
      rfl
    · cases given
  · exact bears_of_some (fun _ => bears_of_rootSupertype) given
  · exact bears_of_superclass given

theorem bears_of_mem_candidates {id : ItemId} {supertype : Supertype}
    (member : .ok supertype ∈ env.candidates id) : env.Bears supertype := by
  rcases List.mem_append.mp member with inPosition | isClause
  · cases given : (env.superPosition id).outcome with
    | error fault => simp [given, yieldedBy, Except.map] at inPosition
    | ok found =>
        have isFound : found = some supertype := by
          simpa [given, yieldedBy, Except.map] using inPosition
        exact bears_of_superPosition (isFound ▸ given)
  · obtain ⟨clause, _, given⟩ := List.mem_map.mp isClause
    exact bears_of_clauseSupertype given

/-! ## Bounds -/

/-- The bounds of a type parameter with their outcomes. -/
def boundOutcomes (env : Environment) (param : TypeParameter) : List (Except Fault Ty) :=
  (env.tree.param param).bounds.map fun bound =>
    (env.convertClassAt param.owner.typeSite bound).outcome

/-- The references among some bounds, or the universal base type instead of
none. -/
def boundsOrObject (env : Environment) (bounds : List Ty) : List Reference :=
  if (bounds.filterMap Ty.reference?).isEmpty then [env.rawReference env.object]
  else bounds.filterMap Ty.reference?

theorem outcome_admitBounds_strict (site : TypeSite) (bounds : List ClassExpr) :
    (env.admitBounds site false bounds).outcome =
      ((bounds.map fun bound => (env.convertClassAt site bound).outcome).mapM
        fun outcome => outcome).map (List.filterMap Ty.reference?) := by
  induction bounds with
  | nil => rfl
  | cons bound rest ih =>
      rw [admitBounds, Traced.outcome_bind, Traced.outcome_attempt, List.map_cons, List.mapM_cons]
      cases here : (env.convertClassAt site bound).outcome with
      | error fault =>
          simp only [Except.bind, Bool.false_and, Bool.false_eq_true, if_false]
          rfl
      | ok type =>
          change ((env.admitBounds site false rest >>= _).outcome) = _
          rw [Traced.outcome_bind, ih]
          cases (rest.map fun bound => (env.convertClassAt site bound).outcome).mapM
              (fun outcome => outcome) with
          | error fault => rfl
          | ok others => cases type <;> rfl

theorem outcome_admitBounds_lenient {site : TypeSite} {bounds : List ClassExpr}
    (soft : ∀ bound ∈ bounds, ∀ fault, (env.convertClassAt site bound).outcome = .error fault →
      fault.isUnresolved = true) :
    (env.admitBounds site true bounds).outcome =
      .ok (((bounds.map fun bound => (env.convertClassAt site bound).outcome).filterMap
        Except.toOption).filterMap Ty.reference?) := by
  induction bounds with
  | nil => rfl
  | cons bound rest ih =>
      have later := ih fun other member => soft other (List.mem_cons_of_mem bound member)
      rw [admitBounds, Traced.outcome_bind, Traced.outcome_attempt, List.map_cons]
      cases here : (env.convertClassAt site bound).outcome with
      | error fault =>
          have unresolved := soft bound List.mem_cons_self fault here
          simp only [Except.bind, Bool.true_and, unresolved, if_true, Traced.outcome_bind,
            Traced.outcome_report, later]
          rfl
      | ok type =>
          change ((env.admitBounds site true rest >>= _).outcome) = _
          rw [Traced.outcome_bind, later]
          cases type <;> rfl

/-- The direct supertypes of a type parameter: leniently the references among its
bounds that resolve, strictly among all of them or the first fault. -/
theorem outcome_supertypesOfParameter (wellFormed : env.tree.WellFormed) (inTree : env.InTree)
    {param : TypeParameter} (inside : param.owner.item < env.tree.size) :
    (env.supertypesOfParameter param true).outcome =
        .ok (env.boundsOrObject ((env.boundOutcomes param).filterMap Except.toOption)) ∧
      (env.supertypesOfParameter param false).outcome =
        ((env.boundOutcomes param).mapM fun outcome => outcome).map env.boundsOrObject := by
  have soft : ∀ bound ∈ (env.tree.param param).bounds, ∀ fault,
      (env.convertClassAt param.owner.typeSite bound).outcome = .error fault →
        fault.isUnresolved = true := by
    intro bound _ fault failed
    exact (soft_convertClassAt wellFormed (typeSite_lt inside) bound).soft inTree fault failed
  constructor
  · rw [supertypesOfParameter, Traced.outcome_bind, outcome_admitBounds_lenient soft]
    rfl
  · rw [supertypesOfParameter, Traced.outcome_bind, outcome_admitBounds_strict]
    unfold boundOutcomes
    cases ((env.tree.param param).bounds.map fun bound =>
        (env.convertClassAt param.owner.typeSite bound).outcome).mapM fun outcome => outcome with
    | error fault => rfl
    | ok types => rfl

/-- A converted class type that refers to an item bears its qualified name. -/
theorem name_of_convertClassAt {site : TypeSite} {type : ClassExpr} {converted : Ty}
    (given : (env.convertClassAt site type).outcome = .ok converted) {reference : Reference}
    (refers : converted.reference? = some reference) :
    reference.name = env.tree.qualifiedName reference.item := by
  have ofName : ∀ (name : String) (args : Traced (List Ty)),
      (env.classTypeNamed site name args).outcome = .ok converted →
        reference.name = env.tree.qualifiedName reference.item := by
    intro name args given
    rw [classTypeNamed, Traced.outcome_bind] at given
    obtain ⟨found, _, onward⟩ := Except.bind_eq_ok given
    split at onward
    · cases onward
    · cases onward
      cases refers
    · rw [Traced.outcome_bind] at onward
      obtain ⟨types, _, same⟩ := Except.bind_eq_ok onward
      cases same
      cases refers
      rfl
  cases type with
  | simple name args =>
      unfold convertClassAt at given
      split at given
      · cases given
        cases refers
      · exact ofName _ _ given
  | within scope name args =>
      unfold convertClassAt at given
      exact ofName _ _ given

end Environment

end JavaSymbols

import JavaSymbols.Proofs.Resolution.Lookup
import JavaSymbols.Proofs.Resolution.Within

/-!
# Supertypes and converted types stay in the tree

The supertypes that a declaration yields are items of the tree.  A lenient
query for them passes over the positions that do not resolve, so it gives up
for no want of a name; with a source of names that keeps to the tree it always
gives an answer.  A converted type is a type of the tree.
-/

namespace JavaSymbols.Environment

variable {env : Environment}

/-! ## Lenient steps -/

theorem firm_attempt {α : Type} (run : Traced α) :
    Firm env (fun outcome => run.outcome = outcome) run.attempt where
  good _ same := Except.ok.inj same
  stray fault failed := by cases failed

/-- A step that passes over a want of a name, and over nothing else, does not
give up for want of a name itself. -/
theorem Soft.firm_skip {α β : Type} {good : α → Prop} {fine : β → Prop} {run : Traced α}
    (soft : Soft env good run) {fault : Fault} (failed : run.outcome = .error fault)
    (event : Event) {next : Traced β} (onward : Firm env fine next) :
    Firm env fine
      (if (true && fault.isUnresolved) = true then do
        Traced.report event
        next
      else Traced.fail fault) := by
  cases unresolved : fault.isUnresolved with
  | true =>
      refine (firm_report event).bind ?_
      intro _ _
      exact onward
  | false =>
      apply firm_fail
      apply (soft.warranted fault failed).resolve_left
      simp [unresolved]

/-! ## Supertype positions -/

theorem soft_superclass (constructed : env.Constructed) {id : ItemId}
    (inside : id < env.tree.size) :
    Soft env (fun found => ∀ supertype, found = some supertype → supertype.item < env.tree.size)
      (env.superclass id) := by
  have objectLt := constructed.object_lt
  have recordLt := constructed.record_lt
  unfold superclass
  split
  · split
    · exact Firm.toSoft (firm_pure (by simp))
    · split
      · exact Firm.toSoft (firm_pure (by simpa [rawSupertype] using objectLt))
      · refine (soft_clauseSupertype constructed.wellFormed inside _).bind ?_
        intro supertype within
        exact Firm.toSoft (firm_pure (by simpa using within))
  · refine (soft_rootSupertype constructed.wellFormed _ _).bind ?_
    intro supertype within
    exact Firm.toSoft (firm_pure (by simpa using within))
  · exact Firm.toSoft (firm_pure (by simpa [rawSupertype] using recordLt))
  · exact Firm.toSoft (firm_pure (by simp))
  · exact Firm.toSoft (firm_pure (by simp))

theorem soft_superPosition (constructed : env.Constructed) {id : ItemId}
    (inside : id < env.tree.size) :
    Soft env (fun found => ∀ supertype, found = some supertype → supertype.item < env.tree.size)
      (env.superPosition id) := by
  have objectLt := constructed.object_lt
  unfold superPosition
  split
  · split
    · exact Firm.toSoft (firm_pure (by simpa [rawSupertype] using objectLt))
    · exact Firm.toSoft (firm_pure (by simp))
  · refine (soft_rootSupertype constructed.wellFormed _ _).bind ?_
    intro supertype within
    exact Firm.toSoft (firm_pure (by simpa using within))
  · exact soft_superclass constructed inside

/-- Every supertype position of an item yields items of the tree. -/
theorem soft_position (constructed : env.Constructed) {id : ItemId}
    (inside : id < env.tree.size) {position : Traced (List Supertype)}
    (listed : position ∈ env.supertypePositions id) :
    Soft env (fun found => ∀ supertype ∈ found, supertype.item < env.tree.size) position := by
  rcases List.mem_cons.mp listed with rfl | clausePosition
  · refine (soft_superPosition constructed inside).bind ?_
    intro found within
    exact Firm.toSoft (firm_pure (by simpa using within))
  · obtain ⟨clause, _, rfl⟩ := List.mem_map.mp clausePosition
    refine (soft_clauseSupertype constructed.wellFormed inside clause).bind ?_
    intro supertype within
    exact Firm.toSoft (firm_pure (by simpa using within))

theorem firm_admitSupertypes (id : ItemId) {positions : List (Traced (List Supertype))}
    (soft : ∀ position ∈ positions,
      Soft env (fun found => ∀ supertype ∈ found, supertype.item < env.tree.size) position) :
    Firm env (fun found => ∀ supertype ∈ found, supertype.item < env.tree.size)
      (env.admitSupertypes id true positions) := by
  induction positions with
  | nil => exact firm_pure (by simp)
  | cons position rest ih =>
      have here := soft position List.mem_cons_self
      have onward := ih fun other member => soft other (List.mem_cons_of_mem position member)
      unfold admitSupertypes
      refine (firm_attempt _).bind ?_
      intro outcome same
      cases outcome with
      | ok found =>
          refine onward.bind ?_
          intro more within
          refine firm_pure ?_
          intro supertype member
          rcases List.mem_append.mp member with kept | later
          · exact here.good found same supertype (List.mem_filter.mp kept).1
          · exact within supertype later
      | error fault => exact here.firm_skip same _ onward

/-- The direct supertypes of an item, looked for leniently. -/
theorem firm_supertypesOf (constructed : env.Constructed) {id : ItemId}
    (inside : id < env.tree.size) :
    Firm env (fun found => ∀ supertype ∈ found, supertype.item < env.tree.size)
      (env.supertypesOf id true) := by
  unfold supertypesOf
  split
  · exact firm_pure (by simp)
  · exact firm_admitSupertypes id fun position => soft_position constructed inside

/-! ## Converted types -/

/-- A type without deferred parts which, if it is a reference, refers to an item
of the tree. -/
def Converted (env : Environment) (type : Ty) : Prop :=
  type.isEager = true ∧ ∀ reference, type.reference? = some reference →
    reference.item < env.tree.size

/-- A converted type is a type of the tree. -/
theorem converted_of_within {type : Ty} (within : type.Within env.tree) : env.Converted type := by
  refine ⟨within.isEager, ?_⟩
  intro reference refers
  cases type with
  | reference item name args =>
      cases refers
      exact within.1
  | _ => cases refers

theorem within_classTypeNamed (wellFormed : env.tree.WellFormed) {site : TypeSite}
    (inside : site.item < env.tree.size) (name : String) {args : Traced (List Ty)}
    (softArgs : Soft env (Ty.AllWithin env.tree) args) :
    Soft env (Ty.Within env.tree) (env.classTypeNamed site name args) := by
  unfold classTypeNamed
  refine (firm_lookup wellFormed inside name).toSoft.bind ?_
  intro found denotes
  split
  · exact soft_fail rfl
  · next param => exact Firm.toSoft (firm_pure (denotes (.parameter param) rfl))
  · next id =>
      refine softArgs.bind ?_
      intro types within
      exact Firm.toSoft (firm_pure ⟨denotes (.item id) rfl, within⟩)

/-- A type parameter of the enclosing method is one of the tree. -/
theorem declares_methodParameter? {site : TypeSite} (inside : site.item < env.tree.size)
    {name : String} {param : TypeParameter} (found : env.methodParameter? site name = some param) :
    env.tree.Declares (.parameter param) := by
  unfold methodParameter? at found
  split at found
  · cases found
  · next index _ =>
    have owned : (ParamOwner.method site.item index).item < env.tree.size := inside
    exact DeclTree.declares_parameterNamed? owned found

mutual

/-- Converted types are types of the tree, and a conversion gives up only for
want of a name. -/
theorem within_convertAt (wellFormed : env.tree.WellFormed) {site : TypeSite}
    (inside : site.item < env.tree.size) :
    (type : TypeExpr) → Soft env (Ty.Within env.tree) (env.convertAt site type)
  | .primitive _ => Firm.toSoft (firm_pure trivial)
  | .void => Firm.toSoft (firm_pure trivial)
  | .named type => within_convertClassAt wellFormed inside type
  | .array component =>
      (within_convertAt wellFormed inside component).bind fun _ within =>
        Firm.toSoft (firm_pure within)
  | .wildcard => Firm.toSoft (firm_pure trivial)
  | .upperBounded bound =>
      (within_convertAt wellFormed inside bound).bind fun _ within =>
        Firm.toSoft (firm_pure within)
  | .lowerBounded bound =>
      (within_convertAt wellFormed inside bound).bind fun _ within =>
        Firm.toSoft (firm_pure within)

theorem within_convertClassAt (wellFormed : env.tree.WellFormed) {site : TypeSite}
    (inside : site.item < env.tree.size) :
    (type : ClassExpr) → Soft env (Ty.Within env.tree) (env.convertClassAt site type)
  | .simple name args => by
      unfold convertClassAt
      split
      · next found => exact Firm.toSoft (firm_pure (declares_methodParameter? inside found))
      · exact within_classTypeNamed wellFormed inside name
          (within_convertArgumentsAt wellFormed inside args)
  | .within scope name args => by
      unfold convertClassAt
      exact within_classTypeNamed wellFormed inside _
        (within_convertArgumentsAt wellFormed inside args)

theorem within_convertArgumentsAt (wellFormed : env.tree.WellFormed) {site : TypeSite}
    (inside : site.item < env.tree.size) :
    (args : Option (List TypeExpr)) →
      Soft env (Ty.AllWithin env.tree) (env.convertArgumentsAt site args)
  | none => Firm.toSoft (firm_pure trivial)
  | some args => within_convertAllAt wellFormed inside args

theorem within_convertAllAt (wellFormed : env.tree.WellFormed) {site : TypeSite}
    (inside : site.item < env.tree.size) :
    (types : List TypeExpr) → Soft env (Ty.AllWithin env.tree) (env.convertAllAt site types)
  | [] => Firm.toSoft (firm_pure trivial)
  | type :: rest =>
      (within_convertAt wellFormed inside type).bind fun _ head =>
        (within_convertAllAt wellFormed inside rest).bind fun _ tail =>
          Firm.toSoft (firm_pure ⟨head, tail⟩)

end

theorem soft_convertAt (wellFormed : env.tree.WellFormed) {site : TypeSite}
    (inside : site.item < env.tree.size) (type : TypeExpr) :
    Soft env env.Converted (env.convertAt site type) :=
  (within_convertAt wellFormed inside type).mono fun _ => converted_of_within

theorem soft_convertClassAt (wellFormed : env.tree.WellFormed) {site : TypeSite}
    (inside : site.item < env.tree.size) (type : ClassExpr) :
    Soft env env.Converted (env.convertClassAt site type) :=
  (within_convertClassAt wellFormed inside type).mono fun _ => converted_of_within

/-! ## Type parameters -/

theorem firm_admitBounds (wellFormed : env.tree.WellFormed) {site : TypeSite}
    (inside : site.item < env.tree.size) (bounds : List ClassExpr) :
    Firm env (fun found => ∀ reference ∈ found, reference.item < env.tree.size)
      (env.admitBounds site true bounds) := by
  induction bounds with
  | nil => exact firm_pure (by simp)
  | cons bound rest ih =>
      have here := soft_convertClassAt wellFormed inside bound
      unfold admitBounds
      refine (firm_attempt _).bind ?_
      intro outcome same
      cases outcome with
      | ok type =>
          refine ih.bind ?_
          intro more within
          refine firm_pure ?_
          intro reference member
          rcases List.mem_append.mp member with own | later
          · exact (here.good type same).2 reference (Option.mem_toList.mp own)
          · exact within reference later
      | error fault => exact here.firm_skip same _ ih

/-- The bounds of a type parameter are written in the body of its item. -/
theorem typeSite_lt {owner : ParamOwner} (inside : owner.item < env.tree.size) :
    owner.typeSite.item < env.tree.size := by
  cases owner with
  | type item => exact inside
  | method item index => exact inside

/-- The direct supertypes of a type parameter, looked for leniently. -/
theorem firm_supertypesOfParameter (constructed : env.Constructed) {param : TypeParameter}
    (inside : param.owner.item < env.tree.size) :
    Firm env (fun found => ∀ reference ∈ found, reference.item < env.tree.size)
      (env.supertypesOfParameter param true) := by
  unfold supertypesOfParameter
  refine (firm_admitBounds constructed.wellFormed (typeSite_lt inside) _).bind ?_
  intro found within
  refine firm_pure ?_
  split
  · intro reference member
    have same := List.mem_singleton.mp member
    exact same ▸ constructed.object_lt
  · exact within

end JavaSymbols.Environment

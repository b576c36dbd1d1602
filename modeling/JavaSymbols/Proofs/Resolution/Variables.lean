import JavaSymbols.Proofs.Resolution.Supertypes
import JavaSymbols.Proofs.Session.Forcing
import JavaSymbols.Proofs.Views.Substitution

/-!
# Variables of converted types

A type that is written in the body of an item, outside of generic methods, can
mention the type parameters of the item and of the items around it, and no
others.
-/

namespace JavaSymbols.Environment

variable {env : Environment}

/-! ## Type parameters that names denote -/

/-- If a declaration is a type parameter, one of some items introduces it. -/
def IntroducedBy (links : List ItemId) (decl : Decl) : Prop :=
  ∀ param, decl = .parameter param → ∃ link ∈ links, param.owner = .type link

theorem introducedBy_item {links : List ItemId} (id : ItemId) : IntroducedBy links (.item id) := by
  intro param same
  cases same

theorem introducedBy_declaration {links : List ItemId} {id : ItemId} {decl : Decl}
    (found : (env.declaration id).outcome = .ok decl) : IntroducedBy links decl := by
  rw [declaration, Traced.outcome_bind] at found
  obtain ⟨valid, _, same⟩ := Except.bind_eq_ok found
  cases same
  exact introducedBy_item valid

theorem introducedBy_firstSolved {links : List ItemId} {names : List String} {decl : Decl}
    (found : (env.firstSolved names).outcome = .ok (some decl)) : IntroducedBy links decl := by
  induction names with
  | nil => cases found
  | cons name rest ih =>
      rw [firstSolved, Traced.outcome_bind] at found
      obtain ⟨solved, here, later⟩ := Except.bind_eq_ok found
      cases solved with
      | none => exact ih later
      | some other =>
          cases later
          unfold solveQualified at here
          split at here
          · cases here
          · rw [Traced.outcome_bind] at here
            obtain ⟨declared, isDeclared, same⟩ := Except.bind_eq_ok here
            cases same
            exact introducedBy_declaration isDeclared

theorem introducedBy_lookupInUnit {links : List ItemId} {unit : UnitId} {path : List String}
    {decl : Decl} (found : (env.lookupInUnit unit path).outcome = .ok (some decl)) :
    IntroducedBy links decl := by
  unfold lookupInUnit at found
  split at found
  · cases found
    exact introducedBy_item _
  · exact introducedBy_firstSolved found

/-- A type parameter that is visible inside an item is the item's own. -/
theorem introducedBy_denotedIn? {tree : DeclTree} {id : ItemId} {path : List String} {decl : Decl}
    (found : tree.denotedIn? id path = some decl) : IntroducedBy [id] decl := by
  intro param same
  subst same
  refine ⟨id, List.mem_singleton_self id, ?_⟩
  unfold DeclTree.denotedIn? at found
  split at found
  · cases found
  · unfold DeclTree.visible? at found
    match path with
    | [] => simp at found
    | [name] =>
        cases named : tree.parameterNamed? (.type id) name with
        | none => simp [named] at found
        | some own =>
            simp only [named, Option.map_some, Option.some.injEq, Decl.parameter.injEq] at found
            obtain ⟨index, _, same⟩ := Option.map_eq_some_iff.mp named
            rw [← found, ← same]
    | _ :: _ :: _ => simp at found

theorem introducedBy_lookupOutward {unit : UnitId} {links : List ItemId} :
    ∀ {path : List String} {decl : Decl},
      (env.lookupOutward unit links path).outcome = .ok (some decl) → IntroducedBy links decl := by
  induction links with
  | nil =>
      intro path decl found
      exact introducedBy_lookupInUnit found
  | cons id outer ih =>
      intro path decl found
      simp only [lookupOutward] at found
      split at found
      · next denoted =>
          cases found
          obtain ⟨reading, _, inside⟩ := List.exists_of_findSome?_eq_some denoted
          intro param same
          obtain ⟨link, isLink, owned⟩ := introducedBy_denotedIn? inside param same
          exact ⟨link, List.mem_cons.mpr (.inl (List.mem_singleton.mp isLink)), owned⟩
      · intro param same
        obtain ⟨link, isLink, owned⟩ := ih found param same
        exact ⟨link, List.mem_cons_of_mem id isLink, owned⟩

/-- A type parameter that a name denotes in the body of an item belongs to the
item or to one around it. -/
theorem introducedBy_lookup {id : ItemId} {name : String} {decl : Decl}
    (found : (env.lookup (.body id) name).outcome = .ok (some decl)) :
    IntroducedBy (env.tree.chain id) decl := by
  rw [lookup, Traced.outcome_bind] at found
  obtain ⟨_, _, onward⟩ := Except.bind_eq_ok found
  exact introducedBy_lookupOutward onward

/-! ## Variables of converted types -/

/-- No type parameter of a method is in scope at a site. -/
def OutsideGenericMethods (env : Environment) (site : TypeSite) : Prop :=
  ∀ name, env.methodParameter? site name = none

theorem outsideGenericMethods_body (env : Environment) (id : ItemId) :
    env.OutsideGenericMethods ⟨id, none⟩ :=
  fun _ => rfl

/-- A method without type parameters brings none into scope. -/
theorem outsideGenericMethods_method {id : ItemId} {index : Nat} {method : MethodDecl}
    (listed : (env.tree.decl id).methods[index]? = some method) (plain : method.typeParams = []) :
    env.OutsideGenericMethods ⟨id, some index⟩ := by
  intro name
  simp [methodParameter?, DeclTree.parameterNamed?, DeclTree.paramsOf, listed, plain]

/-- The variables of an item and of the items around it. -/
def InScope (env : Environment) (id : ItemId) (var : TypeVar) : Prop :=
  ∃ link ∈ env.tree.chain id, var.owner = .type link

theorem varsIn_classTypeNamed {site : TypeSite} {name : String} {args : Traced (List Ty)}
    (argsWithin : ∀ types, args.outcome = .ok types →
      Ty.AllVarsIn (env.InScope site.item) types) {type : Ty}
    (converts : (env.classTypeNamed site name args).outcome = .ok type) :
    type.VarsIn (env.InScope site.item) := by
  rw [classTypeNamed, Traced.outcome_bind] at converts
  obtain ⟨found, looked, onward⟩ := Except.bind_eq_ok converts
  cases found with
  | none => cases onward
  | some decl =>
      cases decl with
      | parameter param =>
          cases onward
          exact introducedBy_lookup looked param rfl
      | item id =>
          rw [Traced.outcome_bind] at onward
          obtain ⟨types, given, same⟩ := Except.bind_eq_ok onward
          cases same
          exact argsWithin types given

mutual

/-- A converted type mentions variables of its item and of the items around it
alone. -/
theorem varsIn_convertAt {site : TypeSite} (outside : env.OutsideGenericMethods site) :
    (source : TypeExpr) → ∀ type, (env.convertAt site source).outcome = .ok type →
      type.VarsIn (env.InScope site.item)
  | .primitive _, _, converts => by cases converts; exact trivial
  | .void, _, converts => by cases converts; exact trivial
  | .named source, type, converts => varsIn_convertClassAt outside source type converts
  | .array component, type, converts => by
      rw [convertAt, Traced.outcome_bind] at converts
      obtain ⟨inner, given, same⟩ := Except.bind_eq_ok converts
      cases same
      exact varsIn_convertAt outside component inner given
  | .wildcard, _, converts => by cases converts; exact trivial
  | .upperBounded bound, type, converts => by
      rw [convertAt, Traced.outcome_bind] at converts
      obtain ⟨inner, given, same⟩ := Except.bind_eq_ok converts
      cases same
      exact varsIn_convertAt outside bound inner given
  | .lowerBounded bound, type, converts => by
      rw [convertAt, Traced.outcome_bind] at converts
      obtain ⟨inner, given, same⟩ := Except.bind_eq_ok converts
      cases same
      exact varsIn_convertAt outside bound inner given

theorem varsIn_convertClassAt {site : TypeSite} (outside : env.OutsideGenericMethods site) :
    (source : ClassExpr) → ∀ type, (env.convertClassAt site source).outcome = .ok type →
      type.VarsIn (env.InScope site.item)
  | .simple name args, type, converts => by
      rw [convertClassAt, outside name] at converts
      exact varsIn_classTypeNamed (varsIn_convertArgumentsAt outside args) converts
  | .within scope name args, type, converts => by
      rw [convertClassAt] at converts
      exact varsIn_classTypeNamed (varsIn_convertArgumentsAt outside args) converts

theorem varsIn_convertArgumentsAt {site : TypeSite} (outside : env.OutsideGenericMethods site) :
    (args : Option (List TypeExpr)) → ∀ types, (env.convertArgumentsAt site args).outcome =
      .ok types → Ty.AllVarsIn (env.InScope site.item) types
  | none, _, converts => by cases converts; exact trivial
  | some args, types, converts => varsIn_convertAllAt outside args types converts

theorem varsIn_convertAllAt {site : TypeSite} (outside : env.OutsideGenericMethods site) :
    (sources : List TypeExpr) → ∀ types, (env.convertAllAt site sources).outcome = .ok types →
      Ty.AllVarsIn (env.InScope site.item) types
  | [], _, converts => by cases converts; exact trivial
  | source :: rest, types, converts => by
      rw [convertAllAt, Traced.outcome_bind] at converts
      obtain ⟨type, given, onward⟩ := Except.bind_eq_ok converts
      rw [Traced.outcome_bind] at onward
      obtain ⟨others, givenRest, same⟩ := Except.bind_eq_ok onward
      cases same
      exact ⟨varsIn_convertAt outside source type given,
        varsIn_convertAllAt outside rest others givenRest⟩

end

mutual

/-- Where no type parameter of a method is in scope, a type means what it means
in the body of the item. -/
theorem convertAt_eq_convert {site : TypeSite} (outside : env.OutsideGenericMethods site) :
    (source : TypeExpr) → env.convertAt site source = env.convertAt ⟨site.item, none⟩ source
  | .primitive _ => rfl
  | .void => rfl
  | .named source => convertClassAt_eq_convert outside source
  | .array component => by
      rw [convertAt, convertAt, convertAt_eq_convert outside component]
  | .wildcard => rfl
  | .upperBounded bound => by
      rw [convertAt, convertAt, convertAt_eq_convert outside bound]
  | .lowerBounded bound => by
      rw [convertAt, convertAt, convertAt_eq_convert outside bound]

theorem convertClassAt_eq_convert {site : TypeSite} (outside : env.OutsideGenericMethods site) :
    (source : ClassExpr) →
      env.convertClassAt site source = env.convertClassAt ⟨site.item, none⟩ source
  | .simple name args => by
      rw [convertClassAt, convertClassAt, outside name,
        outsideGenericMethods_body env site.item name, convertArgumentsAt_eq_convert outside args]
      rfl
  | .within scope name args => by
      rw [convertClassAt, convertClassAt, convertArgumentsAt_eq_convert outside args]
      rfl

theorem convertArgumentsAt_eq_convert {site : TypeSite}
    (outside : env.OutsideGenericMethods site) : (args : Option (List TypeExpr)) →
      env.convertArgumentsAt site args = env.convertArgumentsAt ⟨site.item, none⟩ args
  | none => rfl
  | some args => convertAllAt_eq_convert outside args

theorem convertAllAt_eq_convert {site : TypeSite} (outside : env.OutsideGenericMethods site) :
    (sources : List TypeExpr) →
      env.convertAllAt site sources = env.convertAllAt ⟨site.item, none⟩ sources
  | [] => rfl
  | source :: rest => by
      rw [convertAllAt, convertAllAt, convertAt_eq_convert outside source,
        convertAllAt_eq_convert outside rest]

end

end JavaSymbols.Environment

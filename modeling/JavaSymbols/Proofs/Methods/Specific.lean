import JavaSymbols.Proofs.Methods.Nearest
import JavaSymbols.Proofs.Methods.Usage
import JavaSymbols.Proofs.Subtyping.Hierarchies

/-!
# How specific the chosen method is

Of several methods that apply to a call, one is preferred whose parameters could
be passed on to all others.  Without such a least method the first one in the
order of declaration is taken, also where others are strictly more specific.  So
the chosen method is a maximally specific one just when there is a least method,
or the first is maximally specific by itself.
-/

namespace JavaSymbols

open Session

namespace Environment

section

variable (env : Environment)

/-! ## Specificity -/

/-- The parameters of a method could be passed on to another. -/
def Below (lower upper : Applicable) : Prop :=
  List.Forall₂ (fun source target => env.passes source target = .ok true) lower.params upper.params

/-- The parameters of a method could be passed on to another, and not conversely. -/
def MoreSpecific (lower upper : Applicable) : Prop :=
  env.Below lower upper ∧ ¬ env.Below upper lower

/-- No method of several is strictly more specific. -/
def MaximallySpecific (all : List Applicable) (method : Applicable) : Prop :=
  ∀ other ∈ all, ¬ env.MoreSpecific other method

/-- The parameters of one of several methods could be passed on to all of them. -/
def HasLeast (all : List Applicable) : Prop :=
  ∃ least ∈ all, ∀ other ∈ all, env.Below least other

instance (lower upper : Applicable) : Decidable (env.Below lower upper) :=
  inferInstanceAs (Decidable (List.Forall₂ _ _ _))

instance (lower upper : Applicable) : Decidable (env.MoreSpecific lower upper) :=
  inferInstanceAs (Decidable (_ ∧ _))

instance (all : List Applicable) : Decidable (env.HasLeast all) :=
  inferInstanceAs (Decidable (∃ least ∈ all, ∀ other ∈ all, env.Below least other))

end

variable {env : Environment} {session : Session} {call : Call}

/-- A least method is maximally specific. -/
theorem maximallySpecific_of_least {all : List Applicable} {method : Applicable}
    (least : ∀ other ∈ all, env.Below method other) : env.MaximallySpecific all method :=
  fun other member specific => specific.2 (least other member)

/-- The only method is maximally specific. -/
theorem maximallySpecific_singleton (only : Applicable) : env.MaximallySpecific [only] only := by
  intro other member specific
  rw [List.mem_singleton.mp member] at specific
  exact specific.2 specific.1

/-! ## The preferred method -/

/-- Comparisons of a method with several, all with as many parameters, hold when it
is below all of them. -/
theorem passesOn_eq_ok_true_iff {method : Applicable} {others : List Applicable}
    (lengths : ∀ other ∈ others, method.params.length = other.params.length) :
    env.passesOn method others = .ok true ↔ ∀ other ∈ others, env.Below method other := by
  induction others with
  | nil => simp [passesOn, pure, Except.pure]
  | cons other rest ih =>
      rw [passesOn, List.forall_mem_cons, Below, ← ih (List.forall_mem_cons.mp lengths).2,
        ← allPass_eq_ok_iff (lengths other List.mem_cons_self)]
      cases env.allPass method.params other.params with
      | error fault => simp [bind, Except.bind]
      | ok passes => cases passes <;> simp [bind, Except.bind, pure, Except.pure]

/-- When no method passes to all, each has been compared and does not. -/
theorem not_passesOn_of_firstPassingOn {all methods : List Applicable}
    (given : env.firstPassingOn all methods = .ok none) :
    ∀ method ∈ methods, env.passesOn method all = .ok false := by
  induction methods with
  | nil => nofun
  | cons method rest ih =>
      rcases Except.bind_eq_ok given with ⟨passes, compared, onward⟩
      cases passes with
      | true => cases onward
      | false => exact List.forall_mem_cons.mpr ⟨compared, ih onward⟩

/-- The preferred of several methods is a least one, or else the first. -/
theorem least_or_first_of_preferred {all : List Applicable}
    (lengths : ∀ method ∈ all, ∀ other ∈ all, method.params.length = other.params.length)
    {found : Method} (given : env.preferred all = .ok (some found)) :
    ∃ chosen ∈ all, chosen.method = found ∧
      ((∀ other ∈ all, env.Below chosen other) ∨
        all.head? = some chosen ∧ (env.HasLeast all → all = [chosen])) := by
  cases all with
  | nil => cases given
  | cons first others =>
      cases others with
      | nil =>
          cases given
          exact ⟨first, List.mem_cons_self, rfl, .inr ⟨rfl, fun _ => rfl⟩⟩
      | cons second rest =>
          obtain ⟨passing, tried, same⟩ := Except.bind_eq_ok given
          cases same
          cases passing with
          | some passing =>
              obtain ⟨chosen, member, same, passes⟩ := passesOn_of_firstPassingOn tried
              exact ⟨chosen, member, same,
                .inl ((passesOn_eq_ok_true_iff (lengths chosen member)).mp passes)⟩
          | none =>
              refine ⟨first, List.mem_cons_self, rfl, .inr ⟨rfl, ?_⟩⟩
              rintro ⟨least, member, below⟩
              have failed := not_passesOn_of_firstPassingOn tried least member
              rw [(passesOn_eq_ok_true_iff (lengths least member)).mpr below] at failed
              cases failed

/-- The preferred of several methods is maximally specific just when one of them
is least, or the first is maximally specific. -/
theorem maximallySpecific_preferred_iff {all : List Applicable}
    (lengths : ∀ method ∈ all, ∀ other ∈ all, method.params.length = other.params.length)
    {found : Method} (given : env.preferred all = .ok (some found)) :
    ∃ chosen ∈ all, chosen.method = found ∧
      (env.MaximallySpecific all chosen ↔
        env.HasLeast all ∨ ∀ first, all.head? = some first → env.MaximallySpecific all first) := by
  rcases least_or_first_of_preferred lengths given with
    ⟨chosen, member, same, least | ⟨isFirst, only⟩⟩
  · exact ⟨chosen, member, same,
      iff_of_true (maximallySpecific_of_least least) (.inl ⟨chosen, member, least⟩)⟩
  · refine ⟨chosen, member, same, ?_, ?_⟩
    · intro maximal
      refine .inr fun first stands => ?_
      rw [isFirst] at stands
      exact Option.some.inj stands ▸ maximal
    · rintro (hasLeast | ofFirst)
      · rw [only hasLeast]
        exact maximallySpecific_singleton chosen
      · exact ofFirst chosen isFirst

/-- Methods that apply to one call have as many parameters. -/
theorem length_eq_of_applying {item : ItemId} {view : Option Reference} {all : List Applicable}
    (given : env.applying call item view = .ok all) :
    ∀ method ∈ all, ∀ other ∈ all, method.params.length = other.params.length := by
  have asked : ∀ method ∈ all, call.args.length = method.params.length :=
    fun method member => ((mem_applying_iff given method).mp member).accepts.length_eq
  exact fun method member other memberToo =>
    (asked method member).symm.trans (asked other memberToo)

/-! ## The method looked up -/

/-- The search for a method from an item ends with a choice on one of the items
that it meets. -/
def ChosenFrom (env : Environment) (call : Call) (start : ItemId) (method : Method) : Prop :=
  ∃ ascent ∈ env.met start, ascent.item = method.owner ∧
    env.choice call ascent.item ascent.view = .ok (some method)

theorem runs_findMethod_chosen (converting : env.Converting) (constructed : env.Constructed)
    (sound : session.Sound env) (args : Ty.AllWithin env.tree call.args) {start : Nat}
    (inside : start < env.tree.size) :
    Query.Runs (Sound env) Follows session (env.findMethod call start)
      (Query.OnValue fun _ answer => ∀ found, answer = some found →
        env.ChosenFrom call start found.method) := by
  have fit : Ty.AllFit session.cells call.args :=
    Ty.allFit_of_allEager _ _ (Ty.AllWithin.allEager _ args)
  have ran := runs_findMethod_found constructed sound fit inside
  refine ⟨ran.invariant, ran.follows, ?_⟩
  rintro answer answered found rfl
  have first := findSome?_of_findMethod converting constructed sound args inside answered
  rcases List.exists_of_findSome?_eq_some first with ⟨ascent, isMet, hit⟩
  rcases verdict_eq_ok_iff.mp hit with ⟨choice, _⟩
  rcases applies_of_choice choice with ⟨params, applies⟩
  exact ⟨ascent, isMet, applies.owner.symm, choice⟩

/-- In every session that questions lead to, and with type arguments of supertypes
that resolve, a method that is looked up has been chosen in the scope's chain of
items. -/
theorem chosenFrom_of_lookupMethod (constructed : env.Constructed) (converting : env.Converting)
    (reached : session.Reached env) (args : Ty.AllWithin env.tree call.args) {scope : Scope}
    {method : Method} (answered : (env.lookupMethod scope call session).1 = .ok (some method)) :
    ∃ item, scope = .body item ∧ ∃ link ∈ env.tree.chain item, env.ChosenFrom call link method := by
  have sound := (collecting_of_reached constructed reached).1.sound
  have fit : Ty.AllFit session.cells call.args :=
    Ty.allFit_of_allEager _ _ (Ty.AllWithin.allEager _ args)
  have looked : Query.Runs (Sound env) Follows session (env.lookupMethod scope call)
      (Query.OnValue fun _ found => ∀ method, found = some method →
        ∃ item, scope = .body item ∧
          ∃ link ∈ env.tree.chain item, env.ChosenFrom call link method) := by
    apply runs_lookupMethod_of_found constructed.wellFormed sound fit
    intro item isScope link member inside after soundAfter _
    apply (runs_findMethod_chosen converting constructed soundAfter args inside).mono
    intro last outcome _ _ isChosen answer given found same
    exact ⟨item, isScope, link, member, isChosen answer given found same⟩
  exact looked.good _ answered method rfl

/-- The methods of an item that apply to a call, in the order of declaration, as
the way on which a search from another item meets it shows them. -/
def Contenders (env : Environment) (call : Call) (start item : ItemId) (all : List Applicable) :
    Prop :=
  ∃ ascent ∈ env.met start, ascent.item = item ∧
    env.applying call item ascent.view = .ok all ∧
    ∀ method, method ∈ all ↔ Applies env call item ascent.view method

/-- In every session that questions lead to, and with type arguments of supertypes
that resolve, a method that is looked up is one of those of its owner that apply
to the call, under the view by which the search met the owner.  It is maximally
specific among them just when one of them is least, or when the first of them is
maximally specific. -/
theorem lookupMethod_specific (constructed : env.Constructed) (converting : env.Converting)
    (reached : session.Reached env) (args : Ty.AllWithin env.tree call.args) {scope : Scope}
    {method : Method} (answered : (env.lookupMethod scope call session).1 = .ok (some method)) :
    ∃ item, scope = .body item ∧ ∃ link ∈ env.tree.chain item, ∃ all,
      env.Contenders call link method.owner all ∧ ∃ chosen ∈ all, chosen.method = method ∧
        (env.MaximallySpecific all chosen ↔
          env.HasLeast all ∨ ∀ first, all.head? = some first →
            env.MaximallySpecific all first) := by
  rcases chosenFrom_of_lookupMethod constructed converting reached args answered with
    ⟨item, isScope, link, member, ⟨owner, view⟩, isMet, rfl, choice⟩
  rcases Except.bind_eq_ok choice with ⟨all, listed, preferred⟩
  have specific := maximallySpecific_preferred_iff (length_eq_of_applying listed) preferred
  exact ⟨item, isScope, link, member, all,
    ⟨_, isMet, rfl, listed, mem_applying_iff listed⟩, specific⟩

/-- Two interfaces and a class of both, and two classes with overloads for them: in
the first there is a least one, in the second there is none. -/
def overloadedClasses : DeclTree :=
  .libraryWith "demo"
    [TypeDecl.empty .interfaceType "Fast", TypeDecl.empty .interfaceType "Small",
      { TypeDecl.empty .classType "Cache" with
        implemented := [.simple "Fast" none, .simple "Small" none] },
      { TypeDecl.empty .classType "Ordered" with
        methods := [⟨"put", [], [⟨"any", .ofDotted "Object"⟩], .void, .publicAccess, false⟩,
          ⟨"put", [], [⟨"fast", .ofDotted "Fast"⟩], .void, .publicAccess, false⟩] },
      { TypeDecl.empty .classType "Torn" with
        methods := [⟨"put", [], [⟨"any", .ofDotted "Object"⟩], .void, .publicAccess, false⟩,
          ⟨"put", [], [⟨"fast", .ofDotted "Fast"⟩], .void, .publicAccess, false⟩,
          ⟨"put", [], [⟨"small", .ofDotted "Small"⟩], .void, .publicAccess, false⟩] }]

theorem constructed_overloadedClasses : (selfContained overloadedClasses).Constructed :=
  constructed_libraryWith _ _

theorem converting_overloadedClasses : (selfContained overloadedClasses).Converting :=
  converting_of_listed (by decide +kernel)

/-- A call with a value of the class that implements both interfaces. -/
def putCache : Call :=
  ⟨"put", [.reference 12 "demo.Cache" []], false⟩

/-- One of two overloads is least.  It is found, though it is declared second, and
it is maximally specific. -/
theorem lookupMethod_of_ordered :
    let env := selfContained overloadedClasses
    (env.lookupMethod (.body 13) putCache .start).1 = .ok (some ⟨13, .declared 1⟩) ∧
    ∃ link ∈ env.tree.chain 13, ∃ all, env.Contenders putCache link 13 all ∧
      ∃ chosen ∈ all, chosen.method = ⟨13, .declared 1⟩ ∧
        env.HasLeast all ∧ env.MaximallySpecific all chosen := by
  intro env
  have found : (env.lookupMethod (.body 13) putCache .start).1 = .ok (some ⟨13, .declared 1⟩) := by
    decide +kernel
  have args : Ty.AllWithin env.tree putCache.args := ⟨⟨by decide +kernel, trivial⟩, trivial⟩
  have compared : ∀ link ∈ env.tree.chain 13, ∀ ascent ∈ env.met link, ascent.item = 13 →
      (env.applying putCache 13 ascent.view).toOption.all
        (fun all => decide (env.HasLeast all)) = true := by
    decide +kernel
  rcases lookupMethod_specific constructed_overloadedClasses converting_overloadedClasses .start
    args found with ⟨item, isScope, link, member, all, contenders, chosen, isOne, same, specific⟩
  cases isScope
  have least : env.HasLeast all := by
    obtain ⟨ascent, isMet, isOwner, listed, _⟩ := contenders
    have decided := compared link member ascent isMet isOwner
    rw [listed] at decided
    exact of_decide_eq_true decided
  exact ⟨found, link, member, all, contenders, chosen, isOne, same, least,
    specific.mpr (.inl least)⟩

/-- Of three overloads, of which the second and the third are strictly more
specific than the first and neither is below the other, the first is found. -/
theorem lookupMethod_of_torn :
    let env := selfContained overloadedClasses
    env.Constructed ∧ env.Converting ∧ Ty.AllWithin env.tree putCache.args ∧
    (∀ decl ∈ env.tree.declarations, env.Resolves decl) ∧
    (∀ id < env.tree.size, ∀ index < (env.tree.decl id).methods.length,
      (env.paramTypes ⟨id, .declared index⟩).outcome.toBool = true) ∧
    (env.lookupMethod (.body 14) putCache .start).1 = .ok (some ⟨14, .declared 0⟩) ∧
    ∃ all, env.applying putCache 14 none = .ok all ∧
      ∃ chosen ∈ all, chosen.method = ⟨14, .declared 0⟩ ∧
        ∃ other ∈ all, other.method = ⟨14, .declared 1⟩ ∧ env.MoreSpecific other chosen := by
  have args : Ty.AllWithin (selfContained overloadedClasses).tree putCache.args :=
    ⟨⟨by decide +kernel, trivial⟩, trivial⟩
  have compared : ((selfContained overloadedClasses).applying putCache 14 none).toOption.any
      (fun all => decide (∃ chosen ∈ all, chosen.method = ⟨14, .declared 0⟩ ∧
        ∃ other ∈ all, other.method = ⟨14, .declared 1⟩ ∧
          (selfContained overloadedClasses).MoreSpecific other chosen)) = true := by
    decide +kernel
  refine ⟨constructed_overloadedClasses, converting_overloadedClasses, args, by decide +kernel,
    by decide +kernel, by decide +kernel, ?_⟩
  cases listed : (selfContained overloadedClasses).applying putCache 14 none with
  | error fault => simp [listed, Except.toOption] at compared
  | ok all =>
      rw [listed] at compared
      exact ⟨all, rfl, of_decide_eq_true compared⟩

end Environment

end JavaSymbols

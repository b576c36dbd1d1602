import JavaSymbols.Proofs.Methods.Choice
import JavaSymbols.Proofs.Methods.Totality
import JavaSymbols.Proofs.Session.Events
import JavaSymbols.Proofs.Session.Memos

/-!
# Methods and their usages

A method can be looked up on its own or with its signature as seen at the call.
The two lookups climb the enclosing items on their own.  They stop at the same
item with the same method, and the signature that the second one reads anew is
the one against which the arguments were compared.
-/

namespace JavaSymbols

open Session

/-- A computation on its own that has a value, and then a query. -/
theorem Query.lift_bind_of_ok {α β : Type} {run : Traced α} {value : α}
    (given : run.outcome = .ok value) {next : α → Query β} {session : Session} :
    (((run : Query α) >>= next) session) =
      next value { session with events := session.events ++ run.events } := by
  have ran : (run : Query α) session =
      (.ok value, { session with events := session.events ++ run.events }) :=
    congrArg (·, _) given
  rw [bind_apply, ran]

/-- A computation on its own that ends with a fault. -/
theorem Query.lift_bind_of_error {α β : Type} {run : Traced α} {fault : Fault}
    (failed : run.outcome = .error fault) {next : α → Query β} {session : Session} :
    (((run : Query α) >>= next) session) =
      (.error fault, { session with events := session.events ++ run.events }) := by
  have ran : (run : Query α) session =
      (.error fault, { session with events := session.events ++ run.events }) :=
    congrArg (·, _) failed
  rw [bind_apply, ran]

namespace Environment

variable {env : Environment} {session : Session} {call : Call}

/-! ## What is known of an applicable method -/

section

variable {item : ItemId} {view : Option Reference} {method : Applicable}

/-- An applicable method is one that the call asks for: it has the name and the
number of parameters, and it is static where that is asked for. -/
structure Asked (env : Environment) (call : Call) (method : Method) : Prop where
  name : env.tree.methodName method = call.name
  arity : env.tree.methodArity method = call.args.length
  isStatic : call.staticOnly = true → env.tree.methodIsStatic method = true

theorem Applies.asked (applies : Applies env call item view method) :
    env.Asked call method.method := by
  cases applies with
  | @written index overload params listed fits _ _ =>
      have stands : env.tree.methodDecl? ⟨item, .declared index⟩ = some overload := listed
      unfold Call.fits at fits
      simp only [Bool.and_eq_true, beq_iff_eq, Bool.or_eq_true, Bool.not_eq_true'] at fits
      constructor
      · rw [DeclTree.methodName, stands]
        exact fits.1.1
      · rw [DeclTree.methodArity, stands]
        exact fits.1.2
      · intro isAsked
        rw [DeclTree.methodIsStatic, stands]
        rcases fits.2 with notAsked | isStatic
        · rw [isAsked] at notAsked
          cases notAsked
        · exact isStatic
  | accessor named =>
      rcases owner_of_implicitAccessor named with ⟨component, rfl, none, notStatic, written, listed,
        same⟩
      have header : env.tree.accessedComponent? ⟨item, .accessor component⟩ = some written := listed
      constructor
      · rw [DeclTree.methodName, header]
        exact same
      · rw [none]
        rfl
      · intro isAsked
        rw [notStatic] at isAsked
        cases isAsked

end

/-! ## Found methods -/

/-- What the search for a method has found applies to the call on its owner, as
the reference that led there shows it. -/
structure Found (env : Environment) (call : Call) (session : Session) (found : MethodMatch) :
    Prop where
  inside : found.method.owner < env.tree.size
  viewFits : ∀ reference, found.view = some reference → reference.Fits session.cells
  applies : ∃ params, Applies env call found.method.owner found.view ⟨found.method, params⟩

theorem Found.mono {old new : Session} {found : MethodMatch} (isFound : Found env call old found)
    (later : old.cells.Extends new.cells) : Found env call new found :=
  { isFound with viewFits := fun reference same => (isFound.viewFits reference same).mono later }

theorem runs_visit_found (constructed : env.Constructed) (sound : session.Sound env)
    {ascent : MethodAscent} (known : MethodKnown env call session ascent) :
    Query.Runs (Sound env) Follows session ((env.methodSearch call).visit ascent)
      (Query.Answered False fun after answer =>
        ∀ found, answer = some found → Found env call after found) := by
  apply Query.Runs.unsure
  apply (runs_visit_exact constructed sound known).follows_of_defers.mono
  rintro after outcome _ later same answer rfl found rfl
  rcases Except.bind_eq_ok same.symm with ⟨chosen, choice, isFound⟩
  cases chosen with
  | none => cases isFound
  | some method =>
      cases isFound
      rcases applies_of_choice choice with ⟨params, applies⟩
      have owner : method.owner = ascent.item := applies.owner
      constructor
      · rw [owner]
        exact known.inside
      · intro reference isView
        exact (known.viewFits reference isView).mono later.cells
      · exact ⟨params, owner ▸ applies⟩

/-- What the search for a method finds applies. -/
theorem runs_findMethod_found (constructed : env.Constructed) (sound : session.Sound env)
    (argsFit : Ty.AllFit session.cells call.args) {item : Nat} (inside : item < env.tree.size) :
    Query.Runs (Sound env) Follows session (env.findMethod call item)
      (Query.OnValue fun after answer =>
        ∀ found, answer = some found → Found env call after found) := by
  have steps : Search.Steps (Query.NoneIf False) (env.methodSearch call) (Sound env) Follows
      (MethodKnown env call)
      (fun session _ ancestor => ancestor.Fits session.cells ∧
        Ty.AllFit session.cells call.args) (Found env call) :=
    { steps_methodSearch constructed call with
      visit := fun _ _ soundHere known => runs_visit_found constructed soundHere known }
  have start : MethodKnown env call session ⟨item, none⟩ := ⟨inside, nofun, argsFit⟩
  unfold findMethod
  have searched := Search.runs_run steps env.searchDepth sound start
  apply (searched.mono fun _ _ _ _ judged => judged.value).bind_value
  rintro after ⟨seen, answer⟩ soundAfter _ result
  apply Query.runs_pure soundAfter
  rintro _ ⟨⟩ found same
  exact result.2 found same

/-- The signature of a found method is the one that it was found with, and reading
it ends with a fault only if the return type does not resolve. -/
theorem usageOf_of_applies (wellFormed : env.tree.WellFormed) {found : MethodMatch}
    {params : List Ty} (inside : found.method.owner < env.tree.size)
    (applies : Applies env call found.method.owner found.view ⟨found.method, params⟩)
    (session : Session) :
    (env.usageOf found session).1 = (env.returnType found.method).outcome.map fun returns =>
      ⟨found.method, params, returns.seenThrough found.view session.cells⟩ := by
  rcases applies.paramTypes with ⟨written, resolves, shown⟩
  have eager := isEager_of_paramTypes wellFormed inside resolves
  change params = _ at shown
  unfold usageOf
  rw [Query.lift_bind_of_ok resolves, shown,
    ← Ty.map_seenThrough_of_isEager found.view session.cells eager]
  exact Query.outcome_bind_pure _ _ _

/-! ## The two lookups side by side -/

/-- How the outcome of looking a method up and that of looking its usage up go
together.  They differ only where the return type of the method does not resolve. -/
inductive UsedAs (env : Environment) :
    Except Fault (Option Method) → Except Fault (Option MethodUsage) → Prop where
  | fault (fault : Fault) : UsedAs env (.error fault) (.error fault)
  | missing : UsedAs env (.ok none) (.ok none)
  | used {usage : MethodUsage} {returns : Ty}
      (given : (env.returnType usage.method).outcome = .ok returns) :
      UsedAs env (.ok (some usage.method)) (.ok (some usage))
  | unreturned {method : Method} {fault : Fault}
      (failed : (env.returnType method).outcome = .error fault) :
      UsedAs env (.ok (some method)) (.error fault)

/-- The usage of a method that has been found, as its lookup ends with it. -/
theorem usedAs_of_found (wellFormed : env.tree.WellFormed) {found : MethodMatch}
    (isFound : Found env call session found) (twin : Session) :
    UsedAs env (.ok (some found.method)) ((do
      let usage ← env.usageOf found
      pure (some usage) : Query (Option MethodUsage)) twin).1 := by
  rcases isFound.applies with ⟨params, applies⟩
  rw [Query.outcome_bind_pure, usageOf_of_applies wellFormed isFound.inside applies]
  cases returned : (env.returnType found.method).outcome with
  | error fault => exact .unreturned returned
  | ok returns =>
      have sameMethod : (env.returnType (MethodUsage.mk found.method params
          (returns.seenThrough found.view twin.cells)).method).outcome = .ok returns := returned
      exact .used sameMethod

/-- From sessions that differ in events alone, the two climbs stop at the same
item with the same method. -/
theorem usedAs_outward (constructed : env.Constructed) (items : List ItemId) :
    ∀ {session twin : Session}, session.Sound env → twin.withoutEvents = session.withoutEvents →
      Ty.AllFit session.cells call.args → (∀ item ∈ items, item < env.tree.size) →
      UsedAs env (env.methodOutward call items session).1 (env.usageOutward call items twin).1 := by
  induction items with
  | nil =>
      intro session twin _ _ _ _
      exact .missing
  | cons item outer ih =>
      intro session twin sound alike argsFit inside
      have finding := runs_findMethod_found constructed sound argsFit
        (inside item List.mem_cons_self)
      rcases (ignoresEvents_findMethod call item).same alike with ⟨sameOutcome, sameAfter⟩
      rw [methodOutward, usageOutward, Query.bind_apply, Query.bind_apply]
      rcases here : env.findMethod call item session with ⟨outcome, after⟩
      rcases there : env.findMethod call item twin with ⟨otherOutcome, otherAfter⟩
      rw [here, there] at sameOutcome sameAfter
      rcases finding with ⟨soundAfter, later, isFound⟩
      rw [here] at soundAfter later isFound
      cases sameOutcome
      cases outcome with
      | error fault => exact .fault fault
      | ok answer =>
          cases answer with
          | some found =>
              exact usedAs_of_found constructed.wellFormed (isFound _ rfl found rfl) otherAfter
          | none =>
              -- Only the first climb reports that it goes on.
              have reported : Sound env { after with
                  events := after.events ++
                    (Traced.report (.methodLookupDelegated call.name)).events } :=
                Sound.congr soundAfter rfl rfl
              apply ih reported sameAfter
              · exact Ty.AllFit.mono later.cells _ argsFit
              · intro other member
                exact inside other (List.mem_cons_of_mem item member)

/-- Looking a method up and looking its usage up go together in every scope. -/
theorem usedAs_lookup (constructed : env.Constructed) (sound : session.Sound env) (scope : Scope)
    (name : String) {args : List Ty} (argsFit : Ty.AllFit session.cells args) :
    UsedAs env (env.lookupMethod scope ⟨name, args, false⟩ session).1
      (env.lookupUsage scope name args session).1 := by
  cases scope with
  | unit id => exact .missing
  | body item =>
      rw [lookupMethod, lookupUsage]
      cases checked : (env.known item).outcome with
      | error fault =>
          rw [Query.lift_bind_of_error checked, Query.lift_bind_of_error checked]
          exact .fault fault
      | ok _ =>
          rw [Query.lift_bind_of_ok checked, Query.lift_bind_of_ok checked]
          have checkedSound : Sound env { session with
              events := session.events ++ (env.known item).events } := sound.congr rfl rfl
          apply usedAs_outward constructed _ checkedSound rfl
          · exact argsFit
          · intro link member
            exact constructed.wellFormed.chain_lt (lt_of_known checked) member

/-! ## What usages and methods are found -/

/-- A usage suits a call: the types of its parameters can be compared in a
session, and the arguments of the call can be passed for them. -/
structure Suits (env : Environment) (call : Call) (session : Session) (usage : MethodUsage) :
    Prop where
  fit : Ty.AllFit session.cells usage.params
  accepts : List.Forall₂ (fun arg param => env.passes arg param = .ok true) call.args usage.params

theorem runs_usageOf_suits (wellFormed : env.tree.WellFormed) (sound : session.Sound env)
    {found : MethodMatch} (isFound : Found env call session found) :
    Query.Runs (Sound env) Defers session (env.usageOf found)
      (Query.OnValue fun after => Suits env call after) := by
  rcases isFound.applies with ⟨params, applies⟩
  have ran := runs_usageOf sound found
  constructor
  · exact ran.invariant
  · exact ran.follows
  · intro usage given
    rw [usageOf_of_applies wellFormed isFound.inside applies] at given
    cases returned : (env.returnType found.method).outcome with
    | error fault =>
        rw [returned] at given
        cases given
    | ok returns =>
        rw [returned] at given
        cases given
        constructor
        · rcases applies.paramTypes with ⟨written, resolves, shown⟩
          have eager := isEager_of_paramTypes wellFormed isFound.inside resolves
          change params = _ at shown
          rw [shown, ← Ty.map_seenThrough_of_isEager found.view
            (env.usageOf found session).2.cells eager]
          apply Ty.allFit_iff.mpr
          intro type member
          rcases List.mem_map.mp member with ⟨param, isParam, rfl⟩
          apply ran.invariant.cells.fits_seenThrough wellFormed
          · intro reference isView
            exact (isFound.viewFits reference isView).mono ran.follows.cells
          · exact Ty.fits_of_isEager _ param (eager param isParam)
        · exact applies.accepts

theorem runs_usageOutward_suits (constructed : env.Constructed) (items : List ItemId) :
    ∀ {session : Session}, session.Sound env → Ty.AllFit session.cells call.args →
      (∀ item ∈ items, item < env.tree.size) →
      Query.Runs (Sound env) Follows session (env.usageOutward call items)
        (Query.OnValue fun after found => ∀ usage, found = some usage →
          Suits env call after usage) := by
  induction items with
  | nil =>
      intro session sound _ _
      apply Query.runs_pure sound
      rintro _ ⟨⟩ usage same
      cases same
  | cons item outer ih =>
      intro session sound argsFit inside
      rw [usageOutward]
      apply (runs_findMethod_found constructed sound argsFit
        (inside item List.mem_cons_self)).bind_value
      intro after answer soundAfter later isFound
      cases answer with
      | some found =>
          apply (runs_usageOf_suits constructed.wellFormed soundAfter
            (isFound found rfl)).follows_of_defers.bind_value
          intro last usage soundLast _ suits
          apply Query.runs_pure soundLast
          rintro _ ⟨⟩ other same
          cases same
          exact suits
      | none =>
          apply ih soundAfter (Ty.AllFit.mono later.cells _ argsFit)
          intro other member
          exact inside other (List.mem_cons_of_mem item member)

theorem runs_lookupUsage_suits (constructed : env.Constructed) (sound : session.Sound env)
    (scope : Scope) (name : String) {args : List Ty} (argsFit : Ty.AllFit session.cells args) :
    Query.Runs (Sound env) Follows session (env.lookupUsage scope name args)
      (Query.OnValue fun after found => ∀ usage, found = some usage →
        Suits env ⟨name, args, false⟩ after usage) := by
  cases scope with
  | unit id =>
      apply Query.runs_pure sound
      rintro _ ⟨⟩ usage same
      cases same
  | body item =>
      apply runs_known_then sound item
      intro after soundAfter later inside
      apply runs_usageOutward_suits constructed _ soundAfter
        (Ty.AllFit.mono later.cells _ argsFit)
      intro link member
      exact constructed.wellFormed.chain_lt inside member

/-- What holds of the methods that are found on each of several items holds of the
one that a climb through them ends with. -/
theorem runs_methodOutward_of_found {good : Method → Prop} (items : List ItemId) :
    ∀ {session : Session}, session.Sound env → Ty.AllFit session.cells call.args →
      (∀ item ∈ items, ∀ after : Session, after.Sound env → Ty.AllFit after.cells call.args →
        Query.Runs (Sound env) Follows after (env.findMethod call item)
          (Query.OnValue fun _ answer => ∀ found, answer = some found → good found.method)) →
      Query.Runs (Sound env) Follows session (env.methodOutward call items)
        (Query.OnValue fun _ found => ∀ method, found = some method → good method) := by
  induction items with
  | nil =>
      intro session sound _ _
      apply Query.runs_pure sound
      rintro _ ⟨⟩ method same
      cases same
  | cons item outer ih =>
      intro session sound argsFit finds
      rw [methodOutward]
      apply (finds item List.mem_cons_self session sound argsFit).bind_value
      intro after answer soundAfter later isGood
      cases answer with
      | some found =>
          apply Query.runs_pure soundAfter
          rintro _ ⟨⟩ method same
          cases same
          exact isGood found rfl
      | none =>
          have reported : Query.Runs (Sound env) Follows after
              (Query.report (.methodLookupDelegated call.name)) Query.Anything :=
            (Query.runs_report soundAfter _ fun _ => Query.anything _ _).follows_of_defers
          apply reported.bind_value
          intro last _ soundLast onward _
          apply ih soundLast (Ty.AllFit.mono (later.trans onward).cells _ argsFit)
          intro other member
          exact finds other (List.mem_cons_of_mem item member)

/-- What holds of the methods that are found on each item around a scope holds of
the one that is looked up there. -/
theorem runs_lookupMethod_of_found (wellFormed : env.tree.WellFormed) (sound : session.Sound env)
    {scope : Scope} (argsFit : Ty.AllFit session.cells call.args) {good : Method → Prop}
    (finds : ∀ item, scope = .body item → ∀ link ∈ env.tree.chain item, link < env.tree.size →
      ∀ after : Session, after.Sound env → Ty.AllFit after.cells call.args →
        Query.Runs (Sound env) Follows after (env.findMethod call link)
          (Query.OnValue fun _ answer => ∀ found, answer = some found → good found.method)) :
    Query.Runs (Sound env) Follows session (env.lookupMethod scope call)
      (Query.OnValue fun _ found => ∀ method, found = some method → good method) := by
  cases scope with
  | unit id =>
      apply Query.runs_pure sound
      rintro _ ⟨⟩ method same
      cases same
  | body item =>
      apply runs_known_then sound item
      intro after soundAfter later inside
      apply runs_methodOutward_of_found _ soundAfter (Ty.AllFit.mono later.cells _ argsFit)
      intro link member
      exact finds item rfl link member (wellFormed.chain_lt inside member)

/-- A method that is looked up is one that the call asks for. -/
theorem runs_lookupMethod_asked (constructed : env.Constructed) (sound : session.Sound env)
    (scope : Scope) (argsFit : Ty.AllFit session.cells call.args) :
    Query.Runs (Sound env) Follows session (env.lookupMethod scope call)
      (Query.OnValue fun _ found => ∀ method, found = some method → env.Asked call method) := by
  apply runs_lookupMethod_of_found constructed.wellFormed sound argsFit
  intro _ _ link _ inside after soundAfter fit
  have finding := runs_findMethod_found constructed soundAfter fit inside
  apply finding.mono
  intro last outcome _ _ isFound answer given found same
  rcases (isFound answer given found same).applies with ⟨params, applies⟩
  exact applies.asked

/-! ## Agreement -/

/-- Types that can be passed for others are assignable to them in every sound
session that knows them all. -/
theorem forall₂_isAssignable (wellFormed : env.tree.WellFormed) (sound : session.Sound env)
    {sources targets : List Ty}
    (passing : List.Forall₂ (fun arg param => env.passes arg param = .ok true) sources targets)
    (fit : Ty.AllFit session.cells sources) (slotsFit : Ty.AllFit session.cells targets) :
    List.Forall₂ (fun arg param => (env.isAssignable arg param session).1 = .ok true)
      sources targets := by
  induction passing with
  | nil => exact .nil
  | cons passes _ ih =>
      have compared := (runs_isAssignable_exact wellFormed sound fit.1 slotsFit.1).good
      exact .cons (compared.trans passes) (ih fit.2 slotsFit.2)

theorem reached_lookupUsage (reached : session.Reached env) (scope : Scope) (name : String)
    {args : List Ty} (argsFit : Ty.AllFit session.cells args) :
    (env.lookupUsage scope name args session).2.Reached env :=
  reached.answered (.usage scope name args) argsFit rfl rfl

/-- In every session that questions lead to and in every scope, looking a method up
and looking its usage up go together: both end with the same fault, both find
nothing, or both find the same method, except that the usage also needs the return
type.  From then on, the arguments can be assigned to the parameters of a usage,
as many as there are.  Every method found is one that the call asks for. -/
theorem lookupUsage_agrees (constructed : env.Constructed) (reached : session.Reached env)
    (scope : Scope) (name : String) {args : List Ty} (argsFit : Ty.AllFit session.cells args) :
    UsedAs env (env.lookupMethod scope ⟨name, args, false⟩ session).1
      (env.lookupUsage scope name args session).1 ∧
    (∀ usage, (env.lookupUsage scope name args session).1 = .ok (some usage) →
      ∀ later, LeadsTo env (env.lookupUsage scope name args session).2 later →
        List.Forall₂ (fun arg param => (env.isAssignable arg param later).1 = .ok true)
          args usage.params) ∧
    ∀ staticOnly method,
      (env.lookupMethod scope ⟨name, args, staticOnly⟩ session).1 = .ok (some method) →
        env.Asked ⟨name, args, staticOnly⟩ method := by
  have wellFormed := constructed.wellFormed
  have sound := (collecting_of_reached constructed reached).1.sound
  constructor
  · exact usedAs_lookup constructed sound scope name argsFit
  constructor
  · intro usage given later onward
    have found := runs_lookupUsage_suits constructed sound scope name argsFit
    have suits := found.good _ given usage rfl
    have after := reached_lookupUsage reached scope name argsFit
    have soundLater := (collecting_of_reached constructed (after.leadsTo onward)).1.sound
    have kept := extends_of_leadsTo constructed after onward
    apply forall₂_isAssignable wellFormed soundLater suits.accepts
    · exact Ty.AllFit.mono (found.follows.cells.trans kept) _ argsFit
    · exact Ty.AllFit.mono kept _ suits.fit
  · intro staticOnly method given
    have fit : Ty.AllFit session.cells (Call.mk name args staticOnly).args := argsFit
    exact (runs_lookupMethod_asked constructed sound scope fit).good _ given method rfl

/-- A usage found above a supertype whose argument does not resolve. -/
theorem lookupUsage_of_known :
    ∃ usage, ((selfContained takingClasses).lookupUsage (.body 11) "take" [textType] .start).1 =
        .ok (some usage) ∧ usage.method = ⟨10, .declared 0⟩ ∧
      List.Forall₂ (fun arg param => ((selfContained takingClasses).isAssignable arg param
        ((selfContained takingClasses).lookupUsage (.body 11) "take" [textType] .start).2).1 =
          .ok true) [textType] usage.params := by
  have fit : Ty.AllFit Session.start.cells [textType] := Ty.allFit_of_allEager _ _ rfl
  rcases lookupUsage_agrees constructed_takingClasses .start (.body 11) "take" fit with
    ⟨_, suits, _⟩
  have found : (((selfContained takingClasses).lookupUsage (.body 11) "take" [textType]
      .start).1.toOption.join.map MethodUsage.method) = some ⟨10, .declared 0⟩ := by
    decide +kernel
  rcases Option.map_eq_some_iff.mp found with ⟨usage, given, same⟩
  have answered : ((selfContained takingClasses).lookupUsage (.body 11) "take" [textType]
      .start).1 = .ok (some usage) := by
    cases outcome : ((selfContained takingClasses).lookupUsage (.body 11) "take" [textType]
        .start).1 with
    | error fault =>
        rw [outcome] at given
        cases given
    | ok answer =>
        rw [outcome] at given
        exact congrArg Except.ok given
  exact ⟨usage, answered, same, suits usage answered _ .refl⟩

end Environment

end JavaSymbols

import JavaSymbols.Proofs.Session.Lookups

/-!
# The choice among overloads

Which method of an item a call means depends on the declaration tree, the types
of the arguments and the reference that led to the item.  The cells of a session
save work and change nothing: the choice is what the same comparisons give on
types with every deferred part converted.
-/

namespace JavaSymbols

namespace Ty

/-- Without deferred parts, a type looks the same whatever the cells hold. -/
theorem seenThrough_of_isEager {type : Ty} (view : Option Reference) (cells : Cells)
    (eager : type.isEager = true) : type.seenThrough view cells = type.seenThrough view .empty := by
  cases view with
  | none => rfl
  | some view =>
      rw [seenThrough, seenThrough, Reference.apply_eq_instantiate cells eager,
        Reference.apply_eq_instantiate .empty eager]

theorem map_seenThrough_of_isEager {types : List Ty} (view : Option Reference) (cells : Cells)
    (eager : ∀ type ∈ types, type.isEager = true) :
    types.map (seenThrough view cells) = types.map (seenThrough view .empty) := by
  apply List.map_congr_left
  intro type member
  exact seenThrough_of_isEager view cells (eager type member)

end Ty

/-- The outcome of several computations is the sequence of their outcomes. -/
theorem Traced.outcome_mapM {α β : Type} (run : α → Traced β) (entries : List α) :
    (entries.mapM run).outcome = entries.mapM fun entry => (run entry).outcome := by
  induction entries with
  | nil => rfl
  | cons entry rest ih =>
      rw [List.mapM_cons, List.mapM_cons, outcome_bind]
      cases (run entry).outcome with
      | error fault => rfl
      | ok value =>
          change ((rest.mapM run) >>= fun values => pure (value :: values)).outcome = _
          rw [outcome_bind, ih]
          rfl

namespace Query

variable {α β γ : Type} {invariant : Session → Prop} {follows : Session → Session → Prop}
variable [IsPreorder Session follows] {session : Session}

/-- One query after another, when the outcomes of both are known. -/
theorem Runs.bind_exact {first : Query α} {next : α → Query β} {expected : Except Fault α}
    {later : α → Except Fault β}
    (head : Runs invariant follows session first fun _ outcome => outcome = expected)
    (tail : ∀ after value, invariant after → follows session after → expected = .ok value →
      Runs invariant follows after (next value) fun _ outcome => outcome = later value) :
    Runs invariant follows session (first >>= next) fun _ outcome =>
      outcome = expected >>= later := by
  apply head.bind
  · rintro after cause _ rfl
    rfl
  · rintro after value kept onward rfl
    exact tail after value kept onward rfl

omit [IsPreorder Session follows] in
/-- Two facts about one run. -/
theorem Runs.and {query : Query α} {good fine : Session → Except Fault α → Prop}
    (first : Runs invariant follows session query good)
    (second : Runs invariant follows session query fine) :
    Runs invariant follows session query fun after outcome =>
      good after outcome ∧ fine after outcome :=
  ⟨first.invariant, first.follows, first.good, second.good⟩

/-- Queries for each entry of a list, when their outcomes are known. -/
theorem runs_mapM_exact {entries : List α} {query : α → Query β} {expect : α → Except Fault β}
    (before : invariant session)
    (each : ∀ entry ∈ entries, ∀ after, invariant after → follows session after →
      Runs invariant follows after (query entry) fun _ outcome => outcome = expect entry) :
    Runs invariant follows session (entries.mapM query) fun _ outcome =>
      outcome = entries.mapM expect := by
  induction entries generalizing session with
  | nil => exact runs_pure before rfl
  | cons entry rest ih =>
      rw [List.mapM_cons, List.mapM_cons]
      apply (each entry List.mem_cons_self session before (refl_of follows session)).bind_exact
      intro after value kept onward _
      have later := ih kept fun other member last keptLast followed =>
        each other (List.mem_cons_of_mem entry member) last keptLast
          (trans_of follows onward followed)
      apply later.bind_exact
      intro last values keptLast _ _
      exact runs_pure keptLast rfl

end Query

namespace Environment

open Session

section

variable (env : Environment)

/-! ## Comparisons without cells -/

/-- Whether a value of one type can be assigned to a slot of another, with every
deferred part of both converted. -/
def passes (source target : Ty) : Except Fault Bool := do
  let source ← env.forced source
  let target ← env.forced target
  (env.assignable source target).outcome

/-- Whether values of several types can be assigned to as many slots. -/
def allPass : (sources targets : List Ty) → Except Fault Bool
  | source :: sources, target :: targets => do
      if ← env.passes source target then allPass sources targets else pure false
  | _, _ => pure true

/-- The parameter types of an overload as a reference shows them, if it is
applicable. -/
def applying? (call : Call) (item : ItemId) (view : Option Reference)
    (overload : Nat × MethodDecl) : Except Fault (Option Applicable) :=
  match (env.paramTypes ⟨item, .declared overload.1⟩).outcome with
  | .ok params => do
      let params := params.map (Ty.seenThrough view .empty)
      let accepted ← env.allPass call.args params
      pure (if accepted then some ⟨⟨item, .declared overload.1⟩, params⟩ else none)
  | .error fault => if fault.isUnresolved then pure none else .error fault

/-- The methods of an item that a call can mean. -/
def applying (call : Call) (item : ItemId) (view : Option Reference) :
    Except Fault (List Applicable) := do
  let written ← ((env.tree.decl item).methodsWhere call.fits).mapM (env.applying? call item view)
  let accessor := (env.implicitAccessor? call item).map fun method => Applicable.mk method []
  pure (written.filterMap id ++ accessor.toList)

/-- Whether the parameters of a method could be passed on to each of several. -/
def passesOn (method : Applicable) : List Applicable → Except Fault Bool
  | [] => pure true
  | other :: rest => do
      if ← env.allPass method.params other.params then passesOn method rest else pure false

/-- The first of several methods whose parameters could be passed on to all. -/
def firstPassingOn (all : List Applicable) : List Applicable → Except Fault (Option Method)
  | [] => pure none
  | method :: rest => do
      if ← env.passesOn method all then pure (some method.method) else firstPassingOn all rest

/-- The most specific of several applicable methods. -/
def preferred (all : List Applicable) : Except Fault (Option Method) :=
  match all with
  | [] => pure none
  | [only] => pure (some only.method)
  | first :: _ => do
      let found ← env.firstPassingOn all all
      pure (some (found.getD first.method))

/-- The method of an item that a call means. -/
def choice (call : Call) (item : ItemId) (view : Option Reference) :
    Except Fault (Option Method) := do
  let all ← env.applying call item view
  env.preferred all

end

/-! ## Comparisons in a session -/

variable {env : Environment} {session : Session} {call : Call}

theorem runs_isAssignable_exact (wellFormed : env.tree.WellFormed) (sound : session.Sound env)
    {source target : Ty} (fits : source.Fits session.cells) (slotFits : target.Fits session.cells) :
    Query.Runs (Sound env) Defers session (env.isAssignable source target)
      fun _ outcome => outcome = env.passes source target := by
  have forces : ∀ {after : Session} (type : Ty), after.Sound env → type.Fits after.cells →
      Query.Runs (Sound env) Defers after (env.force type)
        fun _ outcome => outcome = env.forced type :=
    fun type soundAfter typeFits =>
      (runs_force wellFormed soundAfter type typeFits).mono fun _ _ _ _ both => both.1
  unfold isAssignable passes
  apply (forces source sound fits).bind_exact
  intro after forcedSource soundAfter later _
  apply (forces target soundAfter (slotFits.mono later.cells)).bind_exact
  intro last forcedTarget soundLast _ _
  exact (Query.runs_lift soundLast _).mono fun _ _ _ _ both => both.2

theorem runs_allAssignable_exact (wellFormed : env.tree.WellFormed) (sources : List Ty) :
    ∀ {session : Session} {targets : List Ty}, session.Sound env →
      Ty.AllFit session.cells sources → Ty.AllFit session.cells targets →
      Query.Runs (Sound env) Defers session (env.allAssignable sources targets)
        fun _ outcome => outcome = env.allPass sources targets := by
  induction sources with
  | nil =>
      intro session targets sound _ _
      exact Query.runs_pure sound rfl
  | cons source sources ih =>
      intro session targets sound fit slotsFit
      cases targets with
      | nil => exact Query.runs_pure sound rfl
      | cons target targets =>
          rw [allAssignable, allPass]
          apply (runs_isAssignable_exact wellFormed sound fit.1 slotsFit.1).bind_exact
          intro after accepted soundAfter later _
          cases accepted with
          | false => exact Query.runs_pure soundAfter rfl
          | true =>
              exact ih soundAfter (Ty.AllFit.mono later.cells _ fit.2)
                (Ty.AllFit.mono later.cells _ slotsFit.2)

/-- The parameter types of a method have no deferred parts. -/
theorem isEager_of_paramTypes (wellFormed : env.tree.WellFormed) {method : Method}
    (inside : method.owner < env.tree.size) {params : List Ty}
    (given : (env.paramTypes method).outcome = .ok params) :
    ∀ param ∈ params, param.isEager = true := by
  intro param member
  have within := (soft_paramTypes wellFormed inside).good params given
  exact (Ty.allWithin_iff.mp within param member).isEager

theorem runs_applicable?_exact (constructed : env.Constructed) {item : Nat}
    {view : Option Reference} (sound : session.Sound env)
    (known : MethodKnown env call session ⟨item, view⟩) (overload : Nat × MethodDecl) :
    Query.Runs (Sound env) Defers session (env.applicable? call item view overload)
      fun _ outcome => outcome = env.applying? call item view overload := by
  have wellFormed := constructed.wellFormed
  unfold applicable? applying?
  apply Query.Runs.recover (.overloadSkipped overload.2.name) (pure none) (fun _ => rfl)
    (Query.runs_lift sound (env.paramTypes ⟨item, .declared overload.1⟩))
  · rintro after params soundAfter later ⟨_, same⟩
    have inside : (Method.mk item (.declared overload.1)).owner < env.tree.size := known.inside
    have eager := isEager_of_paramTypes wellFormed inside same.symm
    apply Query.Runs.bind_cells
    rw [← same, Ty.map_seenThrough_of_isEager view after.cells eager]
    have shown : Ty.AllFit after.cells (params.map (Ty.seenThrough view .empty)) := by
      rw [← Ty.map_seenThrough_of_isEager view after.cells eager]
      apply Ty.allFit_iff.mpr
      intro type member
      exact (known.readable constructed overload after later soundAfter params same.symm type
        member).fits
    apply (runs_allAssignable_exact wellFormed call.args soundAfter
      (Ty.AllFit.mono later.cells _ known.argsFit) shown).bind_exact
    intro last accepted soundLast _ _
    exact Query.runs_pure soundLast rfl
  · rintro after fault hard ⟨_, same⟩
    rw [← same]
    simp [hard]
  · rintro after fault events soundAfter _ soft ⟨_, same⟩
    have told : env.applying? call item view overload = .ok none := by
      unfold applying?
      rw [← same]
      exact if_pos soft
    exact Query.runs_pure (soundAfter.congr rfl rfl) told.symm

theorem MethodKnown.readableAll (constructed : env.Constructed) {ascent : MethodAscent}
    (known : MethodKnown env call session ascent) :
    ∀ overload ∈ (env.tree.decl ascent.item).methodsWhere call.fits,
      env.Readable False session ascent.item ascent.view overload :=
  fun overload _ => known.readable constructed overload

/-- The applicable methods of an item are the same in all sessions, and the types
of their parameters fit the session. -/
theorem runs_applicables_exact (constructed : env.Constructed) (sound : session.Sound env)
    {ascent : MethodAscent} (known : MethodKnown env call session ascent) :
    Query.Runs (Sound env) Defers session (env.applicables call ascent.item ascent.view)
      fun after outcome => outcome = env.applying call ascent.item ascent.view ∧
        ∀ all, outcome = .ok all → ∀ method ∈ all, Ty.AllFit after.cells method.params := by
  have told : Query.Runs (Sound env) Defers session
      (env.applicables call ascent.item ascent.view)
      fun _ outcome => outcome = env.applying call ascent.item ascent.view := by
    unfold applicables applying
    have written := Query.runs_mapM_exact sound fun overload
        (_ : overload ∈ (env.tree.decl ascent.item).methodsWhere call.fits) after soundAfter
        (later : session.Defers after) =>
      runs_applicable?_exact constructed soundAfter (known.mono later.cells) overload
    apply written.bind_exact
    intro after found soundAfter _ _
    exact Query.runs_pure soundAfter rfl
  have usable := runs_applicables constructed False.elim sound (allUsable_of_allFit known.argsFit)
    known.inside (known.readableAll constructed)
  apply (told.and usable).mono
  rintro after outcome _ _ ⟨same, answered⟩
  constructor
  · exact same
  · intro all given method member
    apply Ty.allFit_iff.mpr
    intro type isParam
    exact (answered.value all given method member type isParam).fits

theorem runs_passesToAll_exact (wellFormed : env.tree.WellFormed) {method : Applicable}
    (others : List Applicable) : ∀ {session : Session}, session.Sound env →
      Ty.AllFit session.cells method.params →
      (∀ other ∈ others, Ty.AllFit session.cells other.params) →
      Query.Runs (Sound env) Defers session (env.passesToAll method others)
        fun _ outcome => outcome = env.passesOn method others := by
  induction others with
  | nil =>
      intro session sound _ _
      exact Query.runs_pure sound rfl
  | cons other rest ih =>
      intro session sound own fit
      rcases List.forall_mem_cons.mp fit with ⟨otherFits, restFit⟩
      rw [passesToAll, passesOn]
      apply (runs_allAssignable_exact wellFormed _ sound own otherFits).bind_exact
      intro after passes soundAfter later _
      cases passes with
      | false => exact Query.runs_pure soundAfter rfl
      | true =>
          apply ih soundAfter (Ty.AllFit.mono later.cells _ own)
          intro one member
          exact Ty.AllFit.mono later.cells _ (restFit one member)

theorem runs_firstPassingToAll_exact (wellFormed : env.tree.WellFormed) {all : List Applicable}
    (methods : List Applicable) : ∀ {session : Session}, session.Sound env →
      (∀ method ∈ all, Ty.AllFit session.cells method.params) →
      (∀ method ∈ methods, Ty.AllFit session.cells method.params) →
      Query.Runs (Sound env) Defers session (env.firstPassingToAll all methods)
        fun _ outcome => outcome = env.firstPassingOn all methods := by
  induction methods with
  | nil =>
      intro session sound _ _
      exact Query.runs_pure sound rfl
  | cons method rest ih =>
      intro session sound allFit fit
      rcases List.forall_mem_cons.mp fit with ⟨own, restFit⟩
      rw [firstPassingToAll, firstPassingOn]
      apply (runs_passesToAll_exact wellFormed all sound own allFit).bind_exact
      intro after passes soundAfter later _
      cases passes with
      | true => exact Query.runs_pure soundAfter rfl
      | false =>
          apply ih soundAfter
          · intro one member
            exact Ty.AllFit.mono later.cells _ (allFit one member)
          · intro one member
            exact Ty.AllFit.mono later.cells _ (restFit one member)

theorem runs_mostSpecific_exact (wellFormed : env.tree.WellFormed) (sound : session.Sound env)
    {all : List Applicable} (fit : ∀ method ∈ all, Ty.AllFit session.cells method.params) :
    Query.Runs (Sound env) Defers session (env.mostSpecific all)
      fun _ outcome => outcome = env.preferred all := by
  rcases all with _ | ⟨first, _ | ⟨second, rest⟩⟩
  · exact Query.runs_pure sound rfl
  · exact Query.runs_pure sound rfl
  · apply (runs_firstPassingToAll_exact wellFormed _ sound fit fit).bind_exact
    intro after found soundAfter _ _
    exact Query.runs_pure soundAfter rfl

/-- Looking at an item gives the method that the call means on it, whatever the
cells of the session hold. -/
theorem runs_visit_exact (constructed : env.Constructed) (sound : session.Sound env)
    {ascent : MethodAscent} (known : MethodKnown env call session ascent) :
    Query.Runs (Sound env) Defers session ((env.methodSearch call).visit ascent)
      fun _ outcome => outcome = (do
        let method ← env.choice call ascent.item ascent.view
        pure (method.map fun method => ⟨method, ascent.view⟩)) := by
  have listed := runs_applicables_exact constructed sound known
  unfold choice
  rw [bind_assoc]
  apply listed.bind
  · rintro after cause _ ⟨same, _⟩
    rw [← same]
    rfl
  · rintro after all soundAfter _ ⟨same, fit⟩
    rw [← same]
    apply (runs_mostSpecific_exact constructed.wellFormed soundAfter (fit all rfl)).bind_exact
    intro last method soundLast _ _
    exact Query.runs_pure soundLast rfl

/-! ## Methods that apply -/

/-- A method of an item applies to a call: its parameter types resolve and, as a
reference shows them, accept the arguments. -/
inductive Applies (env : Environment) (call : Call) (item : ItemId) (view : Option Reference) :
    Applicable → Prop where
  | written {index : Nat} {overload : MethodDecl} {params : List Ty}
      (listed : (env.tree.decl item).methods[index]? = some overload)
      (fits : call.fits overload = true)
      (resolves : (env.paramTypes ⟨item, .declared index⟩).outcome = .ok params)
      (accepts : List.Forall₂ (fun arg param => env.passes arg param = .ok true) call.args
        (params.map (Ty.seenThrough view .empty))) :
      Applies env call item view
        ⟨⟨item, .declared index⟩, params.map (Ty.seenThrough view .empty)⟩
  | accessor {method : Method} (named : env.implicitAccessor? call item = some method) :
      Applies env call item view ⟨method, []⟩

theorem mem_methodsWhere_iff {decl : TypeDecl} {test : MethodDecl → Bool} {index : Nat}
    {method : MethodDecl} : (index, method) ∈ decl.methodsWhere test ↔
      decl.methods[index]? = some method ∧ test method = true := by
  unfold TypeDecl.methodsWhere
  rw [List.mem_filterMap]
  constructor
  · rintro ⟨⟨written, position⟩, member, same⟩
    dsimp only at same
    split at same
    · next passes =>
        cases same
        exact ⟨List.mem_zipIdx_iff_getElem?.mp member, passes⟩
    · cases same
  · rintro ⟨listed, passes⟩
    exact ⟨(method, index), List.mem_zipIdx_iff_getElem?.mpr listed, if_pos passes⟩

theorem allPass_eq_ok_iff {sources : List Ty} : ∀ {targets : List Ty},
    sources.length = targets.length → (env.allPass sources targets = .ok true ↔
      List.Forall₂ (fun source target => env.passes source target = .ok true) sources targets) := by
  induction sources with
  | nil =>
      intro targets same
      rw [List.eq_nil_of_length_eq_zero same.symm]
      exact iff_of_true rfl .nil
  | cons source sources ih =>
      intro targets same
      cases targets with
      | nil => cases same
      | cons target targets =>
          rw [allPass, List.forall₂_cons, ← ih (Nat.succ.inj same)]
          cases env.passes source target with
          | error fault => simp [bind, Except.bind]
          | ok accepted => cases accepted <;> simp [bind, Except.bind, pure, Except.pure]

theorem length_paramTypes {item : ItemId} {index : Nat} {overload : MethodDecl} {params : List Ty}
    (listed : (env.tree.decl item).methods[index]? = some overload)
    (resolves : (env.paramTypes ⟨item, .declared index⟩).outcome = .ok params) :
    params.length = overload.params.length := by
  have written : env.tree.methodDecl? ⟨item, .declared index⟩ = some overload := listed
  unfold paramTypes at resolves
  rw [written] at resolves
  simp only [Traced.outcome_mapM] at resolves
  exact (forall₂_of_mapM_eq_ok resolves).length_eq.symm

theorem length_args_of_fits {overload : MethodDecl} (fits : call.fits overload = true) :
    overload.params.length = call.args.length := by
  unfold Call.fits at fits
  simp only [Bool.and_eq_true, beq_iff_eq] at fits
  exact fits.1.2

/-- An overload whose parameter types resolve is found applicable just when they
accept the arguments. -/
theorem applying?_of_resolves {item : ItemId} {view : Option Reference} {index : Nat}
    {overload : MethodDecl} {params : List Ty}
    (listed : (env.tree.decl item).methods[index]? = some overload)
    (fits : call.fits overload = true)
    (resolves : (env.paramTypes ⟨item, .declared index⟩).outcome = .ok params)
    {found : Option Applicable}
    (given : env.applying? call item view (index, overload) = .ok found) {method : Applicable} :
    found = some method ↔
      List.Forall₂ (fun arg param => env.passes arg param = .ok true) call.args
        (params.map (Ty.seenThrough view .empty)) ∧
      method = ⟨⟨item, .declared index⟩, params.map (Ty.seenThrough view .empty)⟩ := by
  have lengths : call.args.length = (params.map (Ty.seenThrough view .empty)).length := by
    rw [List.length_map, length_paramTypes listed resolves, length_args_of_fits fits]
  unfold applying? at given
  simp only [resolves] at given
  rcases Except.bind_eq_ok given with ⟨accepted, compared, same⟩
  cases same
  rw [← allPass_eq_ok_iff lengths, compared]
  cases accepted with
  | true => simp [eq_comm]
  | false => simp

/-- An overload that is found applicable is one whose parameter types resolve. -/
theorem exists_of_applying? {item : ItemId} {view : Option Reference}
    {overload : Nat × MethodDecl} {method : Applicable}
    (given : env.applying? call item view overload = .ok (some method)) :
    ∃ params, (env.paramTypes ⟨item, .declared overload.1⟩).outcome = .ok params := by
  cases resolves : (env.paramTypes ⟨item, .declared overload.1⟩).outcome with
  | ok params => exact ⟨params, rfl⟩
  | error fault =>
      unfold applying? at given
      simp only [resolves] at given
      split at given
      · cases given
      · cases given

/-- The methods that a call can mean on an item are those that apply. -/
theorem mem_applying_iff {item : ItemId} {view : Option Reference} {all : List Applicable}
    (given : env.applying call item view = .ok all) (method : Applicable) :
    method ∈ all ↔ Applies env call item view method := by
  rcases Except.bind_eq_ok given with ⟨written, tested, same⟩
  cases same
  rw [List.mem_append]
  constructor
  · rintro (isWritten | isAccessor)
    · rcases List.mem_filterMap.mp isWritten with ⟨_, member, rfl⟩
      rcases exists_of_mem_mapM tested member with ⟨⟨index, overload⟩, listed, here⟩
      rcases mem_methodsWhere_iff.mp listed with ⟨stands, fits⟩
      rcases exists_of_applying? here with ⟨params, resolves⟩
      rcases (applying?_of_resolves stands fits resolves here).mp rfl with ⟨accepts, rfl⟩
      exact .written stands fits resolves accepts
    · rcases Option.map_eq_some_iff.mp (Option.mem_toList.mp isAccessor) with ⟨accessor, named, rfl⟩
      exact .accessor named
  · intro applies
    cases applies with
    | @written index overload params listed fits resolves accepts =>
        left
        rcases exists_mem_of_mapM_eq_ok tested (mem_methodsWhere_iff.mpr ⟨listed, fits⟩) with
          ⟨found, member, here⟩
        have isFound := (applying?_of_resolves listed fits resolves here).mpr ⟨accepts, rfl⟩
        exact List.mem_filterMap.mpr ⟨found, member, isFound⟩
    | accessor named =>
        right
        rw [named]
        exact Option.mem_toList.mpr rfl

/-! ## What is known of an applicable method -/

section

variable {item : ItemId} {view : Option Reference} {method : Applicable}

theorem owner_of_implicitAccessor {accessor : Method}
    (named : env.implicitAccessor? call item = some accessor) :
    ∃ component, accessor = ⟨item, .accessor component⟩ ∧ call.args = [] ∧
      call.staticOnly = false ∧
      ∃ written, (env.tree.decl item).components[component]? = some written ∧
        written.name = call.name := by
  unfold implicitAccessor? at named
  split at named
  · next conditions =>
      simp only [Bool.and_eq_true, List.isEmpty_iff, Bool.not_eq_true'] at conditions
      unfold DeclTree.accessorNamed? at named
      dsimp only at named
      split at named
      · cases named
      · rcases Option.map_eq_some_iff.mp named with ⟨component, isFirst, rfl⟩
        rcases List.findIdx?_eq_some_iff_getElem.mp isFirst with ⟨bound, same, _⟩
        exact ⟨component, rfl, conditions.1.2, conditions.2, _,
          List.getElem?_eq_getElem bound, beq_iff_eq.mp same⟩
  · cases named

theorem Applies.owner (applies : Applies env call item view method) :
    method.method.owner = item := by
  cases applies with
  | written => rfl
  | accessor named =>
      rcases owner_of_implicitAccessor named with ⟨component, rfl, _⟩
      rfl

/-- The parameter types of an applicable method resolve; they are told as the
reference to its item shows them. -/
theorem Applies.paramTypes (applies : Applies env call item view method) :
    ∃ params, (env.paramTypes method.method).outcome = .ok params ∧
      method.params = params.map (Ty.seenThrough view .empty) := by
  cases applies with
  | written _ _ resolves _ => exact ⟨_, resolves, rfl⟩
  | accessor named =>
      rcases owner_of_implicitAccessor named with ⟨component, rfl, _⟩
      exact ⟨[], rfl, rfl⟩

/-- An applicable method accepts the arguments. -/
theorem Applies.accepts (applies : Applies env call item view method) :
    List.Forall₂ (fun arg param => env.passes arg param = .ok true) call.args method.params := by
  cases applies with
  | written _ _ _ accepts => exact accepts
  | accessor named =>
      rcases owner_of_implicitAccessor named with ⟨_, _, none, _⟩
      rw [none]
      exact .nil

end

/-! ## The method chosen -/

/-- The first of several methods that passes to all is one of them, and it does. -/
theorem passesOn_of_firstPassingOn {all methods : List Applicable} {found : Method}
    (given : env.firstPassingOn all methods = .ok (some found)) :
    ∃ method ∈ methods, method.method = found ∧ env.passesOn method all = .ok true := by
  induction methods with
  | nil => cases given
  | cons method rest ih =>
      rcases Except.bind_eq_ok given with ⟨passes, compared, onward⟩
      cases passes with
      | true =>
          cases onward
          exact ⟨method, List.mem_cons_self, rfl, compared⟩
      | false =>
          rcases ih onward with ⟨other, member, same⟩
          exact ⟨other, List.mem_cons_of_mem method member, same⟩

/-- The most specific of several methods is one of them, and it is missing only if
there are none. -/
theorem mem_of_preferred {all : List Applicable} {found : Option Method}
    (given : env.preferred all = .ok found) :
    (∀ chosen, found = some chosen → ∃ method ∈ all, method.method = chosen) ∧
      (found = none ↔ all = []) := by
  match all, given with
  | [], given =>
      cases given
      exact ⟨nofun, iff_of_true rfl rfl⟩
  | [only], given =>
      cases given
      constructor
      · rintro chosen ⟨⟩
        exact ⟨only, List.mem_cons_self, rfl⟩
      · exact iff_of_false nofun nofun
  | first :: second :: rest, given =>
      rw [preferred] at given
      · rcases Except.bind_eq_ok given with ⟨passing, tried, same⟩
        cases same
        constructor
        · rintro chosen ⟨⟩
          cases passing with
          | none => exact ⟨first, List.mem_cons_self, rfl⟩
          | some passing =>
              rcases passesOn_of_firstPassingOn tried with ⟨method, member, same, _⟩
              exact ⟨method, member, same⟩
        · exact iff_of_false nofun nofun
      · nofun

/-- The chosen method of an item applies. -/
theorem applies_of_choice {item : ItemId} {view : Option Reference} {method : Method}
    (given : env.choice call item view = .ok (some method)) :
    ∃ params, Applies env call item view ⟨method, params⟩ := by
  rcases Except.bind_eq_ok given with ⟨all, listed, chosen⟩
  rcases (mem_of_preferred chosen).1 method rfl with ⟨applicable, member, rfl⟩
  exact ⟨applicable.params, (mem_applying_iff listed applicable).mp member⟩

/-- No method is chosen on an item only if none applies. -/
theorem not_applies_of_choice {item : ItemId} {view : Option Reference}
    (given : env.choice call item view = .ok none) (method : Applicable) :
    ¬ Applies env call item view method := by
  rcases Except.bind_eq_ok given with ⟨all, listed, chosen⟩
  intro applies
  have member := (mem_applying_iff listed method).mpr applies
  rw [(mem_of_preferred chosen).2.mp rfl] at member
  cases member

end Environment

end JavaSymbols

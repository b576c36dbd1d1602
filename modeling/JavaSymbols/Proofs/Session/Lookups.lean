import JavaSymbols.Methods
import JavaSymbols.Proofs.Session.Inquiries

/-!
# Looking for methods

The search for a method forces the arguments of the supertypes that it follows
and the types that it compares.  It keeps the session sound, and it has an answer
if all that it compares can be forced.
-/

namespace JavaSymbols

open Session

namespace Environment

variable {env : Environment} {session : Session}

/-! ## Choosing among overloads -/

/-- The parameter types of a method of the tree are types of the tree. -/
theorem soft_paramTypes (wellFormed : env.tree.WellFormed) {method : Method}
    (inside : method.owner < env.tree.size) :
    Soft env (Ty.AllWithin env.tree) (env.paramTypes method) := by
  have siteInside : method.typeSite.item < env.tree.size := by
    unfold Method.typeSite
    split <;> exact inside
  unfold paramTypes
  split
  · refine (soft_mapM ?_).mono fun _ => Ty.allWithin_iff.mpr
    intro param _
    exact within_convertAt wellFormed siteInside param.type
  · exact Firm.toSoft (firm_pure trivial)

section

variable {sure : Prop} {call : Call}

/-- The parameter types of a method that a call can mean on an item, seen through
a view, can be used from now on. -/
def Readable (env : Environment) (sure : Prop) (session : Session) (item : ItemId)
    (view : Option Reference) (overload : Nat × MethodDecl) : Prop :=
  ∀ after, session.Defers after → after.Sound env → ∀ params,
    (env.paramTypes ⟨item, .declared overload.1⟩).outcome = .ok params →
      env.AllUsable sure after (params.map (Ty.seenThrough view after.cells))

theorem Readable.mono {old new : Session} {item : ItemId} {view : Option Reference}
    {overload : Nat × MethodDecl} (readable : env.Readable sure old item view overload)
    (later : old.Defers new) : env.Readable sure new item view overload :=
  fun after onward => readable after (later.trans onward)

/-- A method whose parameter types do not resolve is passed over. -/
theorem runs_applicable? (constructed : env.Constructed) (inTree : sure → env.InTree)
    (sound : session.Sound env) (args : env.AllUsable sure session call.args) {item : Nat}
    (inside : item < env.tree.size) {view : Option Reference} {overload : Nat × MethodDecl}
    (readable : env.Readable sure session item view overload) :
    Query.Runs (Sound env) Defers session (env.applicable? call item view overload)
      (Query.Answered sure fun after found =>
        ∀ method, found = some method → env.AllUsable sure after method.params) := by
  have soft : Soft env (Ty.AllWithin env.tree) (env.paramTypes ⟨item, .declared overload.1⟩) :=
    soft_paramTypes constructed.wellFormed inside
  unfold applicable?
  refine Query.Runs.recover (.overloadSkipped overload.2.name) (pure none) (fun _ => rfl)
    (Query.runs_lift sound (env.paramTypes ⟨item, .declared overload.1⟩)) ?_ ?_ ?_
  · rintro after params soundAfter later ⟨_, same⟩
    refine Query.Runs.bind_cells ?_
    have usable := readable after later soundAfter params same.symm
    refine (runs_allAssignable constructed inTree call.args _ soundAfter (args.mono later.cells)
      usable).bind_judged ?_
    intro last accepted soundLast onward _
    refine Query.runs_pure soundLast (Query.judged_ok ?_)
    intro method isFound
    cases accepted with
    | true =>
        cases isFound
        exact usable.mono onward.cells
    | false => cases isFound
  · rintro after fault hard ⟨_, failed⟩
    refine ⟨fun _ _ isSure => ?_, nofun⟩
    rw [soft.soft (inTree isSure) fault failed.symm] at hard
    cases hard
  · intro after fault events soundAfter _ _ _
    exact Query.runs_pure (soundAfter.congr rfl rfl) (Query.judged_ok nofun)

/-- Applicable methods whose parameter types can be used. -/
def ApplicableAll (env : Environment) (sure : Prop) (session : Session)
    (methods : List Applicable) : Prop :=
  ∀ method ∈ methods, env.AllUsable sure session method.params

theorem ApplicableAll.mono {old new : Session} {methods : List Applicable}
    (usable : env.ApplicableAll sure old methods) (later : old.cells.Extends new.cells) :
    env.ApplicableAll sure new methods :=
  fun method member => (usable method member).mono later

theorem runs_applicables (constructed : env.Constructed) (inTree : sure → env.InTree)
    (sound : session.Sound env) (args : env.AllUsable sure session call.args) {item : Nat}
    (inside : item < env.tree.size) {view : Option Reference}
    (readable : ∀ overload ∈ (env.tree.decl item).methodsWhere call.fits,
      env.Readable sure session item view overload) :
    Query.Runs (Sound env) Defers session (env.applicables call item view)
      (Query.Answered sure (env.ApplicableAll sure)) := by
  unfold applicables
  have written : Query.Runs (Sound env) Defers session
      (((env.tree.decl item).methodsWhere call.fits).mapM (env.applicable? call item view))
      (Query.Answered sure fun after found => ∀ one ∈ found,
        ∀ method, one = some method → env.AllUsable sure after method.params) := by
    refine Query.runs_mapM_judged sound ?_ ?_
    · intro old new one later usable method same
      exact (usable method same).mono later.cells
    · intro overload listed after soundAfter later
      exact runs_applicable? constructed inTree soundAfter (args.mono later.cells) inside
        ((readable overload listed).mono later)
  refine written.bind_judged ?_
  intro after found soundAfter _ usable
  refine Query.runs_pure soundAfter (Query.judged_ok ?_)
  intro method member
  rcases List.mem_append.mp member with isWritten | isAccessor
  · obtain ⟨one, listed, isMethod⟩ := List.mem_filterMap.mp isWritten
    exact usable one listed method isMethod
  · obtain ⟨accessor, _, rfl⟩ := Option.map_eq_some_iff.mp (Option.mem_toList.mp isAccessor)
    exact fun type isParam => absurd isParam List.not_mem_nil

theorem runs_passesToAll (constructed : env.Constructed) (inTree : sure → env.InTree)
    {method : Applicable} (others : List Applicable) :
    ∀ {session : Session}, session.Sound env → env.AllUsable sure session method.params →
      env.ApplicableAll sure session others →
      Query.Runs (Sound env) Defers session (env.passesToAll method others)
        (Query.Answered sure fun _ _ => True) := by
  induction others with
  | nil =>
      intro session sound _ _
      exact Query.runs_pure sound (Query.judged_ok trivial)
  | cons other rest ih =>
      intro session sound own usable
      obtain ⟨otherUsable, restUsable⟩ := List.forall_mem_cons.mp usable
      rw [passesToAll]
      refine (runs_allAssignable constructed inTree method.params other.params sound own
        otherUsable).bind_judged ?_
      intro after passes soundAfter later _
      cases passes with
      | true =>
          exact ih soundAfter (own.mono later.cells) (ApplicableAll.mono restUsable later.cells)
      | false => exact Query.runs_pure soundAfter (Query.judged_ok trivial)

theorem runs_firstPassingToAll (constructed : env.Constructed) (inTree : sure → env.InTree)
    {all : List Applicable} (methods : List Applicable) :
    ∀ {session : Session}, session.Sound env → env.ApplicableAll sure session all →
      env.ApplicableAll sure session methods →
      Query.Runs (Sound env) Defers session (env.firstPassingToAll all methods)
        (Query.Answered sure fun _ _ => True) := by
  induction methods with
  | nil =>
      intro session sound _ _
      exact Query.runs_pure sound (Query.judged_ok trivial)
  | cons method rest ih =>
      intro session sound allUsable usable
      obtain ⟨own, restUsable⟩ := List.forall_mem_cons.mp usable
      rw [firstPassingToAll]
      refine (runs_passesToAll constructed inTree all sound own allUsable).bind_judged ?_
      intro after passes soundAfter later _
      cases passes with
      | true => exact Query.runs_pure soundAfter (Query.judged_ok trivial)
      | false =>
          exact ih soundAfter (allUsable.mono later.cells)
            (ApplicableAll.mono restUsable later.cells)

theorem runs_mostSpecific (constructed : env.Constructed) (inTree : sure → env.InTree)
    (sound : session.Sound env) {all : List Applicable}
    (usable : env.ApplicableAll sure session all) :
    Query.Runs (Sound env) Defers session (env.mostSpecific all)
      (Query.Answered sure fun _ _ => True) := by
  unfold mostSpecific
  split
  · exact Query.runs_pure sound (Query.judged_ok trivial)
  · exact Query.runs_pure sound (Query.judged_ok trivial)
  · refine (runs_firstPassingToAll constructed inTree _ sound usable usable).bind_judged ?_
    intro after _ soundAfter _ _
    exact Query.runs_pure soundAfter (Query.judged_ok trivial)

/-! ## Searching for a method -/

/-- Looking at an item on the way up. -/
theorem runs_visitMethods (constructed : env.Constructed) (inTree : sure → env.InTree)
    (sound : session.Sound env) (args : env.AllUsable sure session call.args)
    {ascent : MethodAscent} (inside : ascent.item < env.tree.size)
    (readable : ∀ overload ∈ (env.tree.decl ascent.item).methodsWhere call.fits,
      env.Readable sure session ascent.item ascent.view overload) :
    Query.Runs (Sound env) Follows session ((env.methodSearch call).visit ascent)
      (Query.Answered sure fun _ _ => True) := by
  have listed := runs_applicables constructed inTree sound args inside readable
  refine listed.follows_of_defers.bind_judged ?_
  intro after all soundAfter _ usable
  refine (runs_mostSpecific constructed inTree soundAfter
    usable).follows_of_defers.bind_judged ?_
  intro last _ soundLast _ _
  exact Query.runs_pure soundLast (Query.judged_ok trivial)

variable {node : Session → MethodAscent → Prop}
variable {edge : Session → MethodAscent → Reference → Prop}

theorem runs_findMethod_of_steps
    (steps : Search.Steps (Query.NoneIf sure) (env.methodSearch call) (Sound env) Follows node edge
      fun _ _ => True)
    (sound : session.Sound env) {item : ItemId} (start : node session ⟨item, none⟩) :
    Query.Runs (Sound env) Follows session (env.findMethod call item)
      (Query.Answered sure fun _ _ => True) := by
  unfold findMethod
  refine (Search.runs_run steps env.searchDepth sound start).bind_judged ?_
  intro after _ soundAfter _ _
  exact Query.runs_pure soundAfter (Query.judged_ok trivial)

/-- A search for a method goes as told from an item, now and later. -/
def FindsFrom (env : Environment) (sure : Prop) (call : Call) (session : Session)
    (item : ItemId) : Prop :=
  ∀ after, after.Sound env → session.Follows after →
    Query.Runs (Sound env) Follows after (env.findMethod call item)
      (Query.Answered sure fun _ _ => True)

theorem FindsFrom.mono {old new : Session} {item : ItemId}
    (finds : env.FindsFrom sure call old item) (later : old.Follows new) :
    env.FindsFrom sure call new item :=
  fun after sound onward => finds after sound (later.trans onward)

theorem runs_methodOutward (items : List ItemId) :
    ∀ {session : Session}, session.Sound env →
      (∀ item ∈ items, env.FindsFrom sure call session item) →
      Query.Runs (Sound env) Follows session (env.methodOutward call items)
        (Query.Answered sure fun _ _ => True) := by
  induction items with
  | nil =>
      intro session sound _
      exact Query.runs_pure sound (Query.judged_ok trivial)
  | cons item outer ih =>
      intro session sound finds
      rw [methodOutward]
      have here := finds item List.mem_cons_self session sound (.refl session)
      refine here.bind_judged ?_
      intro after found soundAfter later _
      cases found with
      | some found => exact Query.runs_pure soundAfter (Query.judged_ok trivial)
      | none =>
          have reported : Query.Runs (Sound env) Follows after
              (Query.report (.methodLookupDelegated call.name))
              (Query.Answered sure fun _ _ => True) :=
            (Query.runs_report soundAfter _ fun _ =>
              Query.judged_ok trivial).follows_of_defers
          refine reported.bind_judged ?_
          intro last _ soundLast onward _
          exact ih soundLast fun other member =>
            (finds other (List.mem_cons_of_mem item member)).mono (later.trans onward)

theorem runs_lookupMethod_of_finds (sound : session.Sound env) (scope : Scope)
    (inside : sure → ∀ item, scope = .body item → item < env.tree.size)
    (finds : ∀ item, scope = .body item → item < env.tree.size →
      ∀ link ∈ env.tree.chain item, env.FindsFrom sure call session link) :
    Query.Runs (Sound env) Follows session (env.lookupMethod scope call)
      (Query.Answered sure fun _ _ => True) := by
  cases scope with
  | unit id => exact Query.runs_pure sound (Query.judged_ok trivial)
  | body item =>
      refine (Query.runs_lift sound (env.known item)).follows_of_defers.bind ?_ ?_
      · rintro after cause _ ⟨_, failed⟩
        refine ⟨fun _ _ isSure => ?_, nofun⟩
        rw [outcome_known (inside isSure item rfl)] at failed
        cases failed
      · rintro after _ soundAfter later ⟨_, checked⟩
        exact runs_methodOutward _ soundAfter fun link member =>
          (finds item rfl (lt_of_known checked.symm) link member).mono later

end

/-- The nodes that the search for a method deals with, for a call whose arguments
fit. -/
structure MethodKnown (env : Environment) (call : Call) (session : Session)
    (ascent : MethodAscent) : Prop where
  inside : ascent.item < env.tree.size
  viewFits : ∀ reference, ascent.view = some reference → reference.Fits session.cells
  argsFit : Ty.AllFit session.cells call.args

theorem MethodKnown.mono {call : Call} {old new : Session} {ascent : MethodAscent}
    (known : MethodKnown env call old ascent) (later : old.cells.Extends new.cells) :
    MethodKnown env call new ascent where
  inside := known.inside
  viewFits reference same := (known.viewFits reference same).mono later
  argsFit := Ty.AllFit.mono later _ known.argsFit

theorem MethodKnown.readable {call : Call} (constructed : env.Constructed) {ascent : MethodAscent}
    (known : MethodKnown env call session ascent) (overload : Nat × MethodDecl) :
    env.Readable False session ascent.item ascent.view overload := by
  intro after later sound params given
  have wellFormed := constructed.wellFormed
  apply allUsable_of_allFit
  apply Ty.allFit_iff.mpr
  intro type member
  obtain ⟨param, listed, rfl⟩ := List.mem_map.mp member
  have within := (soft_paramTypes wellFormed known.inside).good params given
  have eager := (Ty.allWithin_iff.mp within param listed).isEager
  exact sound.cells.fits_seenThrough wellFormed
    (fun reference same => (known.viewFits reference same).mono later.cells)
    (Ty.fits_of_isEager after.cells param eager)

theorem steps_methodSearch (constructed : env.Constructed) (call : Call) :
    Search.Steps (Query.NoneIf False) (env.methodSearch call) (Sound env) Follows
      (MethodKnown env call)
      (fun session _ ancestor => ancestor.Fits session.cells ∧
        Ty.AllFit session.cells call.args) (fun _ _ => True) where
  visit session start sound known := by
    have visited := runs_visitMethods constructed False.elim sound
      (allUsable_of_allFit known.argsFit) known.inside
      fun overload _ => known.readable constructed overload
    exact visited.mono fun _ _ _ _ answered => ⟨answered.fault, fun _ _ _ _ => trivial⟩
  edges session start sound known := by
    have inside : (Decl.item start.item).site < env.tree.size := known.inside
    refine Query.Runs.unsure ((runs_ancestorsOf sound inside true).mono ?_)
    intro after outcome _ later fitting references same reference member
    exact ⟨fitting references same reference member,
      Ty.AllFit.mono later.cells _ known.argsFit⟩
  enter session start ancestor sound known fits := by
    have stepped := runs_enterable (runs_forceEdge_fits constructed.wellFormed sound fits.1)
    refine (runs_enter constructed.wellFormed
      (fun edge => MethodAscent.mk edge.item (some edge))
      (fun after ascent => ascent.item < env.tree.size ∧
        ∀ reference, ascent.view = some reference → reference.Fits after.cells)
      stepped known.viewFits ?_).mono ?_
    · intro after edge inside edgeFits
      refine ⟨inside, ?_⟩
      intro reference same
      cases same
      exact edgeFits
    · intro after outcome _ later entered
      refine ⟨entered.fault, ?_⟩
      intro next same ascent isNext
      obtain ⟨inside, viewFits⟩ := entered.value next same ascent isNext
      exact ⟨inside, viewFits, Ty.AllFit.mono later.cells _ known.argsFit⟩
  nodeLasts old new start later known := known.mono later.cells
  edgeLasts old new start ancestor later fits :=
    ⟨fits.1.mono later.cells, Ty.AllFit.mono later.cells _ fits.2⟩

theorem runs_findMethod (constructed : env.Constructed) (sound : session.Sound env) {call : Call}
    (argsFit : Ty.AllFit session.cells call.args) {item : Nat} (inside : item < env.tree.size) :
    Query.Runs (Sound env) Follows session (env.findMethod call item)
      (Query.Answered False fun _ _ => True) :=
  runs_findMethod_of_steps (steps_methodSearch constructed call) sound ⟨inside, nofun, argsFit⟩

theorem runs_usageOf (sound : session.Sound env) (found : MethodMatch) :
    Query.Runs (Sound env) Defers session (env.usageOf found) Query.Anything := by
  unfold usageOf
  refine (Query.Runs.anything (Query.runs_lift sound (env.paramTypes found.method))).bind_value ?_
  intro after params soundAfter _ _
  refine Query.Runs.bind_cells ?_
  refine (Query.Runs.anything
    (Query.runs_lift soundAfter (env.returnType found.method))).bind_value ?_
  intro last returns soundLast _ _
  exact Query.runs_pure soundLast (Query.anything _ _)

theorem runs_usageOutward (constructed : env.Constructed) {call : Call} (items : List ItemId) :
    ∀ {session : Session}, session.Sound env → Ty.AllFit session.cells call.args →
      (∀ item ∈ items, item < env.tree.size) →
      Query.Runs (Sound env) Follows session (env.usageOutward call items) Query.Anything := by
  induction items with
  | nil =>
      intro session sound _ _
      exact Query.runs_pure sound (Query.anything _ _)
  | cons item outer ih =>
      intro session sound argsFit inside
      rw [usageOutward]
      have here := runs_findMethod constructed sound argsFit (inside item List.mem_cons_self)
      refine (here.mono fun _ _ _ _ answered => answered.value).bind_value ?_
      intro after found soundAfter later _
      cases found with
      | some found =>
          refine (runs_usageOf soundAfter found).follows_of_defers.bind_value ?_
          intro last _ soundLast _ _
          exact Query.runs_pure soundLast (Query.anything _ _)
      | none =>
          exact ih soundAfter (Ty.AllFit.mono later.cells _ argsFit)
            fun other member => inside other (List.mem_cons_of_mem item member)

theorem runs_lookupMethod (constructed : env.Constructed) (sound : session.Sound env)
    (scope : Scope) {call : Call} (argsFit : Ty.AllFit session.cells call.args) :
    Query.Runs (Sound env) Follows session (env.lookupMethod scope call) Query.Anything := by
  have looked := runs_lookupMethod_of_finds sound scope False.elim
    fun item _ inside link member after soundAfter later =>
      runs_findMethod constructed soundAfter (Ty.AllFit.mono later.cells _ argsFit)
        (constructed.wellFormed.chain_lt inside member)
  exact looked.mono fun _ _ _ _ answered => answered.value

theorem runs_lookupUsage (constructed : env.Constructed) (sound : session.Sound env)
    (scope : Scope) (name : String) {args : List Ty}
    (argsFit : Ty.AllFit session.cells args) :
    Query.Runs (Sound env) Follows session (env.lookupUsage scope name args) Query.Anything := by
  cases scope with
  | unit id => exact Query.runs_pure sound (Query.anything _ _)
  | body item =>
      refine runs_known_then sound item ?_
      intro after soundAfter later inside
      exact runs_usageOutward constructed _ soundAfter (Ty.AllFit.mono later.cells _ argsFit)
        fun link member => constructed.wellFormed.chain_lt inside member

end Environment

end JavaSymbols

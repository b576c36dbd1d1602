import JavaSymbols.Proofs.Ancestors.Flaws
import JavaSymbols.Proofs.Fields.Chains
import JavaSymbols.Proofs.Session.Questions

/-!
# Looking for a method has an answer

A name that does not resolve is passed over in most places: a supertype that does
not resolve is left out, a method with such a parameter type is not applicable,
and a supertype clause with such an argument is followed as it stands.  In the
last case the argument goes on to the parameter types above, and comparing those
fails.  Where no parameter type mentions a type parameter that is left open in
this way, the search for a method always has an answer.
-/

namespace JavaSymbols.Environment

open Session Relation

variable {env : Environment} {session : Session} {start : ItemId}

/-! ## Type parameters left open -/

/-- A supertype of an item gives a type parameter of the item above an argument. -/
def Gives (env : Environment) (lower upper : ItemId) (position : Nat) (arg : SupertypeArg) : Prop :=
  ∃ found, (env.supertypesOf lower true).outcome = .ok found ∧
    ∃ supertype ∈ found, supertype.item = upper ∧ supertype.args[position]? = some arg

/-- On the way up from an item, a type parameter is given an argument that does
not resolve, or one that mentions a type parameter left open below. -/
inductive LeftOpen (env : Environment) (start : ItemId) : ItemId → Nat → Prop where
  | unresolved {lower upper : ItemId} {position : Nat} {arg : SupertypeArg} {fault : Fault}
      (below : ReflTransGen env.Inherits start lower) (gives : env.Gives lower upper position arg)
      (failed : env.convertArg lower arg = .error fault) : LeftOpen env start upper position
  | passedOn {lower upper : ItemId} {position : Nat} {arg : SupertypeArg} {type : Ty}
      {var : TypeVar} (gives : env.Gives lower upper position arg)
      (converts : env.convertArg lower arg = .ok type) (mentioned : var ∈ type.vars)
      (own : var.owner = .type lower) (isOpen : LeftOpen env start lower var.index) :
      LeftOpen env start upper position

/-- No method that a call can mean on the way up from an item has a parameter type
that mentions a type parameter left open. -/
def Determined (env : Environment) (call : Call) (start : ItemId) : Prop :=
  ∀ item, ReflTransGen env.Inherits start item →
    ∀ overload ∈ (env.tree.decl item).methodsWhere call.fits, ∀ params,
      (env.paramTypes ⟨item, .declared overload.1⟩).outcome = .ok params →
        ∀ param ∈ params, ∀ var ∈ param.vars, var.owner = .type item →
          ¬ env.LeftOpen start item var.index

/-- What is given for a type parameter that is not left open resolves, and it
mentions no type parameter left open below. -/
theorem exists_of_not_leftOpen {lower upper : ItemId} {position : Nat} {arg : SupertypeArg}
    (below : ReflTransGen env.Inherits start lower) (gives : env.Gives lower upper position arg)
    (filled : ¬ env.LeftOpen start upper position) :
    ∃ type, env.convertArg lower arg = .ok type ∧
      ∀ var ∈ type.vars, var.owner = .type lower → ¬ env.LeftOpen start lower var.index := by
  cases converts : env.convertArg lower arg with
  | error fault => exact absurd (.unresolved below gives converts) filled
  | ok type =>
      refine ⟨type, rfl, ?_⟩
      intro var mentioned own isOpen
      exact filled (.passedOn gives converts mentioned own isOpen)

/-- Where the type arguments of all supertype clauses on the way up resolve,
nothing is left open. -/
theorem not_leftOpen_of_converting
    (converting : ∀ item, ReflTransGen env.Inherits start item → ¬ env.Keeps (.item item))
    {item : ItemId} {position : Nat} : ¬ env.LeftOpen start item position := by
  intro isOpen
  induction isOpen with
  | passedOn gives converts mentioned own isOpen ih => exact ih
  | @unresolved lower upper position arg fault below gives failed =>
      obtain ⟨found, given, supertype, member, _, listed⟩ := gives
      refine converting lower below ⟨found, given, supertype, member, ?_⟩
      cases converts : env.convertArgs lower supertype with
      | error cause => exact ⟨cause, rfl⟩
      | ok values =>
          obtain ⟨value, same⟩ := exists_of_mapM_eq_ok converts (List.mem_of_getElem? listed)
          rw [failed] at same
          cases same

theorem determined_of_converting (call : Call)
    (converting : ∀ item, ReflTransGen env.Inherits start item → ¬ env.Keeps (.item item)) :
    env.Determined call start :=
  fun _ _ _ _ _ _ _ _ _ _ _ => not_leftOpen_of_converting converting

/-- A call is determined if the methods that it can mean mention no type parameters
of their items. -/
theorem determined_of_unmentioned (constructed : env.Constructed) {start : Nat}
    (inside : start < env.tree.size) {call : Call}
    (unmentioned : ∀ item < env.tree.size,
      ∀ overload ∈ (env.tree.decl item).methodsWhere call.fits,
        ∀ params ∈ (env.paramTypes ⟨item, .declared overload.1⟩).outcome.toOption,
          ∀ param ∈ params, ∀ var ∈ param.vars, var.owner ≠ .type item) :
    env.Determined call start := by
  intro item reaches overload listed params given param isParam var mentioned own _
  have isValue : params ∈ (env.paramTypes ⟨item, .declared overload.1⟩).outcome.toOption := by
    rw [given]
    rfl
  exact unmentioned item (lt_of_leads constructed inside reaches) overload listed params isValue
    param isParam var mentioned own

/-- A converted argument of a supertype is a type of the tree. -/
theorem within_convertArg (wellFormed : env.tree.WellFormed) {id : Nat}
    (inside : id < env.tree.size) {arg : SupertypeArg} {type : Ty}
    (converts : env.convertArg id arg = .ok type) : type.Within env.tree := by
  have siteInside : (TypeSite.mk id none).item < env.tree.size := inside
  cases arg with
  | written source => exact (within_convertAt wellFormed siteInside source).good type converts
  | self =>
      cases converts
      exact ⟨inside, trivial⟩

/-! ## On the way up -/

/-- A place on the way up from an item.  The arguments it was reached with can be
forced, except for type parameters left open. -/
structure Climbing (env : Environment) (start : ItemId) (session : Session)
    (ascent : MethodAscent) : Prop where
  below : ReflTransGen env.Inherits start ascent.item
  inside : ascent.item < env.tree.size
  fits : ∀ view, ascent.view = some view → view.Fits session.cells
  owner : ∀ view, ascent.view = some view → view.item = ascent.item
  filled : ∀ view, ascent.view = some view → ∀ position arg, view.args[position]? = some arg →
    ¬ env.LeftOpen start ascent.item position → env.Forcible arg

namespace Climbing

variable {ascent : MethodAscent} {type : Ty}

theorem mono {old new : Session} (climbing : env.Climbing start old ascent)
    (later : old.cells.Extends new.cells) : env.Climbing start new ascent :=
  { climbing with fits := fun view isView => (climbing.fits view isView).mono later }

/-- A type that mentions no type parameter left open can be forced as the view
shows it. -/
theorem forcible_instantiate (climbing : env.Climbing start session ascent)
    (within : type.Within env.tree)
    (filled : ∀ var ∈ type.vars, var.owner = .type ascent.item →
      ¬ env.LeftOpen start ascent.item var.index)
    {view : Reference} (isView : ascent.view = some view) :
    env.Forcible (view.instantiate type) := by
  refine forcible_substitute ?_ type within
    (Ty.varsIn_iff type |>.mpr fun var mentioned => mentioned)
  intro var mentioned arg bound
  unfold Reference.binding at bound
  split at bound
  · next own =>
      rw [climbing.owner view isView] at own
      exact climbing.filled view isView var.index arg bound (filled var mentioned own)
  · cases bound

theorem forcible_seenThrough (climbing : env.Climbing start session ascent)
    (within : type.Within env.tree)
    (filled : ∀ var ∈ type.vars, var.owner = .type ascent.item →
      ¬ env.LeftOpen start ascent.item var.index) (cells : Cells) :
    env.Forcible (type.seenThrough ascent.view cells) := by
  cases isView : ascent.view with
  | none => exact forcible_of_within within
  | some view =>
      rw [Ty.seenThrough, Reference.apply_eq_instantiate cells within.isEager]
      exact climbing.forcible_instantiate within filled isView

/-- An argument as it stands can be forced as the view shows it if what it
converts to can: it is deferred still, or its cell is looked through. -/
theorem forcible_argInstance (climbing : env.Climbing start session ascent) {cells : Cells}
    (sound : cells.Sound env) {arg : SupertypeArg} {instanced : Ty}
    (isInstance : ArgInstance env cells ascent.item arg instanced)
    (converts : env.convertArg ascent.item arg = .ok type) (within : type.Within env.tree)
    (filled : ∀ var ∈ type.vars, var.owner = .type ascent.item →
      ¬ env.LeftOpen start ascent.item var.index) :
    env.Forcible (instanced.seenThrough ascent.view cells) := by
  cases isInstance with
  | self =>
      cases converts
      exact climbing.forcible_seenThrough within filled cells
  | @written source cell held =>
      have deferred : env.Forcible (.deferred cell source ascent.item) := ⟨type, converts, within⟩
      cases isView : ascent.view with
      | none => exact deferred
      | some view =>
          rw [Ty.seenThrough, Reference.apply]
          by_cases raw : view.isRaw
          · rw [if_pos raw]
            exact deferred
          · rw [if_neg raw, Ty.settle]
            cases set : cells.get? cell with
            | none => exact deferred
            | some value =>
                have same := (sound.converts held set).symm.trans converts
                cases same
                exact climbing.forcible_instantiate within filled isView

end Climbing

/-- An argument of a followed supertype is the converted one or stands as it is. -/
theorem Edge.arg {cells : Cells} {id : ItemId} {supertype : Supertype} {reference edge : Reference}
    (followed : Edge env cells id supertype reference edge)
    (isInstance : Instance env cells id supertype reference) {position : Nat} {type : Ty}
    (listed : edge.args[position]? = some type) :
    ∃ arg, supertype.args[position]? = some arg ∧
      (env.convertArg id arg = .ok type ∨ ArgInstance env cells id arg type) := by
  cases followed with
  | converted converts =>
      obtain ⟨arg, isArg, given⟩ :=
        exists_of_forall₂_getElem? (forall₂_of_mapM_eq_ok converts) listed
      exact ⟨arg, isArg, .inl given⟩
  | kept failed unresolved settled =>
      obtain ⟨arg, isArg, given⟩ := exists_of_forall₂_getElem? isInstance.args listed
      exact ⟨arg, isArg, .inr given⟩

theorem Edge.fits (wellFormed : env.tree.WellFormed) {cells : Cells} {id : Nat}
    (inside : id < env.tree.size) {supertype : Supertype} {reference edge : Reference}
    (followed : Edge env cells id supertype reference edge)
    (isInstance : Instance env cells id supertype reference) : edge.Fits cells := by
  cases followed with
  | converted converts =>
      exact Ty.allFit_of_allEager cells _ (allEager_of_convertArgs wellFormed inside converts)
  | kept failed unresolved settled => exact isInstance.fits

/-- An ancestor that leads up from a place: an instance of a supertype. -/
def LeadsFrom (env : Environment) (session : Session) (ascent : MethodAscent)
    (ancestor : Reference) : Prop :=
  ∃ found, (env.supertypesOf ascent.item true).outcome = .ok found ∧
    ∃ supertype ∈ found, Instance env session.cells ascent.item supertype ancestor

/-- The next place on the way up. -/
theorem Climbing.above (constructed : env.Constructed) {ascent : MethodAscent}
    (climbing : env.Climbing start session ascent) (sound : session.Sound env)
    {found : List Supertype} (given : (env.supertypesOf ascent.item true).outcome = .ok found)
    {supertype : Supertype} (member : supertype ∈ found) {ancestor edge : Reference}
    (isInstance : Instance env session.cells ascent.item supertype ancestor)
    (followed : Edge env session.cells ascent.item supertype ancestor edge) :
    env.Climbing start session
      ⟨supertype.item, some (edge.seenThrough ascent.view session.cells)⟩ := by
  have wellFormed := constructed.wellFormed
  constructor
  · exact climbing.below.tail ⟨found, given, supertype, member, rfl⟩
  · exact (firm_supertypesOf constructed climbing.inside).good found given supertype member
  · rintro view ⟨⟩
    exact sound.cells.fits_reference_seenThrough wellFormed climbing.fits
      (followed.fits wellFormed climbing.inside isInstance)
  · rintro view ⟨⟩
    rw [Reference.item_seenThrough]
    exact followed.item isInstance
  · rintro view ⟨⟩ position arg listed filled
    rw [Reference.args_seenThrough, List.getElem?_map] at listed
    obtain ⟨type, isType, rfl⟩ := Option.map_eq_some_iff.mp listed
    obtain ⟨written, isWritten, either⟩ := followed.arg isInstance isType
    obtain ⟨value, converts, valueFilled⟩ := exists_of_not_leftOpen climbing.below
      ⟨found, given, supertype, member, rfl, isWritten⟩ filled
    have within := within_convertArg wellFormed climbing.inside converts
    rcases either with same | instanced
    · rw [converts] at same
      cases same
      exact climbing.forcible_seenThrough within valueFilled session.cells
    · exact climbing.forcible_argInstance sound.cells instanced converts within valueFilled

/-! ## Searching on the way up -/

/-- Parameter types can be read where they mention no type parameter left open. -/
theorem Climbing.readable (constructed : env.Constructed) {ascent : MethodAscent}
    (climbing : env.Climbing start session ascent) {call : Call}
    (determined : env.Determined call start) {overload : Nat × MethodDecl}
    (listed : overload ∈ (env.tree.decl ascent.item).methodsWhere call.fits) :
    env.Readable True session ascent.item ascent.view overload := by
  have wellFormed := constructed.wellFormed
  intro after later sound params given type member
  obtain ⟨param, isParam, rfl⟩ := List.mem_map.mp member
  have climbingAfter := climbing.mono later.cells
  have paramsWithin := (soft_paramTypes wellFormed climbing.inside).good params given
  have within := Ty.allWithin_iff.mp paramsWithin param isParam
  constructor
  · exact sound.cells.fits_seenThrough wellFormed climbingAfter.fits
      (Ty.fits_of_isEager after.cells param within.isEager)
  · intro _
    exact climbingAfter.forcible_seenThrough within
      (determined ascent.item climbing.below overload listed params given param isParam)
      after.cells

theorem Climbing.runs_edges (constructed : env.Constructed) (inTree : env.InTree)
    {ascent : MethodAscent} (climbing : env.Climbing start session ascent)
    (sound : session.Sound env) :
    Query.Runs (Sound env) Follows session (env.ancestorsOf (.item ascent.item) true)
      (Query.Answered True fun after ancestors =>
        ∀ ancestor ∈ ancestors, env.LeadsFrom after ascent ancestor) := by
  obtain ⟨found, given⟩ := (firm_supertypesOf constructed climbing.inside).total inTree
  refine (runs_itemAncestors sound climbing.inside true).mono ?_
  intro after outcome _ _ agree
  rw [given] at agree
  obtain ⟨ancestors, rfl, instances, _⟩ := agree.answers
  refine Query.judged_ok ?_
  intro ancestor member
  obtain ⟨position, isAncestor⟩ := List.mem_iff_getElem?.mp member
  obtain ⟨supertype, listed, isInstance⟩ := exists_of_forall₂_getElem? instances isAncestor
  exact ⟨found, given, supertype, List.mem_of_getElem? listed, isInstance⟩

theorem Climbing.runs_enter (constructed : env.Constructed) (inTree : env.InTree)
    {ascent : MethodAscent} (climbing : env.Climbing start session ascent)
    (sound : session.Sound env) {ancestor : Reference}
    (leads : env.LeadsFrom session ascent ancestor) (call : Call) :
    Query.Runs (Sound env) Follows session ((env.methodSearch call).enter ascent ancestor)
      (Query.Answered True fun after next =>
        ∀ entered, next = some entered → env.Climbing start after entered) := by
  obtain ⟨found, given, supertype, member, isInstance⟩ := leads
  have stepped := runs_forceEdge constructed.wellFormed sound isInstance
  rw [exists_follow constructed inTree climbing.inside] at stepped
  refine runs_entering ascent.view (fun edge => MethodAscent.mk edge.item (some edge)) stepped
    ?_ ?_ ?_
  · rintro after cause agree
    cases agree
  · intro after edge later agree
    obtain ⟨_, _, followed⟩ := agree.of_ok
    rw [followed.item (isInstance.mono later.cells)]
    exact (firm_supertypesOf constructed climbing.inside).good found given supertype member
  · rintro after edge soundAfter later agree last defers
    obtain ⟨_, _, followed⟩ := agree.of_ok
    have above := (climbing.mono later.cells).above constructed soundAfter given member
      (isInstance.mono later.cells) followed
    have item : (edge.seenThrough ascent.view after.cells).item = supertype.item :=
      above.owner _ rfl
    refine Query.judged_ok ?_
    rintro entered ⟨⟩
    rw [item]
    exact above.mono defers.cells

theorem steps_methodSearch_of_determined (constructed : env.Constructed) (inTree : env.InTree)
    {call : Call} (args : Ty.AllWithin env.tree call.args)
    (determined : env.Determined call start) :
    Search.Steps (Query.NoneIf True) (env.methodSearch call) (Sound env) Follows
      (env.Climbing start) env.LeadsFrom (fun _ _ => True) where
  visit session ascent sound climbing := by
    have visited := runs_visitMethods constructed (fun _ => inTree) sound
      (allUsable_of_within args True session) climbing.inside
      fun overload listed => climbing.readable constructed determined listed
    exact visited.mono fun _ _ _ _ answered => ⟨answered.fault, fun _ _ _ _ => trivial⟩
  edges session ascent sound climbing := climbing.runs_edges constructed inTree sound
  enter session ascent ancestor sound climbing leads :=
    climbing.runs_enter constructed inTree sound leads call
  nodeLasts old new ascent later climbing := climbing.mono later.cells
  edgeLasts old new ascent ancestor later leads := by
    obtain ⟨found, given, supertype, member, isInstance⟩ := leads
    exact ⟨found, given, supertype, member, isInstance.mono later.cells⟩

/-! ## Answers -/

/-- A method whose parameter types do not resolve is passed over, whatever it is
seen through. -/
theorem applicable?_of_fault (wellFormed : env.tree.WellFormed) (inTree : env.InTree) {item : Nat}
    (inside : item < env.tree.size) {overload : Nat × MethodDecl} {fault : Fault}
    (failed : (env.paramTypes ⟨item, .declared overload.1⟩).outcome = .error fault) (call : Call)
    (view : Option Reference) (session : Session) :
    (env.applicable? call item view overload session).1 = .ok none := by
  have soft : Soft env (Ty.AllWithin env.tree) (env.paramTypes ⟨item, .declared overload.1⟩) :=
    soft_paramTypes wellFormed inside
  have unresolved := soft.soft inTree fault failed
  have tried : ((env.paramTypes ⟨item, .declared overload.1⟩ : Query (List Ty)).attempt session).1 =
      .ok (.error fault) := congrArg Except.ok failed
  unfold applicable?
  rw [Query.bind_apply]
  generalize (env.paramTypes ⟨item, .declared overload.1⟩ : Query (List Ty)).attempt session =
    result at tried
  rcases result with ⟨outcome, after⟩
  cases tried
  change ((if fault.isUnresolved then _ else _ : Query (Option Applicable)) after).1 = _
  rw [if_pos unresolved]
  rfl

/-- In every session that questions lead to, looking for a method in a scope
answers with a method or with none, as long as what the call can mean is
determined on the way up from each enclosing item.  In any case a method is not
applicable if one of its parameter types does not resolve. -/
theorem lookupMethod_answers (constructed : env.Constructed) (inTree : env.InTree)
    (reached : session.Reached env) {call : Call} (args : Ty.AllWithin env.tree call.args) :
    (∀ scope, (∀ item, scope = .body item → item < env.tree.size ∧
        ∀ link ∈ env.tree.chain item, env.Determined call link) →
      ∃ found, (env.lookupMethod scope call session).1 = .ok found) ∧
    ∀ item < env.tree.size, ∀ view overload fault,
      (env.paramTypes ⟨item, .declared overload.1⟩).outcome = .error fault →
        (env.applicable? call item view overload session).1 = .ok none := by
  have wellFormed := constructed.wellFormed
  have sound := (collecting_of_reached constructed reached).1.sound
  constructor
  · intro scope determined
    have finds : ∀ item, scope = .body item → item < env.tree.size →
        ∀ link ∈ env.tree.chain item, env.FindsFrom True call session link := by
      intro item isScope inside link member after soundAfter _
      have steps := steps_methodSearch_of_determined constructed inTree args
        ((determined item isScope).2 link member)
      have start : env.Climbing link after ⟨link, none⟩ :=
        ⟨.refl, wellFormed.chain_lt inside member, nofun, nofun, nofun⟩
      exact runs_findMethod_of_steps steps soundAfter start
    have looked := runs_lookupMethod_of_finds sound scope
      (fun _ item isScope => (determined item isScope).1) finds
    exact looked.good.answers trivial
  · intro item inside view overload fault failed
    exact applicable?_of_fault wellFormed inTree inside failed call view session

/-- A generic class with methods of one parameter, and a class that extends it
with an argument that does not resolve. -/
def takingClasses : DeclTree :=
  .libraryWith "demo"
    [{ TypeDecl.empty .classType "Base" with
        typeParams := [⟨"T", []⟩]
        methods :=
          [⟨"take", [], [⟨"text", .ofDotted "String"⟩], .void, .publicAccess, false⟩,
            ⟨"take", [], [⟨"gone", .ofDotted "Gone"⟩], .void, .publicAccess, false⟩,
            ⟨"keep", [], [⟨"item", .ofDotted "T"⟩], .void, .publicAccess, false⟩] },
      { TypeDecl.empty .classType "Leaf" with
        extended := [.simple "Base" (some [.named (.simple "Nope" none)])] }]

theorem constructed_takingClasses : (selfContained takingClasses).Constructed :=
  constructed_libraryWith _ _

theorem within_textType : Ty.AllWithin (selfContained takingClasses).tree [textType] :=
  ⟨⟨by decide +kernel, trivial⟩, trivial⟩

/-- An overload with an unknown parameter type is passed over, and so is an
argument that goes on to no parameter type. -/
theorem lookupMethod_of_known :
    (selfContained takingClasses).Determined ⟨"take", [textType], false⟩ 11 ∧
    (∃ found, ((selfContained takingClasses).lookupMethod (.body 11) ⟨"take", [textType], false⟩
      .start).1 = .ok found) ∧
    ((selfContained takingClasses).applicable? ⟨"take", [textType], false⟩ 10 none
      (1, ⟨"take", [], [⟨"gone", .ofDotted "Gone"⟩], .void, .publicAccess, false⟩) .start).1 =
        .ok none := by
  have chain : (selfContained takingClasses).tree.chain 11 = [11] := by decide +kernel
  have determined : (selfContained takingClasses).Determined ⟨"take", [textType], false⟩ 11 :=
    determined_of_unmentioned constructed_takingClasses (by decide +kernel) (by decide +kernel)
  have args : Ty.AllWithin (selfContained takingClasses).tree
      (Call.mk "take" [textType] false).args := within_textType
  obtain ⟨answers, skipped⟩ :=
    lookupMethod_answers constructed_takingClasses (inTree_selfContained _) .start args
  refine ⟨determined, answers (.body 11) ?_, ?_⟩
  · rintro item ⟨⟩
    refine ⟨by decide +kernel, ?_⟩
    intro link member
    rw [chain] at member
    rw [List.mem_singleton.mp member]
    exact determined
  · have fails : ((selfContained takingClasses).paramTypes ⟨10, .declared 1⟩).outcome.toBool =
        false := by decide +kernel
    cases failed : ((selfContained takingClasses).paramTypes ⟨10, .declared 1⟩).outcome with
    | ok params =>
        rw [failed] at fails
        cases fails
    | error fault => exact skipped 10 (by decide +kernel) none (1, _) fault failed

/-- An argument that does not resolve is compared in place of the type parameter,
which ends the search. -/
theorem lookupMethod_of_open :
    (selfContained takingClasses).Constructed ∧ (selfContained takingClasses).InTree ∧
    Ty.AllWithin (selfContained takingClasses).tree [textType] ∧
    ((selfContained takingClasses).lookupMethod (.body 11) ⟨"keep", [textType], false⟩
      .start).1 = .error (.unresolvedSymbol "Nope") :=
  ⟨constructed_takingClasses, inTree_selfContained _, within_textType, by decide +kernel⟩

end JavaSymbols.Environment

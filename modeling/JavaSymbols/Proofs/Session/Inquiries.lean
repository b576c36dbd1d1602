import JavaSymbols.Assignment
import JavaSymbols.Proofs.Resolution.Eager
import JavaSymbols.Proofs.Search.Sessions
import JavaSymbols.Proofs.Session.Ancestors
import JavaSymbols.Proofs.Session.Forcible
import JavaSymbols.Proofs.Subtyping.Reachability

/-!
# Inquiries into ancestors and assignment

These queries force types and remember supertype lists, and collect no fields.
Each keeps the session sound, provided that the types it is given fit the cells
and that the declarations it is given are those of the tree.  Assignment has an
answer if the types can be forced.
-/

namespace JavaSymbols

open Session

namespace Environment

variable {env : Environment} {session : Session}

/-! ## Usable types -/

/-- A type whose deferred parts have cells.  If that is sure, it can be forced. -/
structure Usable (env : Environment) (sure : Prop) (session : Session) (type : Ty) : Prop where
  fits : type.Fits session.cells
  forcible : sure → env.Forcible type

/-- Types of a list that can be used. -/
def AllUsable (env : Environment) (sure : Prop) (session : Session) (types : List Ty) : Prop :=
  ∀ type ∈ types, env.Usable sure session type

theorem Usable.mono {sure : Prop} {old new : Session} {type : Ty}
    (usable : env.Usable sure old type) (later : old.cells.Extends new.cells) :
    env.Usable sure new type :=
  { usable with fits := usable.fits.mono later }

theorem AllUsable.mono {sure : Prop} {old new : Session} {types : List Ty}
    (usable : env.AllUsable sure old types) (later : old.cells.Extends new.cells) :
    env.AllUsable sure new types :=
  fun type member => (usable type member).mono later

/-- Types that fit the cells can be used where nothing is sure. -/
theorem allUsable_of_allFit {types : List Ty} (fit : Ty.AllFit session.cells types) :
    env.AllUsable False session types :=
  fun type member => ⟨Ty.allFit_iff.mp fit type member, False.elim⟩

/-- Types of the tree can be used. -/
theorem allUsable_of_within {types : List Ty} (within : Ty.AllWithin env.tree types)
    (sure : Prop) (session : Session) : env.AllUsable sure session types := by
  intro type member
  have typeWithin := Ty.allWithin_iff.mp within type member
  exact ⟨Ty.fits_of_isEager session.cells type typeWithin.isEager,
    fun _ => forcible_of_within typeWithin⟩

/-! ## Ancestors -/

/-- References that fit the cells. -/
def FittingAll (session : Session) (references : List Reference) : Prop :=
  ∀ reference ∈ references, reference.Fits session.cells

theorem runs_ancestorsOf (sound : session.Sound env) {decl : Decl}
    (inside : decl.site < env.tree.size) (lenient : Bool) :
    Query.Runs (Sound env) Follows session (env.ancestorsOf decl lenient)
      (Query.OnValue FittingAll) := by
  cases decl with
  | item id =>
      refine (runs_itemAncestors sound inside lenient).mono ?_
      intro after outcome _ _ agree references same
      rw [same] at agree
      obtain ⟨found, _, instances, _⟩ := agree.of_ok
      exact fits_of_instances instances
  | parameter param =>
      have listed := Query.runs_lift sound (env.supertypesOfParameter param lenient)
      refine listed.follows_of_defers.mono ?_
      rintro after outcome _ _ ⟨_, same⟩ references isValue reference member
      have eager := env.eager_supertypesOfParameter param lenient references
        (same.symm.trans isValue)
      exact Ty.allFit_of_allEager _ _ (eager reference member)

/-- Forcing the arguments of a reference leaves a reference without deferred
parts. -/
theorem runs_forceReference_fits (wellFormed : env.tree.WellFormed) (sound : session.Sound env)
    {reference : Reference} (fits : reference.Fits session.cells) :
    Query.Runs (Sound env) Defers session (env.forceReference reference)
      (Query.OnValue fun after edge => edge.Fits after.cells) := by
  refine (runs_forceReference wellFormed sound fits).mono ?_
  rintro after outcome _ _ ⟨same, _⟩ edge isValue
  rw [isValue] at same
  obtain ⟨values, forced, done⟩ := Except.bind_eq_ok same.symm
  cases done
  exact Ty.allFit_of_allEager _ _
    (allEager_of_forcedAll wellFormed sound.cells reference.args fits values forced)

/-- A lenient step passes over missing names, and changes no more than arguments. -/
theorem runs_forceEdge_judged (wellFormed : env.tree.WellFormed) (sound : session.Sound env)
    {allowed : Fault → Prop} {reference : Reference} (fits : reference.Fits session.cells)
    (warranted : ∀ fault, env.forcedAll reference.args = .error fault →
      fault.isUnresolved = true ∨ allowed fault) :
    Query.Runs (Sound env) Defers session (env.forceEdge reference)
      (Query.Judged allowed fun after edge => edge.item = reference.item ∧
        edge.name = reference.name ∧ edge.Fits after.cells) := by
  refine Query.Runs.recover (.argumentsKept reference.name) (pure reference) (fun _ => rfl)
    (runs_forceReference wellFormed sound fits) ?_ ?_ ?_
  · rintro after edge soundAfter _ ⟨given, _⟩
    obtain ⟨args, forcing, same⟩ := Except.bind_eq_ok given.symm
    cases same
    have eager := allEager_of_forcedAll wellFormed sound.cells reference.args fits args forcing
    exact Query.runs_pure soundAfter
      (Query.judged_ok ⟨rfl, rfl, Ty.allFit_of_allEager _ _ eager⟩)
  · rintro after fault hard ⟨failed, _⟩
    refine ⟨?_, nofun⟩
    rintro cause ⟨⟩
    apply (warranted fault (Except.bind_pure_eq_error failed.symm)).resolve_left
    simp [hard]
  · rintro after fault events soundAfter later _ _
    exact Query.runs_pure (soundAfter.congr rfl rfl)
      (Query.judged_ok ⟨rfl, rfl, fits.mono later.cells⟩)

theorem runs_forceEdge_fits (wellFormed : env.tree.WellFormed) (sound : session.Sound env)
    {reference : Reference} (fits : reference.Fits session.cells) :
    Query.Runs (Sound env) Defers session (env.forceEdge reference)
      (Query.OnValue fun after edge => edge.Fits after.cells) := by
  have anyFault : ∀ fault, env.forcedAll reference.args = .error fault →
      fault.isUnresolved = true ∨ True := fun _ _ => .inr trivial
  have stepped := runs_forceEdge_judged wellFormed sound fits anyFault
  exact stepped.mono fun _ _ _ _ judged edge same => (judged.value edge same).2.2

/-- A reference that a search can go on to: its deferred parts have cells, and it
refers to an item of the tree unless the fault of any other is allowed. -/
def Enterable (env : Environment) (allowed : Fault → Prop) (session : Session)
    (edge : Reference) : Prop :=
  edge.Fits session.cells ∧ (allowed (.outsideTree edge.item) ∨ edge.item < env.tree.size)

/-- Where all faults are allowed, a search can go on to any reference whose deferred
parts have cells. -/
theorem runs_enterable {step : Query Reference}
    (stepped : Query.Runs (Sound env) Defers session step
      (Query.OnValue fun after edge => edge.Fits after.cells)) :
    Query.Runs (Sound env) Defers session step
      (Query.Answered False (env.Enterable (Query.NoneIf False))) :=
  stepped.unsure.mono fun _ _ _ _ judged =>
    ⟨judged.fault, fun edge same => ⟨judged.value edge same, .inl not_false⟩⟩

/-- The step of a search that follows a reference, with the arguments along the
way carried through.  What holds of a reference whatever its arguments are is kept. -/
theorem runs_enter_kept (wellFormed : env.tree.WellFormed) {Node : Type} {step : Query Reference}
    {allowed : Fault → Prop} {view : Option Reference} {kept : Reference → Prop}
    (enter : Reference → Node) (met : Session → Node → Prop)
    (stepped : Query.Runs (Sound env) Defers session step
      (Query.Judged allowed fun after edge => env.Enterable allowed after edge ∧ kept edge))
    (keeps : ∀ edge view cells, kept edge → kept (edge.seenThrough view cells))
    (viewFits : ∀ reference, view = some reference → reference.Fits session.cells)
    (enters : ∀ after (edge : Reference), edge.item < env.tree.size → edge.Fits after.cells →
      kept edge → met after (enter edge)) :
    Query.Runs (Sound env) Follows session (do
        let edge ← step
        let edge := edge.seenThrough view (← Query.cells)
        env.known edge.item
        pure (some (enter edge)))
      (Query.Judged allowed fun after next =>
        ∀ entered, next = some entered → met after entered) := by
  refine stepped.follows_of_defers.bind_judged ?_
  rintro after edge soundAfter later ⟨⟨edgeFits, placed⟩, isKept⟩
  refine Query.Runs.bind_cells ?_
  have seenFits := soundAfter.cells.fits_reference_seenThrough wellFormed
    (fun reference same => (viewFits reference same).mono later.cells) edgeFits
  refine (Query.runs_lift soundAfter (env.known _)).follows_of_defers.bind ?_ ?_
  · rintro last cause _ ⟨_, failed⟩
    refine ⟨?_, nofun⟩
    rintro fault ⟨⟩
    rw [Reference.item_seenThrough] at failed
    obtain ⟨rfl, outside⟩ := outside_of_known failed.symm
    exact placed.resolve_right outside
  · rintro last _ soundLast _ ⟨defers, checked⟩
    refine Query.runs_pure soundLast (Query.judged_ok ?_)
    rintro entered ⟨⟩
    exact enters last _ (lt_of_known checked.symm) (seenFits.mono defers.cells)
      (keeps edge view after.cells isKept)

/-- The step of a search that follows a reference, with the arguments along the
way carried through. -/
theorem runs_enter (wellFormed : env.tree.WellFormed) {Node : Type} {step : Query Reference}
    {allowed : Fault → Prop} {view : Option Reference} (enter : Reference → Node)
    (met : Session → Node → Prop)
    (stepped : Query.Runs (Sound env) Defers session step
      (Query.Judged allowed (env.Enterable allowed)))
    (viewFits : ∀ reference, view = some reference → reference.Fits session.cells)
    (enters : ∀ after (edge : Reference), edge.item < env.tree.size → edge.Fits after.cells →
      met after (enter edge)) :
    Query.Runs (Sound env) Follows session (do
        let edge ← step
        let edge := edge.seenThrough view (← Query.cells)
        env.known edge.item
        pure (some (enter edge)))
      (Query.Judged allowed fun after next =>
        ∀ entered, next = some entered → met after entered) := by
  have nothingKept : Query.Runs (Sound env) Defers session step
      (Query.Judged allowed fun after edge => env.Enterable allowed after edge ∧ True) :=
    stepped.mono fun _ _ _ _ judged =>
      ⟨judged.fault, fun edge same => ⟨judged.value edge same, trivial⟩⟩
  exact runs_enter_kept wellFormed enter met nothingKept (fun _ _ _ => id) viewFits
    fun after edge inside fits _ => enters after edge inside fits

/-- The nodes that the search for all ancestors deals with. -/
def AscentKnown (env : Environment) (session : Session) (ascent : Ascent) : Prop :=
  ascent.decl.site < env.tree.size ∧
    ∀ reference, ascent.view = some reference → reference.Fits session.cells

theorem steps_ancestorSearch (constructed : env.Constructed) (lenient : Bool) :
    Search.Steps (Query.NoneIf False) (env.ancestorSearch lenient) (Sound env) Follows
      (AscentKnown env) (fun session _ ancestor => ancestor.Fits session.cells)
      (fun _ _ => True) where
  visit session start sound _ := Query.runs_pure sound (Query.judged_ok fun _ _ => trivial)
  edges session start sound known := (runs_ancestorsOf sound known.1 lenient).unsure
  enter session start ancestor sound known fits := by
    have wellFormed := constructed.wellFormed
    have enters : ∀ (after : Session) (edge : Reference), edge.item < env.tree.size →
        edge.Fits after.cells → AscentKnown env after ⟨.item edge.item, some edge⟩ := by
      intro after edge inside edgeFits
      refine ⟨inside, ?_⟩
      intro reference same
      cases same
      exact edgeFits
    cases lenient with
    | true =>
        exact runs_enter wellFormed (fun edge => ⟨.item edge.item, some edge⟩) (AscentKnown env)
          (runs_enterable (runs_forceEdge_fits wellFormed sound fits)) known.2 enters
    | false =>
        exact runs_enter wellFormed (fun edge => ⟨.item edge.item, some edge⟩) (AscentKnown env)
          (runs_enterable (runs_forceReference_fits wellFormed sound fits)) known.2 enters
  nodeLasts old new start later known :=
    ⟨known.1, fun reference same => (known.2 reference same).mono later.cells⟩
  edgeLasts old new start ancestor later fits := fits.mono later.cells

theorem runs_allAncestorsOf (constructed : env.Constructed) (sound : session.Sound env)
    {decl : Decl} (inside : decl.site < env.tree.size) (lenient : Bool) :
    Query.Runs (Sound env) Follows session (env.allAncestorsOf decl lenient)
      (Query.OnValue FittingAll) := by
  have start : AscentKnown env session ⟨decl, none⟩ := ⟨inside, by simp⟩
  unfold allAncestorsOf
  have searched := Search.runs_run (steps_ancestorSearch constructed lenient) env.searchDepth sound
    start
  refine (searched.mono fun _ _ _ _ result => result.value).bind_value ?_
  rintro after ⟨seen, found⟩ soundAfter _ result
  refine Query.runs_pure soundAfter ?_
  intro references same reference member
  cases same
  obtain ⟨ascent, isSeen, isView⟩ := List.mem_filterMap.mp member
  exact (result.1 ascent isSeen).2 reference isView

/-! ## Assignment -/

section

variable {sure : Prop}

theorem runs_force_usable (wellFormed : env.tree.WellFormed) (sound : session.Sound env) {type : Ty}
    (usable : env.Usable sure session type) :
    Query.Runs (Sound env) Defers session (env.force type)
      (Query.Answered sure fun _ value => sure → value.Within env.tree) := by
  refine (runs_force wellFormed sound type usable.fits).mono ?_
  rintro after outcome _ _ ⟨same, _⟩
  apply Query.answered_of_exists
  · intro isSure
    obtain ⟨value, forced, _⟩ := usable.forcible isSure
    exact ⟨value, same.trans forced⟩
  · intro value isValue isSure
    obtain ⟨other, forced, within⟩ := usable.forcible isSure
    rw [isValue, forced] at same
    exact Except.ok.inj same ▸ within

/-- Without deferred parts, types are compared as they stand. -/
theorem isAssignable_of_isEager {source target : Ty} (sourceEager : source.isEager = true)
    (targetEager : target.isEager = true) :
    (env.isAssignable source target session).1 = (env.assignable source target).outcome := by
  rw [isAssignable, force_of_isEager source sourceEager, force_of_isEager target targetEager]
  rfl

/-- Between types that can be forced, assignment has an answer. -/
theorem runs_isAssignable (constructed : env.Constructed) (inTree : sure → env.InTree)
    (sound : session.Sound env) {source target : Ty} (sourceUsable : env.Usable sure session source)
    (targetUsable : env.Usable sure session target) :
    Query.Runs (Sound env) Defers session (env.isAssignable source target)
      (Query.Answered sure fun _ _ => True) := by
  have wellFormed := constructed.wellFormed
  unfold isAssignable
  refine (runs_force_usable wellFormed sound sourceUsable).bind_judged ?_
  intro after source soundAfter later sourceWithin
  refine (runs_force_usable wellFormed soundAfter (targetUsable.mono later.cells)).bind_judged ?_
  intro last target soundLast _ targetWithin
  refine (Query.runs_lift soundLast (env.assignable source target)).mono ?_
  rintro final outcome _ _ ⟨_, same⟩
  apply Query.answered_of_exists
  · intro isSure
    obtain ⟨answer, given⟩ := exists_assignable constructed (inTree isSure) (sourceWithin isSure)
      (targetWithin isSure)
    exact ⟨answer, same.trans given⟩
  · intro answer _
    trivial

theorem runs_allAssignable (constructed : env.Constructed) (inTree : sure → env.InTree)
    (sources : List Ty) :
    ∀ {session : Session} (targets : List Ty), session.Sound env →
      env.AllUsable sure session sources → env.AllUsable sure session targets →
      Query.Runs (Sound env) Defers session (env.allAssignable sources targets)
        (Query.Answered sure fun _ _ => True) := by
  induction sources with
  | nil =>
      intro session targets sound _ _
      exact Query.runs_pure sound (Query.judged_ok trivial)
  | cons source sources ih =>
      intro session targets sound sourcesUsable targetsUsable
      cases targets with
      | nil => exact Query.runs_pure sound (Query.judged_ok trivial)
      | cons target targets =>
          obtain ⟨sourceUsable, sourcesUsable⟩ := List.forall_mem_cons.mp sourcesUsable
          obtain ⟨targetUsable, targetsUsable⟩ := List.forall_mem_cons.mp targetsUsable
          rw [allAssignable]
          refine (runs_isAssignable constructed inTree sound sourceUsable
            targetUsable).bind_judged ?_
          intro after accepted soundAfter later _
          cases accepted with
          | true =>
              exact ih targets soundAfter (AllUsable.mono sourcesUsable later.cells)
                (AllUsable.mono targetsUsable later.cells)
          | false => exact Query.runs_pure soundAfter (Query.judged_ok trivial)

end

theorem runs_itemAccepts (constructed : env.Constructed) (sound : session.Sound env)
    (item : ItemId) {other : Decl} (inside : other.site < env.tree.size) :
    Query.Runs (Sound env) Follows session (env.itemAccepts item other) Query.Anything := by
  unfold itemAccepts
  split
  · exact Query.runs_pure sound (Query.anything _ _)
  · dsimp only
    split
    · exact Query.runs_pure sound (Query.anything _ _)
    · refine (runs_allAncestorsOf constructed sound inside false).bind_value ?_
      intro after _ soundAfter _ _
      exact Query.runs_pure soundAfter (Query.anything _ _)

theorem runs_declAccepts (constructed : env.Constructed) (sound : session.Sound env)
    (decl : Decl) {other : Decl} (inside : other.site < env.tree.size) :
    Query.Runs (Sound env) Follows session (env.declAccepts decl other) Query.Anything := by
  cases decl with
  | item id => exact runs_itemAccepts constructed sound id inside
  | parameter param => exact Query.runs_fail sound (Query.anything _ _)

theorem runs_known_then {α : Type} (sound : session.Sound env) (id : ItemId) {next : Query α}
    {good : Session → α → Prop}
    (onward : ∀ after, after.Sound env → session.Defers after → id < env.tree.size →
      Query.Runs (Sound env) Follows after next (Query.OnValue good)) :
    Query.Runs (Sound env) Follows session (do
      env.known id
      next) (Query.OnValue good) := by
  refine (Query.runs_lift sound (env.known id)).follows_of_defers.bind ?_ ?_
  · intro after cause _ _ value same
    cases same
  · rintro after _ soundAfter _ ⟨defers, checked⟩
    exact onward after soundAfter defers (lt_of_known checked.symm)

theorem runs_declAcceptsType (constructed : env.Constructed) (sound : session.Sound env)
    (decl : Decl) {type : Ty} (fits : type.Fits session.cells) :
    Query.Runs (Sound env) Follows session (env.declAcceptsType decl type) Query.Anything := by
  cases decl with
  | parameter param => exact Query.runs_fail sound (Query.anything _ _)
  | item id =>
      have forced := Query.Runs.anything (runs_force constructed.wellFormed sound type fits)
      refine forced.follows_of_defers.bind_value ?_
      intro after value soundAfter _ _
      cases value with
      | null => exact Query.runs_pure soundAfter (Query.anything _ _)
      | array component => exact Query.runs_pure soundAfter (Query.anything _ _)
      | reference source name args =>
          exact runs_known_then soundAfter source fun last soundLast _ inside =>
            runs_itemAccepts constructed soundLast id inside
      | typeVar var =>
          exact runs_known_then soundAfter var.owner.item fun last soundLast _ inside =>
            runs_itemAccepts constructed soundLast id inside
      | _ => exact Query.runs_fail soundAfter (Query.anything _ _)

/-! ## Single supertypes -/

theorem runs_superclassOf (sound : session.Sound env) {decl : Decl}
    (inside : decl.site < env.tree.size) :
    Query.Runs (Sound env) Defers session (env.superclassOf decl) Query.Anything := by
  cases decl with
  | parameter param => exact Query.runs_pure sound (Query.anything _ _)
  | item id =>
      unfold superclassOf
      refine (Query.Runs.anything (Query.runs_lift sound (env.superclass id))).bind_value ?_
      intro after found soundAfter _ _
      cases found with
      | none => exact Query.runs_pure soundAfter (Query.anything _ _)
      | some supertype =>
          refine (Query.Runs.anything (runs_instantiate soundAfter inside supertype)).bind_value ?_
          intro last _ soundLast _ _
          exact Query.runs_pure soundLast (Query.anything _ _)

theorem runs_interfacesOf (sound : session.Sound env) {decl : Decl}
    (inside : decl.site < env.tree.size) :
    Query.Runs (Sound env) Defers session (env.interfacesOf decl) Query.Anything := by
  cases decl with
  | parameter param => exact Query.Runs.anything (Query.runs_lift sound _)
  | item id =>
      have clauses : Query.Runs (Sound env) Defers session
          ((env.interfaceClauses id).mapM (env.clauseReference id))
          (Query.Answered False fun _ values => ∀ value ∈ values, True) := by
        refine Query.runs_mapM_judged sound (fun _ _ _ _ _ => trivial) ?_
        intro clause _ after soundAfter _
        exact (Query.Runs.anything (runs_clauseReference soundAfter inside clause)).unsure
      exact Query.Runs.anything clauses

end Environment

end JavaSymbols

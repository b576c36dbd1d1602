import JavaSymbols.Proofs.Ancestors.Flaws
import JavaSymbols.Proofs.Search.Preorder
import JavaSymbols.Proofs.Session.Questions

/-!
# Walks through all ancestors

The strict walk comes to the references of an outline without sessions, or to its
first fault; the lenient walk comes to the same references when the outline has
no fault.  In any case the lenient walk collects the declarations of a graph.
-/

namespace JavaSymbols.Environment

open Session Relation

variable {env : Environment} {session : Session}

/-! ## Following an ancestor -/

/-- A reference with converted type arguments. -/
def convertedReference (env : Environment) (reference : Reference) : Except Fault Reference :=
  (env.forcedAll reference.args).map fun args => { reference with args := args }

/-- The step from a reference that is followed: strictly its arguments have to
resolve. -/
def step (env : Environment) (lenient : Bool) (reference : Reference) : Query Reference :=
  if lenient then env.forceEdge reference else env.forceReference reference

/-- A step gives the reference with converted arguments; a lenient one does so
if they convert. -/
theorem runs_step (wellFormed : env.tree.WellFormed) (sound : session.Sound env) (lenient : Bool)
    {reference : Reference} (fits : reference.Fits session.cells)
    (foreseen : Foreseen (lenient = true) (env.convertedReference reference)) :
    Query.Runs (Sound env) Defers session (env.step lenient reference) fun _ outcome =>
      outcome = env.convertedReference reference := by
  have strictly : Query.Runs (Sound env) Defers session (env.forceReference reference)
      fun _ outcome => outcome = env.convertedReference reference := by
    refine (runs_forceReference wellFormed sound fits).mono ?_
    rintro after outcome _ _ ⟨same, _⟩
    rw [same, convertedReference]
    cases env.forcedAll reference.args <;> rfl
  cases lenient with
  | false => exact strictly
  | true =>
      obtain ⟨edge, given⟩ := foreseen rfl
      rw [given] at strictly ⊢
      refine Query.Runs.recover (.argumentsKept reference.name) (pure reference) (fun _ => rfl)
        strictly ?_ ?_ ?_
      · rintro after _ soundAfter _ ⟨⟩
        exact Query.runs_pure soundAfter rfl
      · rintro after fault _ failed
        cases failed
      · rintro after fault events _ _ _ failed
        cases failed

/-- An ancestor of a walk with what it is followed as. -/
structure Followed (env : Environment) (session : Session) (edge : Except Fault Reference)
    (ancestor : Reference) : Prop where
  inside : ancestor.item < env.tree.size
  fits : ancestor.Fits session.cells
  converted : edge = env.convertedReference ancestor

theorem Followed.mono {old new : Session} {edge : Except Fault Reference} {ancestor : Reference}
    (followed : env.Followed old edge ancestor) (later : old.cells.Extends new.cells) :
    env.Followed new edge ancestor :=
  ⟨followed.inside, followed.fits.mono later, followed.converted⟩

/-- What an ancestor is followed as is an item of the tree, with nothing deferred in
its arguments. -/
theorem Followed.placed {edge : Except Fault Reference} {ancestor : Reference}
    (followed : env.Followed session edge ancestor)
    (wellFormed : env.tree.WellFormed) (sound : session.Sound env) {reference : Reference}
    (converts : env.convertedReference ancestor = .ok reference) :
    reference.item < env.tree.size ∧ Ty.allEager reference.args = true := by
  obtain ⟨args, forcing, rfl⟩ := Except.map_eq_ok converts
  exact ⟨followed.inside,
    allEager_of_forcedAll wellFormed sound.cells ancestor.args followed.fits args forcing⟩

theorem runs_itemAncestors_followed (constructed : env.Constructed) (inTree : env.InTree)
    (sound : session.Sound env) {id : Nat} (inside : id < env.tree.size) (lenient : Bool)
    (foreseen : Foreseen (lenient = true) (env.strictEdges (.item id))) :
    Query.Runs (Sound env) Follows session (env.itemAncestors id lenient) fun after =>
      Agree (List.Forall₂ (env.Followed after)) (env.strictEdges (.item id)) := by
  refine (runs_itemAncestors sound inside lenient).mono ?_
  intro after outcome _ _ agree
  rw [supertypesOf_of_foreseen constructed inTree inside foreseen.of_map] at agree
  rw [strictEdges]
  cases given : (env.supertypesOf id false).outcome with
  | error fault =>
      rw [given] at agree
      cases agree
      exact .fault fault
  | ok found =>
      rw [given] at agree
      cases agree with
      | value both =>
          refine .value (List.forall₂_map_left_iff.mpr ?_)
          have pairs := (List.forall₂_and_left _ _).mpr ⟨fun supertype member =>
            (within_of_supertypesOf constructed inTree inside given member).1, both.1⟩
          refine pairs.imp ?_
          rintro supertype reference ⟨within, isInstance⟩
          refine ⟨isInstance.item ▸ within, isInstance.fits, ?_⟩
          rw [convertedEdge, convertedReference, forcedAll_instance isInstance, isInstance.item,
            isInstance.name]

theorem runs_supertypesOfParameter_followed (constructed : env.Constructed) (inTree : env.InTree)
    (sound : session.Sound env) {param : TypeParameter}
    (inside : param.owner.item < env.tree.size) (lenient : Bool)
    (foreseen : Foreseen (lenient = true) (env.strictEdges (.parameter param))) :
    Query.Runs (Sound env) Follows session
      (Query.ofTraced (env.supertypesOfParameter param lenient)) fun after =>
        Agree (List.Forall₂ (env.Followed after)) (env.strictEdges (.parameter param)) := by
  refine (Query.runs_lift sound (env.supertypesOfParameter param lenient)).follows_of_defers.mono ?_
  rintro after outcome _ _ ⟨_, rfl⟩
  rw [supertypesOfParameter_of_foreseen constructed.wellFormed inTree inside foreseen.of_map,
    strictEdges]
  cases given : (env.supertypesOfParameter param false).outcome with
  | error fault => exact .fault fault
  | ok found =>
      refine .value (List.forall₂_map_left_iff.mpr (List.forall₂_same.mpr ?_))
      intro reference member
      obtain ⟨within, eager, _⟩ :=
        within_of_supertypesOfParameter constructed inTree inside given member
      refine ⟨within, Ty.allFit_of_allEager _ _ eager, ?_⟩
      rw [convertedReference, forcedAll_of_allEager _ eager]
      rfl

/-- The ancestors of a declaration, as far as a strict look has no fault. -/
theorem runs_ancestors_followed (constructed : env.Constructed) (inTree : env.InTree)
    (sound : session.Sound env) {decl : Decl} (declares : env.tree.Declares decl) (lenient : Bool)
    (foreseen : Foreseen (lenient = true) (env.strictEdges decl)) :
    Query.Runs (Sound env) Follows session (env.ancestorsOf decl lenient) fun after =>
      Agree (List.Forall₂ (env.Followed after)) (env.strictEdges decl) := by
  cases decl with
  | item id =>
      exact runs_itemAncestors_followed constructed inTree sound declares lenient foreseen
  | parameter param =>
      exact runs_supertypesOfParameter_followed constructed inTree sound declares.1 lenient foreseen

/-- Going on to an ancestor that is followed with converted arguments. -/
theorem runs_ascend (wellFormed : env.tree.WellFormed) (sound : session.Sound env)
    {ascent : Ascent} (viewed : env.Viewed ascent) {edge : Except Fault Reference}
    {ancestor : Reference} (followed : env.Followed session edge ancestor) {step : Query Reference}
    (stepped : Query.Runs (Sound env) Defers session step fun _ outcome =>
      outcome = env.convertedReference ancestor) :
    Query.Runs (Sound env) Follows session (do
        let edge ← step
        let edge := edge.seenThrough ascent.view (← Query.cells)
        env.known edge.item
        pure (some (Ascent.mk (.item edge.item) (some edge))))
      fun _ => Agree (fun next entered =>
          ∃ reached, entered = some reached ∧ reached = next ∧ env.Viewed next)
        (ascend ascent edge) := by
  have placed : ∀ reference, env.convertedReference ancestor = .ok reference →
      reference.item < env.tree.size ∧ Ty.allEager reference.args = true :=
    fun _ converts => followed.placed wellFormed sound converts
  refine (runs_entering_eager ascent.view (fun edge => Ascent.mk (.item edge.item) (some edge))
    stepped placed).mono ?_
  rintro after _ _ _ rfl
  rw [followed.converted]
  cases converts : env.convertedReference ancestor with
  | error fault => exact .fault fault
  | ok reference =>
      obtain ⟨inside, eager⟩ := placed reference converts
      refine .value ⟨_, rfl, ?_, viewed.above reference inside eager⟩
      rw [Reference.item_seenThrough]

/-- Either walk agrees with the outline of the strict one; the lenient one as far
as the outline has no fault. -/
theorem outlined_ancestorSearch (constructed : env.Constructed) (inTree : env.InTree)
    (lenient : Bool) :
    Search.Outlined (lenient = true) (env.ancestorSearch lenient)
      (fun ascent : Ascent => env.tree.qualifiedNameOf ascent.decl)
      (fun ascent => env.strictEdges ascent.decl) ascend (Sound env) Follows
      (fun _ twin ascent => ascent = twin ∧ env.Viewed twin)
      (fun after _ edge ancestor => env.Followed after edge ancestor) where
  keyed := by
    rintro _ twin _ ⟨rfl, _⟩
    rfl
  silent _ := rfl
  edges := by
    rintro current twin _ sound ⟨rfl, viewed⟩ foreseen
    exact runs_ancestors_followed constructed inTree sound viewed.declares lenient foreseen
  enter := by
    rintro current _ ascent edge ancestor sound ⟨rfl, viewed⟩ followed foreseen
    have wellFormed := constructed.wellFormed
    have foreseenStep : Foreseen (lenient = true) (env.convertedReference ancestor) := by
      intro isLax
      obtain ⟨next, given⟩ := foreseen isLax
      rw [followed.converted] at given
      cases converts : env.convertedReference ancestor with
      | ok reference => exact ⟨reference, rfl⟩
      | error fault =>
          rw [converts] at given
          cases given
    have stepped := runs_step wellFormed sound lenient followed.fits foreseenStep
    cases lenient with
    | false => exact runs_ascend wellFormed sound viewed followed stepped
    | true => exact runs_ascend wellFormed sound viewed followed stepped
  nodeLasts _ _ _ _ _ known := known
  edgeLasts _ _ _ _ _ later followed := followed.mono later.cells

/-! ## The declarations of a lenient walk -/

/-- A declaration that a lenient walk comes to.  Only the start is come to by no
reference. -/
structure Met (env : Environment) (start : Decl) (session : Session) (decl : Decl)
    (ascent : Ascent) : Prop where
  place : ascent.decl = decl
  declares : env.tree.Declares decl
  fits : ∀ view, ascent.view = some view → view.Fits session.cells
  viewed : ∀ view, ascent.view = some view →
    decl = .item view.item ∧ view.name = env.tree.qualifiedName view.item
  origin : ascent.view = none → decl = start

/-- A reference that a lenient walk follows to a declaration. -/
structure LeadsUp (env : Environment) (session : Session) (target : Decl)
    (ancestor : Reference) : Prop where
  goal : target = .item ancestor.item
  inside : ancestor.item < env.tree.size
  name : ancestor.name = env.tree.qualifiedName ancestor.item
  fits : ancestor.Fits session.cells
  unresolved : ∀ fault, env.forcedAll ancestor.args = .error fault → fault.isUnresolved = true

theorem LeadsUp.mono {old new : Session} {target : Decl} {ancestor : Reference}
    (leads : env.LeadsUp old target ancestor) (later : old.cells.Extends new.cells) :
    env.LeadsUp new target ancestor :=
  { leads with fits := leads.fits.mono later }

/-- Asked leniently, a declaration always has ancestors, which lead to its
targets. -/
theorem runs_ancestors_lenient (constructed : env.Constructed) (inTree : env.InTree)
    (sound : session.Sound env) {decl : Decl} (declares : env.tree.Declares decl) :
    Query.Runs (Sound env) Follows session (env.ancestorsOf decl true) fun after =>
      Agree (List.Forall₂ (env.LeadsUp after)) (.ok (env.ancestorTargets decl)) := by
  cases decl with
  | item id =>
      have inside : id < env.tree.size := declares
      obtain ⟨found, given⟩ := (firm_supertypesOf constructed inside).total inTree
      refine (runs_itemAncestors sound inside true).mono ?_
      intro after outcome _ _ agree
      rw [given] at agree
      rw [ancestorTargets_of_item given]
      cases agree with
      | value both =>
          refine .value (List.forall₂_map_left_iff.mpr ?_)
          have pairs := (List.forall₂_and_left _ _).mpr ⟨fun supertype member =>
            within_of_supertypesOf constructed inTree inside given member, both.1⟩
          refine pairs.imp ?_
          rintro supertype reference ⟨⟨within, bears⟩, isInstance⟩
          refine ⟨by rw [isInstance.item], isInstance.item ▸ within, ?_, isInstance.fits, ?_⟩
          · rw [isInstance.name, isInstance.item]
            exact bears
          · intro fault failed
            rw [forcedAll_instance isInstance] at failed
            exact unresolved_of_convertArgs constructed.wellFormed inTree inside failed
  | parameter param =>
      have inside : param.owner.item < env.tree.size := declares.1
      obtain ⟨found, given⟩ := (firm_supertypesOfParameter constructed inside).total inTree
      refine (Query.runs_lift sound
        (env.supertypesOfParameter param true)).follows_of_defers.mono ?_
      rintro after outcome _ _ ⟨_, rfl⟩
      rw [given, ancestorTargets_of_parameter given]
      refine .value (List.forall₂_map_left_iff.mpr (List.forall₂_same.mpr ?_))
      intro reference member
      obtain ⟨within, eager, named⟩ :=
        within_of_supertypesOfParameter constructed inTree inside given member
      refine ⟨rfl, within, named, Ty.allFit_of_allEager _ _ eager, ?_⟩
      intro fault failed
      rw [forcedAll_of_allEager _ eager] at failed
      cases failed

/-- The lenient walk is a search over a graph of declarations. -/
theorem outlined_lenient (constructed : env.Constructed) (inTree : env.InTree) (start : Decl) :
    Search.Outlined False (env.ancestorSearch true) env.tree.qualifiedNameOf
      (fun decl => .ok (env.ancestorTargets decl)) (fun _ target => .ok target) (Sound env) Follows
      (env.Met start) (fun after _ target ancestor => env.LeadsUp after target ancestor) where
  keyed _ _ _ met := congrArg env.tree.qualifiedNameOf met.place
  silent _ := rfl
  edges current decl ascent sound met _ := by
    have isPlace := met.place
    subst isPlace
    exact runs_ancestors_lenient constructed inTree sound met.declares
  enter current decl ascent target ancestor sound met leads _ := by
    have wellFormed := constructed.wellFormed
    have passedOver : ∀ fault, env.forcedAll ancestor.args = .error fault →
        fault.isUnresolved = true ∨ False := fun fault failed =>
      .inl (leads.unresolved fault failed)
    have stepped := runs_forceEdge_judged wellFormed sound leads.fits passedOver
    refine runs_entering ascent.view (fun edge => Ascent.mk (.item edge.item) (some edge)) stepped
      ?_ ?_ ?_
    · intro after cause judged
      exact (judged.fault cause rfl).elim
    · intro after edge _ judged
      exact (judged.value edge rfl).1 ▸ leads.inside
    · intro after edge soundAfter later judged last defers
      obtain ⟨sameItem, sameName, fits⟩ := judged.value edge rfl
      have item : (edge.seenThrough ascent.view after.cells).item = ancestor.item :=
        (Reference.item_seenThrough _ _ _).trans sameItem
      have seenFits := soundAfter.cells.fits_reference_seenThrough wellFormed
        (fun view isView => (met.fits view isView).mono later.cells) fits
      refine .value ⟨_, rfl, ?_⟩
      refine ⟨?_, leads.goal ▸ leads.inside, ?_, ?_, nofun⟩
      · rw [leads.goal, item]
      · rintro view ⟨⟩
        exact seenFits.mono defers.cells
      · rintro view ⟨⟩
        refine ⟨by rw [leads.goal, item], ?_⟩
        rw [item, ← leads.name, ← sameName]
        cases ascent.view <;> rfl
  nodeLasts _ _ _ _ later met :=
    { met with fits := fun view isView => (met.fits view isView).mono later.cells }
  edgeLasts _ _ _ _ _ later leads := leads.mono later.cells

end JavaSymbols.Environment

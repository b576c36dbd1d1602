import JavaSymbols.Proofs.Session.Dialogues
import JavaSymbols.Proofs.Session.Memos

/-!
# Enumerating declarations

Most requests only look at what is declared: the supertypes, fields and annotations
of a declaration, what a name or a written type denotes, and whether supertypes lead
from one declaration to another.  Answering them converts no deferred type, whether
the answer is a value or a fault.  Whatever an answer defers has an empty cell of its
own, apart from lists of ancestors that are remembered with the cells that they have.
-/

namespace JavaSymbols

open Query

namespace Request

variable {env : Environment} {session : Session} {α : Type}

/-- The requests that enumerate declarations. -/
def Enumerates : {α : Type} → Request α → Prop
  | _, .superclassOf _ | _, .interfacesOf _ | _, .ancestorsOf _ _ | _, .declaredFieldsOf _ => True
  | _, .canBeAssignedTo _ _ | _, .tryCanBeAssignedTo _ _ => True
  | _, .solveQualified _ | _, .lookup _ _ | _, .visible _ _ => True
  | _, .annotationsOf _ | _, .isAnnotatedWith _ _ => True
  | _, .convert _ _ | _, .convertClause _ _ => True
  | _, _ => False

/-- The deferred parts of the types in an answer. -/
def deferrals : {α : Type} → Request α → α → List Deferral
  | _, .convert _ _, type => type.deferrals
  | _, .convertClause _ _, reference => reference.deferrals
  | _, .superclassOf _, found => found.toList.flatMap Reference.deferrals
  | _, .interfacesOf _, found => found.flatMap Reference.deferrals
  | _, .ancestorsOf _ _, found => found.flatMap Reference.deferrals
  | _, .declaredFieldsOf _, fields => fields.flatMap Field.deferrals
  | _, _, _ => []

/-- The answer to a request is a list that the session remembers. -/
def Recalls (session : Session) : {α : Type} → Request α → Prop
  | _, .ancestorsOf (.item id) lenient => session.supertypes.lookup (id, lenient) ≠ none
  | _, _ => False

/-- A request that is answered anew puts off what it does not convert. -/
theorem runs_answer (env : Environment) {request : Request α} (enumerates : request.Enumerates)
    (anew : ¬ request.Recalls session) :
    Runs (fun after => session.cells.Appends after.cells) Session.Postpones session
      (request.answer env) (OnValue (AllFresh session.cells request.deferrals)) := by
  have above := Cells.Appends.refl session.cells
  cases request with
  | superclassOf decl => exact env.postpones_superclassOf decl _ _ above
  | interfacesOf decl => exact env.postpones_interfacesOf decl _ _ above
  | declaredFieldsOf decl => exact env.postpones_declaredFieldsOf decl _ _ above
  | convertClause site clause => exact env.postpones_clauseReference site clause _ _ above
  | convert site source => exact postpones_ofTraced (env.deferrals_convert site source) _ _ above
  | ancestorsOf decl lenient =>
      cases decl with
      | item id => exact env.runs_itemAncestors_anew above (not_not.mp anew)
      | parameter param =>
          apply postpones_ofTraced _ _ _ above
          intro found done
          exact deferrals_of_eager (env.eager_supertypesOfParameter param lenient found done)
  | canBeAssignedTo _ _ | tryCanBeAssignedTo _ _ | solveQualified _ | lookup _ _ | visible _ _
  | annotationsOf _ | isAnnotatedWith _ _ =>
      exact postpones_lift _ _ _ above
  | _ => exact enumerates.elim

/-- A remembered list is answered as it is, and what it defers has cells. -/
theorem answer_of_recalls (sound : session.Sound env) {request : Request α}
    (recalls : request.Recalls session) :
    ∃ value, request.answer env session = (.ok value, session) ∧
      ∀ part ∈ request.deferrals value, session.cells.Holds part.cell part.source part.site := by
  cases request with
  | ancestorsOf decl lenient =>
      cases decl with
      | item id =>
          obtain ⟨remembered, known⟩ := Option.ne_none_iff_exists'.mp recalls
          refine ⟨remembered, env.itemAncestors_of_remembered known, fun part member => ?_⟩
          obtain ⟨reference, listed, inReference⟩ := List.mem_flatMap.mp member
          obtain ⟨_, found, _, instances⟩ := sound.supertypes id lenient remembered known
          have fits := fits_of_instances instances reference listed
          exact Ty.AllFit.holds reference.args fits part inReference
      | parameter param => exact recalls.elim
  | _ => exact recalls.elim

end Request

namespace Environment

variable {env : Environment} {session : Session}

/-- In a session that questions lead to, enumerating declarations leaves every cell just
as it was, set or empty, and every cell that it adds is empty.  This holds for values and
faults alike.  What a value defers is in such new cells, unless the value is a list that
the session remembers; that is answered with the cells it has, and nothing changes. -/
theorem enumerating_forces_nothing (constructed : env.Constructed)
    (reached : session.Reached env) {α : Type} (request : Request α)
    (enumerates : request.Enumerates) :
    session.cells.Appends (request.answer env session).2.cells ∧
    (request.Recalls session → (request.answer env session).2 = session) ∧
    ∀ value, (request.answer env session).1 = .ok value → ∀ part ∈ request.deferrals value,
      (¬ request.Recalls session →
        part.Fresh session.cells (request.answer env session).2.cells) ∧
      (request.Recalls session → session.cells.Holds part.cell part.source part.site) := by
  by_cases recalls : request.Recalls session
  · have sound := (collecting_of_reached constructed reached).1.sound
    obtain ⟨remembered, answered, held⟩ := Request.answer_of_recalls sound recalls
    rw [answered]
    refine ⟨.refl _, fun _ => rfl, ?_⟩
    rintro _ ⟨⟩ part member
    exact ⟨fun anew => absurd recalls anew, fun _ => held part member⟩
  · have ran := Request.runs_answer env enumerates recalls
    refine ⟨ran.invariant, fun again => absurd again recalls, fun value done part member => ?_⟩
    exact ⟨fun _ => ran.good value done part member, fun again => absurd again recalls⟩

/-- After the pair has been forced, the first of its two cells is set.  Asking for the
superclass again adds two empty cells; the remembered ancestors come with the old ones. -/
theorem enumerating_forces_nothing_pairForced :
    pairOfUnknown.Constructed ∧ pairForced.Reached pairOfUnknown ∧
    (Request.superclassOf (.item 11)).Enumerates ∧
    ¬ (Request.superclassOf (.item 11)).Recalls pairForced ∧
    (Request.ancestorsOf (.item 11) true).Recalls pairForced ∧
    pairForced.cells.Appends
      ((Request.superclassOf (.item 11)).answer pairOfUnknown pairForced).2.cells ∧
    ((Request.superclassOf (.item 11)).answer pairOfUnknown pairForced).2.cells.all.toList.map
      (fun cell => cell.value.isSome) = [true, false, false, false] ∧
    ((Request.ancestorsOf (.item 11) true).answer pairOfUnknown pairForced).2 = pairForced := by
  have constructed : pairOfUnknown.Constructed := constructed_libraryWith _ _
  have inside : 11 < pairOfUnknown.tree.size := by decide +kernel
  have asked : pairAsked.Reached pairOfUnknown := .asked .start (.ancestors (.item 11) true) inside
  have fits : deferredPair.Fits pairAsked.cells :=
    ⟨(by decide +kernel : pairAsked.cells.Holds 0 (.named (.simple "Leaf" none)) 11),
      (by decide +kernel : pairAsked.cells.Holds 1 (.named (.simple "Gone" none)) 11), trivial⟩
  have forced : pairForced.Reached pairOfUnknown := .asked asked (.force deferredPair) fits
  have anew : ¬ (Request.superclassOf (.item 11)).Recalls pairForced := not_false
  have recalls : (Request.ancestorsOf (.item 11) true).Recalls pairForced := by
    have remembered : (pairForced.supertypes.lookup (11, true)).isSome = true := by decide +kernel
    exact Option.isSome_iff_ne_none.mp remembered
  have superclass := enumerating_forces_nothing constructed forced
    (.superclassOf (.item 11)) trivial
  have ancestors := enumerating_forces_nothing constructed forced
    (.ancestorsOf (.item 11) true) trivial
  refine ⟨constructed, forced, trivial, anew, recalls, superclass.1, ?_, ancestors.2.1 recalls⟩
  decide +kernel

end Environment

end JavaSymbols

import JavaSymbols.Proofs.Session.Ancestors
import JavaSymbols.Proofs.Session.Postponed

/-!
# Which cells are set

Few queries set cells.  Asking for supertypes or for the fields of one body sets
none.  Following a supertype sets the cells of its type arguments up to the
first that does not convert; these are at the front of the supertype.
-/

namespace JavaSymbols

namespace Query

variable {α β : Type}

/-- A query that leaves every cell as it is, set or not. -/
def LeavesCells (query : Query α) : Prop :=
  ∀ session cell, (query session).2.cells.get? cell = session.cells.get? cell

theorem leavesCells_ofTraced (run : Traced α) : (ofTraced run).LeavesCells :=
  fun _ _ => rfl

/-- A query that only puts types off adds cells that are not set. -/
theorem Postpones.leavesCells {query : Query α} {parts : α → List Deferral}
    (postpones : query.Postpones parts) : query.LeavesCells := by
  intro session cell
  have ran := postpones session.cells session (Cells.Appends.refl _)
  exact Cells.Appends.get?_eq ran.follows cell

/-- A cell that is set after one query and another was set by the first, or by
the second after the first had left it unset. -/
theorem set_of_bind {first : Query α} {next : α → Query β} {session : Session} {cell : Nat}
    (set : ((first >>= next) session).2.cells.get? cell ≠ none) :
    (first session).2.cells.get? cell ≠ none ∨
      ∃ value after, first session = (.ok value, after) ∧ after.cells.get? cell = none ∧
        (next value after).2.cells.get? cell ≠ none := by
  rw [bind_apply] at set
  rcases ran : first session with ⟨fault | value, after⟩
  · rw [ran] at set
    exact .inl set
  · rw [ran] at set
    by_cases between : after.cells.get? cell = none
    · exact .inr ⟨value, after, rfl, between, set⟩
    · exact .inl between

end Query

/-- A cell of a reference at a position up to which all type arguments
convert. -/
def Reference.Front (env : Environment) (reference : Reference) (cell : Nat) : Prop :=
  ∃ position, reference.DefersAt position cell ∧
    ∃ values, env.forcedAll (reference.args.take (position + 1)) = .ok values

namespace Environment

open Query Session

variable (env : Environment)

/-! ## Queries that set no cell -/

/-- Asking for the supertypes of an item sets no cell. -/
theorem leavesCells_itemAncestors (id : ItemId) (lenient : Bool) :
    (env.itemAncestors id lenient).LeavesCells := by
  intro session cell
  cases known : session.supertypes.lookup (id, lenient) with
  | some remembered => rw [env.itemAncestors_of_remembered known]
  | none =>
      have ran := env.runs_itemAncestors_anew (Cells.Appends.refl session.cells) known
      exact Cells.Appends.get?_eq ran.follows cell

/-- Asking for the fields of one body sets no cell. -/
theorem leavesCells_declaredFields (item : ItemId) : (env.declaredFields item).LeavesCells :=
  (env.postpones_declaredFields item).leavesCells

/-! ## Cells that are set on following a supertype -/

variable {env}

/-- Forcing a deferred type sets no cell but its own, and only if it converts. -/
theorem set_forceCell {session : Session} {cell other : Nat} {source : TypeExpr} {site : ItemId}
    (unset : session.cells.get? other = none)
    (set : (env.forceCell cell source site session).2.cells.get? other ≠ none) :
    other = cell ∧ ∃ type, (env.convert site source).outcome = .ok type := by
  unfold forceCell at set
  rw [bind_apply, cells_apply] at set
  cases held : session.cells.get? cell with
  | some type =>
      simp only [held] at set
      exact absurd unset set
  | none =>
      simp only [held] at set
      cases converts : (env.convert site source).outcome with
      | error fault =>
          change ((ofTraced (env.convert site source) >>= _) session).2.cells.get? other ≠ none
            at set
          rw [bind_apply, ofTraced_apply, converts] at set
          exact absurd unset set
      | ok type =>
          change ((ofTraced (env.convert site source) >>= _) session).2.cells.get? other ≠ none
            at set
          rw [bind_apply, ofTraced_apply, converts] at set
          change (session.cells.set cell type).get? other ≠ none at set
          rw [Cells.get?_set] at set
          split at set
          · next both => exact ⟨both.1, type, rfl⟩
          · exact absurd unset set

/-- Forcing a type argument of a supertype sets its own cell, if it converts. -/
theorem set_force_argInstance {session : Session} {id : ItemId} {arg : SupertypeArg} {type : Ty}
    {cell : Nat} (given : ArgInstance env session.cells id arg type)
    (unset : session.cells.get? cell = none)
    (set : (env.force type session).2.cells.get? cell ≠ none) :
    ∃ source site, type = .deferred cell source site ∧ ∃ value, env.forced type = .ok value := by
  cases given with
  | self => exact absurd unset set
  | @written source own held =>
      rw [force] at set
      obtain ⟨rfl, converts⟩ := set_forceCell unset set
      exact ⟨source, id, rfl, converts⟩

/-- Forcing the type arguments of a supertype sets the cells of those up to which
all convert. -/
theorem set_forceAll (wellFormed : env.tree.WellFormed) {id : ItemId} {cell : Nat}
    {types : List Ty} : ∀ {args : List SupertypeArg} {session : Session}, session.Sound env →
      List.Forall₂ (ArgInstance env session.cells id) args types →
      session.cells.get? cell = none →
      (env.forceAll types session).2.cells.get? cell ≠ none →
      ∃ (position : Nat) (source : TypeExpr) (site : ItemId),
        types[position]? = some (.deferred cell source site) ∧
          ∃ values, env.forcedAll (types.take (position + 1)) = .ok values := by
  induction types with
  | nil =>
      intro args session _ _ unset set
      exact absurd unset set
  | cons type rest ih =>
      intro args session sound instances unset set
      cases instances with
      | cons head tail =>
          rw [forceAll] at set
          rcases set_of_bind set with here | ⟨value, after, forcing, stillUnset, later⟩
          · obtain ⟨source, site, rfl, value, converts⟩ := set_force_argInstance head unset here
            refine ⟨0, source, site, rfl, [value], ?_⟩
            rw [List.take_succ_cons, List.take_zero, forcedAll, converts]
            rfl
          · have ran := runs_force wellFormed sound type head.fits
            have soundAfter : after.Sound env := by simpa [forcing] using ran.invariant
            have defers : session.Defers after := by simpa [forcing] using ran.follows
            have converts : .ok value = env.forced type := by simpa [forcing] using ran.good.1
            rcases set_of_bind later with inRest | ⟨values, last, _, unsetLast, setLast⟩
            · obtain ⟨position, source, site, listed, values, done⟩ := ih soundAfter
                (tail.imp fun _ _ one => one.mono defers.cells) stillUnset inRest
              refine ⟨position + 1, source, site, listed, value :: values, ?_⟩
              rw [List.take_succ_cons, forcedAll, ← converts, done]
              rfl
            · exact absurd unsetLast setLast

/-- Following a supertype sets cells at its front. -/
theorem set_forceEdge (wellFormed : env.tree.WellFormed) {session : Session}
    (sound : session.Sound env) {id : ItemId} {supertype : Supertype} {reference : Reference}
    (given : Instance env session.cells id supertype reference) {cell : Nat}
    (unset : session.cells.get? cell = none)
    (set : (env.forceEdge reference session).2.cells.get? cell ≠ none) :
    reference.Front env cell := by
  have forcing : (env.forceAll reference.args session).2.cells.get? cell ≠ none := by
    unfold forceEdge at set
    rcases set_of_bind set with here | ⟨outcome, after, _, unsetAfter, setAfter⟩
    · rw [attempt_apply] at here
      rcases set_of_bind here with inArgs | ⟨args, after, _, unsetAfter, setAfter⟩
      · exact inArgs
      · exact absurd unsetAfter setAfter
    · cases outcome with
      | ok edge => exact absurd unsetAfter setAfter
      | error fault =>
          cases unresolved : fault.isUnresolved with
          | true =>
              simp only [unresolved, if_true] at setAfter
              exact absurd unsetAfter setAfter
          | false =>
              simp only [unresolved] at setAfter
              exact absurd unsetAfter setAfter
  obtain ⟨position, source, site, listed, converts⟩ :=
    set_forceAll wellFormed sound given.args unset forcing
  exact ⟨position, ⟨source, site, listed⟩, converts⟩

end Environment

/-! ## Sessions in which fields have been gathered -/

namespace Session

/-- A later session in which cells were set at the front of remembered supertypes
alone, and the fields of some items were remembered. -/
structure Gathers (env : Environment) (concerns : ItemId → Prop) (old new : Session) : Prop
    extends Collects old new where
  front : ∀ cell, old.cells.get? cell = none → new.cells.get? cell ≠ none →
    ∃ reference, new.Lists reference ∧ reference.Front env cell
  kept : ∀ id, new.fields.lookup id = none → old.fields.lookup id = none
  added : ∀ id, old.fields.lookup id = none → new.fields.lookup id ≠ none → concerns id

variable {env : Environment} {concerns : ItemId → Prop}

theorem Lists.mono {old new : Session} {reference : Reference} (listed : old.Lists reference)
    (later : old.Grows new) : new.Lists reference := by
  obtain ⟨key, references, remembered, member⟩ := listed
  exact ⟨key, references, later.supertypes key references remembered, member⟩

theorem Gathers.refl (session : Session) : session.Gathers env concerns session where
  toCollects := .refl session
  front _ unset set := absurd unset set
  kept _ unknown := unknown
  added _ unknown known := absurd unknown known

theorem Gathers.trans {first middle last : Session} (early : first.Gathers env concerns middle)
    (late : middle.Gathers env concerns last) : first.Gathers env concerns last where
  toCollects := early.toCollects.trans late.toCollects
  front cell unset set := by
    by_cases between : middle.cells.get? cell = none
    · exact late.front cell between set
    · obtain ⟨reference, listed, isFront⟩ := early.front cell unset between
      exact ⟨reference, listed.mono late.toGrows, isFront⟩
  kept id unknown := early.kept id (late.kept id unknown)
  added id unknown known := by
    by_cases between : middle.fields.lookup id = none
    · exact late.added id between known
    · exact early.added id unknown between

instance : IsPreorder Session (Gathers env concerns) where
  refl := Gathers.refl
  trans _ _ _ := Gathers.trans

/-- While no field lists are remembered, only cells matter. -/
theorem Follows.gathers {old new : Session} (follows : old.Follows new)
    (front : ∀ cell, old.cells.get? cell = none → new.cells.get? cell ≠ none →
      ∃ reference, new.Lists reference ∧ reference.Front env cell) :
    old.Gathers env concerns new where
  toCollects := follows.collects
  front := front
  kept _ unknown := follows.fields ▸ unknown
  added _ unknown known := absurd (follows.fields ▸ unknown) known

end Session

end JavaSymbols

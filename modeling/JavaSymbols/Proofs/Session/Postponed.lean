import JavaSymbols.Fields
import JavaSymbols.Proofs.Resolution.Eager
import JavaSymbols.Proofs.Session.Cells
import JavaSymbols.Proofs.Session.Runs

/-!
# Queries that only put types off

Declarations can be enumerated without any deferred type being looked into.  The
type arguments of supertypes, and the types of fields that do not resolve, go into
cells of their own at the end.  No cell is set on the way, so types that refer to
themselves do no harm.
-/

namespace JavaSymbols

namespace Cells

variable {old new : Cells}

/-- Later cells: all that there were, each just as it was, and others that are not set. -/
structure Appends (old new : Cells) : Prop where
  kept : ∀ (cell : Nat) (content : Cell), old.all[cell]? = some content →
    new.all[cell]? = some content
  unset : ∀ cell, old.size ≤ cell → new.get? cell = none

theorem get?_of_size_le {cells : Cells} {cell : Nat} (outside : cells.size ≤ cell) :
    cells.get? cell = none := by
  have missing : cells.all[cell]? = none := Array.getElem?_eq_none outside
  simp [get?, missing]

theorem Appends.refl (cells : Cells) : cells.Appends cells where
  kept _ _ stored := stored
  unset _ outside := get?_of_size_le outside

/-- What a cell holds, if anything, is not changed. -/
theorem Appends.get?_eq (appends : old.Appends new) (cell : Nat) :
    new.get? cell = old.get? cell := by
  by_cases inside : cell < old.size
  · have stored : old.all[cell]? = some old.all[cell] := Array.getElem?_eq_getElem inside
    rw [get?, get?, stored, appends.kept cell _ stored]
  · have outside : old.size ≤ cell := Nat.le_of_not_lt inside
    rw [appends.unset cell outside, get?_of_size_le outside]

theorem Appends.trans {first middle last : Cells} (early : first.Appends middle)
    (late : middle.Appends last) : first.Appends last where
  kept cell content stored := late.kept cell content (early.kept cell content stored)
  unset cell outside := (late.get?_eq cell).trans (early.unset cell outside)

theorem Appends.size_le (appends : old.Appends new) : old.size ≤ new.size := by
  by_contra shrunk
  have lost : new.size < old.size := Nat.lt_of_not_le shrunk
  have stored : old.all[new.size]? = some old.all[new.size] := Array.getElem?_eq_getElem lost
  have missing : new.all[new.size]? = none := Array.getElem?_eq_none (Nat.le_refl _)
  cases missing.symm.trans (appends.kept _ _ stored)

/-- The cells for another written type come after all others. -/
theorem appends_grow (cells : Cells) (source : TypeExpr) (site : ItemId) :
    cells.Appends (cells.grow source site) where
  kept cell content stored := by
    obtain ⟨inside, _⟩ := Array.getElem?_eq_some_iff.mp stored
    simpa [grow, Array.getElem?_push, Nat.ne_of_lt inside] using stored
  unset cell outside := by rw [get?_grow, get?_of_size_le outside]

end Cells

/-! ## Deferred parts -/

/-- A deferred part of a type: its cell, and what is to be converted where. -/
structure Deferral where
  cell : Nat
  source : TypeExpr
  site : ItemId
  deriving DecidableEq

/-- The deferred part has a cell that the old cells do not have, and the new ones have
unset. -/
structure Deferral.Fresh (old new : Cells) (part : Deferral) : Prop where
  later : old.size ≤ part.cell
  waits : new.all[part.cell]? = some ⟨part.source, part.site, none⟩

theorem Deferral.Fresh.mono {low old new : Cells} {part : Deferral} (fresh : part.Fresh low old)
    (onward : old.Appends new) : part.Fresh low new :=
  ⟨fresh.later, onward.kept _ _ fresh.waits⟩

namespace Ty

mutual

/-- The deferred parts of a type, from left to right. -/
def deferrals : Ty → List Deferral
  | reference _ _ args => allDeferrals args
  | array component => component.deferrals
  | upperBounded bound => bound.deferrals
  | lowerBounded bound => bound.deferrals
  | deferred cell source site => [⟨cell, source, site⟩]
  | primitive _ => []
  | void => []
  | null => []
  | typeVar _ => []
  | wildcard => []

/-- The deferred parts of all types of a list. -/
def allDeferrals : List Ty → List Deferral
  | [] => []
  | type :: rest => type.deferrals ++ allDeferrals rest

end

theorem allDeferrals_eq_flatMap (types : List Ty) :
    allDeferrals types = types.flatMap deferrals := by
  induction types with
  | nil => rfl
  | cons type rest ih => rw [allDeferrals, ih, List.flatMap_cons]

mutual

/-- A type without deferred parts has none of them. -/
theorem deferrals_of_isEager : (type : Ty) → type.isEager = true → type.deferrals = []
  | reference _ _ args, eager => allDeferrals_of_allEager args eager
  | array component, eager => deferrals_of_isEager component eager
  | upperBounded bound, eager => deferrals_of_isEager bound eager
  | lowerBounded bound, eager => deferrals_of_isEager bound eager
  | deferred _ _ _, eager => by simp [isEager] at eager
  | primitive _, _ => rfl
  | void, _ => rfl
  | null, _ => rfl
  | typeVar _, _ => rfl
  | wildcard, _ => rfl

theorem allDeferrals_of_allEager : (types : List Ty) → allEager types = true →
    allDeferrals types = []
  | [], _ => rfl
  | type :: rest, eager => by
      rw [allEager, Bool.and_eq_true] at eager
      rw [allDeferrals, deferrals_of_isEager type eager.1, allDeferrals_of_allEager rest eager.2,
        List.append_nil]

end

mutual

/-- The deferred parts of a type that fits have cells that wait for them. -/
theorem Fits.holds {cells : Cells} : (type : Ty) → type.Fits cells →
    ∀ part ∈ type.deferrals, cells.Holds part.cell part.source part.site
  | reference _ _ args, fits => AllFit.holds args fits
  | array component, fits => Fits.holds component fits
  | upperBounded bound, fits => Fits.holds bound fits
  | lowerBounded bound, fits => Fits.holds bound fits
  | deferred _ _ _, fits => fun _ member => List.mem_singleton.mp member ▸ fits
  | primitive _, _ => nofun
  | void, _ => nofun
  | null, _ => nofun
  | typeVar _, _ => nofun
  | wildcard, _ => nofun

theorem AllFit.holds {cells : Cells} : (types : List Ty) → AllFit cells types →
    ∀ part ∈ allDeferrals types, cells.Holds part.cell part.source part.site
  | [], _ => nofun
  | type :: rest, fit => fun part member => by
      rcases List.mem_append.mp member with here | later
      · exact Fits.holds type fit.1 part here
      · exact AllFit.holds rest fit.2 part later

end

end Ty

/-- The deferred parts of the type arguments of a reference. -/
def Reference.deferrals (reference : Reference) : List Deferral :=
  Ty.allDeferrals reference.args

/-- The deferred parts of references, of which there are none if these are converted
types. -/
theorem deferrals_of_eager {references : List Reference}
    (eager : ∀ reference ∈ references, reference.Eager) :
    references.flatMap Reference.deferrals = [] := by
  rw [List.flatMap_eq_nil_iff]
  intro reference member
  exact Ty.allDeferrals_of_allEager reference.args (eager reference member)

/-- The deferred parts of the type of a field. -/
def Field.deferrals (field : Field) : List Deferral :=
  field.type.deferrals

/-! ## Putting types off -/

/-- A later session, in which cells were added and none was set. -/
def Session.Postpones (old new : Session) : Prop :=
  old.cells.Appends new.cells

instance : IsPreorder Session Session.Postpones where
  refl session := Cells.Appends.refl session.cells
  trans _ _ _ := Cells.Appends.trans

namespace Query

variable {α β : Type} {low : Cells} {session : Session}

/-- All deferred parts have cells after the old ones, and these are not set. -/
def AllFresh (low : Cells) (parts : α → List Deferral) (session : Session) (value : α) : Prop :=
  ∀ part ∈ parts value, part.Fresh low session.cells

theorem AllFresh.mono {parts : α → List Deferral} {old new : Session} {value : α}
    (fresh : AllFresh low parts old value) (onward : old.Postpones new) :
    AllFresh low parts new value :=
  fun part member => (fresh part member).mono onward

theorem allFresh_nil {parts : α → List Deferral} {value : α} (none : parts value = []) :
    AllFresh low parts session value := by
  rw [AllFresh, none]
  nofun

/-- The query sets no cell, and puts what is deferred in its value into new cells.  Cells
count as new from any earlier time on, so that queries can be run one after another. -/
abbrev Postpones (query : Query α) (parts : α → List Deferral) : Prop :=
  ∀ (low : Cells) (session : Session), low.Appends session.cells →
    Runs (fun session => low.Appends session.cells) Session.Postpones session query
      (OnValue (AllFresh low parts))

theorem postpones_pure {parts : α → List Deferral} {value : α} (none : parts value = []) :
    (pure value : Query α).Postpones parts := by
  intro low session above
  apply runs_pure above
  rintro _ ⟨⟩
  exact allFresh_nil none

theorem postpones_fail {parts : α → List Deferral} (fault : Fault) :
    (fail fault : Query α).Postpones parts := by
  intro low session above
  apply runs_fail above
  rintro _ ⟨⟩

/-- A computation on its own changes no cell. -/
theorem postpones_ofTraced {parts : α → List Deferral} {run : Traced α}
    (none : run.Yields fun value => parts value = []) : (ofTraced run).Postpones parts := by
  intro low session above
  refine runs_ofTraced above (Cells.Appends.refl _) ?_
  intro value done
  exact allFresh_nil (none value done)

/-- A computation on its own, when there are no types in its values. -/
theorem postpones_lift (run : Traced α) : (ofTraced run).Postpones fun _ => [] :=
  postpones_ofTraced fun _ _ => rfl

theorem postpones_postpone (source : TypeExpr) (site : ItemId) :
    (postpone source site).Postpones Ty.deferrals := by
  intro low session above
  have grown := Cells.appends_grow session.cells source site
  refine ⟨above.trans grown, grown, ?_⟩
  rintro _ ⟨⟩ part member
  rw [List.mem_singleton.mp member]
  exact ⟨above.size_le, by simp [postpone, Cells.grow, Cells.size]⟩

/-- One query after another, when the values of the first have no deferred parts. -/
theorem Postpones.after {first : Query α} {next : α → Query β} {parts : β → List Deferral}
    (head : first.Postpones fun _ => []) (tail : ∀ value, (next value).Postpones parts) :
    (first >>= next).Postpones parts := by
  intro low session above
  refine (head low session above).bind_value ?_
  intro after value aboveToo _ _
  exact tail value low after aboveToo

/-- A value that is made of another one has its deferred parts. -/
theorem Postpones.map {first : Query α} {change : α → β} {held : α → List Deferral}
    {parts : β → List Deferral} (head : first.Postpones held)
    (same : ∀ value, ∀ part ∈ parts (change value), part ∈ held value) :
    (first >>= fun value => pure (change value)).Postpones parts := by
  intro low session above
  refine (head low session above).bind_value ?_
  intro after value aboveToo _ fresh
  apply runs_pure aboveToo
  rintro _ ⟨⟩ part member
  exact fresh part (same value part member)

theorem postpones_mapM {query : α → Query β} {parts : β → List Deferral}
    (each : ∀ entry, (query entry).Postpones parts) (entries : List α) :
    (entries.mapM query).Postpones fun values => values.flatMap parts := by
  intro low session above
  have all : Runs (fun session => low.Appends session.cells) Session.Postpones session
      (entries.mapM query)
      (Judged (fun _ => True) fun after values =>
        ∀ value ∈ values, AllFresh low parts after value) := by
    apply runs_mapM_judged above fun _ _ _ onward fresh => fresh.mono onward
    intro entry _ after aboveToo _
    exact (each entry low after aboveToo).mono fun _ _ _ _ fresh => ⟨fun _ _ => trivial, fresh⟩
  apply all.mono
  rintro after outcome _ _ judged values done part member
  obtain ⟨value, listed, inValue⟩ := List.mem_flatMap.mp member
  exact judged.value values done value listed part inValue

end Query

namespace Environment

open Query

variable (env : Environment)

/-- A converted type has no deferred parts. -/
theorem deferrals_convert (item : ItemId) (source : TypeExpr) :
    (env.convert item source).Yields fun type => type.deferrals = [] :=
  fun type done => Ty.deferrals_of_isEager type (env.eager_convertAt ⟨item, none⟩ source type done)

/-! ## Supertypes -/

theorem postpones_instantiateArg (id : ItemId) (arg : SupertypeArg) :
    (env.instantiateArg id arg).Postpones Ty.deferrals := by
  cases arg with
  | written source => exact postpones_postpone source id
  | self => exact postpones_pure rfl

/-- Type arguments of supertypes are put off. -/
theorem postpones_instantiate (id : ItemId) (supertype : Supertype) :
    (env.instantiate id supertype).Postpones Reference.deferrals := by
  apply (postpones_mapM (env.postpones_instantiateArg id) supertype.args).map
  intro args part member
  rwa [Reference.deferrals, Ty.allDeferrals_eq_flatMap] at member

theorem postpones_clauseReference (id : ItemId) (clause : ClassExpr) :
    (env.clauseReference id clause).Postpones Reference.deferrals := by
  apply (postpones_lift (env.clauseSupertype id clause)).after
  exact env.postpones_instantiate id

theorem postpones_superclassOf (decl : Decl) :
    (env.superclassOf decl).Postpones fun found => found.toList.flatMap Reference.deferrals := by
  cases decl with
  | parameter param => exact postpones_pure rfl
  | item id =>
      apply (postpones_lift (env.superclass id)).after
      intro found
      cases found with
      | none => exact postpones_pure rfl
      | some supertype =>
          apply (env.postpones_instantiate id supertype).map
          intro reference part member
          simpa using member

theorem postpones_interfacesOf (decl : Decl) :
    (env.interfacesOf decl).Postpones fun found => found.flatMap Reference.deferrals := by
  cases decl with
  | item id => exact postpones_mapM (env.postpones_clauseReference id) _
  | parameter param =>
      apply postpones_ofTraced
      intro found done
      exact deferrals_of_eager (env.eager_referenceBoundsOf param found done)

/-- The direct ancestors of an item, when they are not remembered yet. -/
theorem runs_itemAncestors_anew {low : Cells} {session : Session}
    (above : low.Appends session.cells) {id : ItemId} {lenient : Bool}
    (unknown : session.supertypes.lookup (id, lenient) = none) :
    Runs (fun session => low.Appends session.cells) Session.Postpones session
      (env.itemAncestors id lenient)
      (OnValue (AllFresh low fun found => found.flatMap Reference.deferrals)) := by
  apply Runs.bind_current
  rw [unknown]
  refine (postpones_lift (env.supertypesOf id lenient) low session above).bind_value ?_
  intro after found aboveToo _ _
  refine (postpones_mapM (env.postpones_instantiate id) found low after aboveToo).bind_value ?_
  intro last ancestors aboveLast _ fresh
  -- remembering the list is no change to the cells
  exact ⟨aboveLast, Cells.Appends.refl _, by rintro _ ⟨⟩; exact fresh⟩

theorem itemAncestors_of_remembered {session : Session} {id : ItemId} {lenient : Bool}
    {remembered : List Reference}
    (known : session.supertypes.lookup (id, lenient) = some remembered) :
    env.itemAncestors id lenient session = (.ok remembered, session) := by
  rw [itemAncestors, bind_apply, current_apply]
  simp only [known, pure_apply]

/-! ## Fields -/

/-- The type of a field is converted, or put off as a whole. -/
theorem postpones_memberType (item : ItemId) (source : TypeExpr) :
    (env.memberType item source).Postpones Ty.deferrals := by
  intro low session above
  have converted : (ofTraced (env.convert item source)).Postpones Ty.deferrals :=
    postpones_ofTraced (env.deferrals_convert item source)
  refine (converted low session above).attempt.bind (by rintro _ _ _ ⟨_, ⟨⟩, _⟩) ?_
  rintro after outcome aboveToo _ ⟨_, ⟨⟩, fresh⟩
  cases outcome with
  | ok type => exact runs_pure aboveToo fresh
  | error fault =>
      cases unresolved : fault.isUnresolved with
      | true =>
          simp only [unresolved, if_true]
          have postponing := (postpones_lift (Traced.report (.memberTypeKept source fault))).after
            fun _ => postpones_postpone source item
          exact postponing low after aboveToo
      | false =>
          simp only [unresolved]
          exact postpones_fail fault low after aboveToo

theorem postpones_bodyFields (item : ItemId) (inInterface : Bool) :
    (env.bodyFields item inInterface).Postpones fun fields => fields.flatMap Field.deferrals := by
  apply postpones_mapM
  intro field
  exact (env.postpones_memberType item field.type).map fun _ _ member => member

theorem postpones_componentFields (item : ItemId) :
    (env.componentFields item).Postpones fun fields => fields.flatMap Field.deferrals := by
  apply postpones_mapM
  intro component
  exact (env.postpones_memberType item component.type).map fun _ _ member => member

theorem deferrals_constantFields (item : ItemId) (names : List String) :
    (names.map (env.constantField item)).flatMap Field.deferrals = [] := by
  rw [List.flatMap_eq_nil_iff]
  intro field member
  obtain ⟨name, _, rfl⟩ := List.mem_map.mp member
  rfl

/-- Asking for the fields of one body sets no cell. -/
theorem postpones_declaredFields (item : ItemId) :
    (env.declaredFields item).Postpones fun fields => fields.flatMap Field.deferrals := by
  unfold declaredFields
  cases (env.tree.decl item).kind with
  | classType => exact env.postpones_bodyFields item false
  | interfaceType => exact env.postpones_bodyFields item true
  | annotationType => exact env.postpones_bodyFields item true
  | enumType =>
      apply (env.postpones_bodyFields item false).map
      intro body part member
      rwa [List.flatMap_append, env.deferrals_constantFields, List.nil_append] at member
  | recordType =>
      intro low session above
      refine (env.postpones_componentFields item low session above).bind_value ?_
      intro after components aboveToo _ freshComponents
      refine (env.postpones_bodyFields item false low after aboveToo).bind_value ?_
      intro last body aboveLast onward freshBody
      apply runs_pure aboveLast
      rintro _ ⟨⟩ part member
      simp only [List.flatMap_append, List.mem_append] at member
      rcases member with inComponents | inBody
      · exact freshComponents.mono onward part inComponents
      · exact freshBody part inBody

theorem postpones_declaredFieldsOf (decl : Decl) :
    (env.declaredFieldsOf decl).Postpones fun fields => fields.flatMap Field.deferrals := by
  cases decl with
  | item id => exact env.postpones_declaredFields id
  | parameter param => exact postpones_pure rfl

end Environment

end JavaSymbols

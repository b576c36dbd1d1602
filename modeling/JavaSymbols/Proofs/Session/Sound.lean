import JavaSymbols.Ancestors
import JavaSymbols.Proofs.Session.Cells
import JavaSymbols.Proofs.Session.Runs

/-!
# Sound sessions

A session is sound when its cells are and when every remembered supertype list
is an instance of what the tree gives: the same supertypes in the same order,
with a cell of its own for each written type argument.

Sessions only grow.  Two kinds of growth are told apart, by whether fields may
have been collected in between.
-/

namespace JavaSymbols

/-! ## Instances of supertypes -/

/-- A type argument of a supertype of an item, as it stands in a reference. -/
inductive ArgInstance (env : Environment) (cells : Cells) (id : ItemId) :
    SupertypeArg → Ty → Prop where
  | written {source : TypeExpr} {cell : Nat} (held : cells.Holds cell source id) :
      ArgInstance env cells id (.written source) (.deferred cell source id)
  | self : ArgInstance env cells id .self (env.rawReference id).toTy

/-- A supertype of an item as a reference. -/
structure Instance (env : Environment) (cells : Cells) (id : ItemId) (supertype : Supertype)
    (reference : Reference) : Prop where
  item : reference.item = supertype.item
  name : reference.name = supertype.name
  args : List.Forall₂ (ArgInstance env cells id) supertype.args reference.args

/-- The type argument at a position of a reference is deferred. -/
def Reference.DefersAt (reference : Reference) (position cell : Nat) : Prop :=
  ∃ source site, reference.args[position]? = some (.deferred cell source site)

section

variable {env : Environment} {old new cells : Cells} {id : ItemId}

theorem ArgInstance.mono {arg : SupertypeArg} {type : Ty} (given : ArgInstance env old id arg type)
    (later : old.Extends new) : ArgInstance env new id arg type := by
  cases given with
  | written held => exact .written (later.holds _ _ _ held)
  | self => exact .self

theorem Instance.mono {supertype : Supertype} {reference : Reference}
    (given : Instance env old id supertype reference) (later : old.Extends new) :
    Instance env new id supertype reference where
  item := given.item
  name := given.name
  args := given.args.imp fun _ _ arg => arg.mono later

theorem ArgInstance.fits {arg : SupertypeArg} {type : Ty}
    (given : ArgInstance env cells id arg type) : type.Fits cells := by
  cases given with
  | written held => exact held
  | self => exact trivial

theorem Instance.holds {supertype : Supertype} {reference : Reference}
    (given : Instance env cells id supertype reference) {position cell : Nat}
    {source : TypeExpr} {site : ItemId}
    (deferred : reference.args[position]? = some (.deferred cell source site)) :
    site = id ∧ supertype.args[position]? = some (.written source) ∧
      cells.Holds cell source id := by
  obtain ⟨inside, same⟩ := List.getElem?_eq_some_iff.mp deferred
  have insideArgs : position < supertype.args.length := given.args.length_eq ▸ inside
  have arg := List.Forall₂.get given.args insideArgs inside
  rw [List.get_eq_getElem, List.get_eq_getElem, same] at arg
  rw [List.getElem?_eq_getElem insideArgs]
  generalize supertype.args[position] = written at arg
  cases arg with
  | written held => exact ⟨rfl, rfl, held⟩

theorem allFit_of_argInstances {args : List SupertypeArg} {types : List Ty}
    (instances : List.Forall₂ (ArgInstance env cells id) args types) : Ty.AllFit cells types := by
  induction instances with
  | nil => exact trivial
  | cons head _ ih => exact ⟨head.fits, ih⟩

theorem Instance.fits {supertype : Supertype} {reference : Reference}
    (given : Instance env cells id supertype reference) : reference.Fits cells :=
  allFit_of_argInstances given.args

theorem fits_of_instances {found : List Supertype} {references : List Reference}
    (instances : List.Forall₂ (Instance env cells id) found references) :
    ∀ reference ∈ references, reference.Fits cells := by
  induction instances with
  | nil => exact nofun
  | cons head _ ih => exact List.forall_mem_cons.mpr ⟨head.fits, ih⟩

end

namespace Session

/-- A later session: cells and remembered supertype lists are kept. -/
structure Grows (old new : Session) : Prop where
  cells : old.cells.Extends new.cells
  supertypes : ∀ key references, old.supertypes.lookup key = some references →
    new.supertypes.lookup key = some references

/-- A later session that differs in cells and events alone. -/
structure Defers (old new : Session) : Prop where
  cells : old.cells.Extends new.cells
  supertypes : new.supertypes = old.supertypes
  fields : new.fields = old.fields
  expanding : new.expanding = old.expanding
  cuts : new.cuts = old.cuts

/-- A later session, with no fields collected in between. -/
structure Follows (old new : Session) : Prop extends Grows old new where
  fields : new.fields = old.fields
  expanding : new.expanding = old.expanding
  cuts : new.cuts = old.cuts

/-- A later session, with fields possibly collected in between. -/
structure Collects (old new : Session) : Prop extends Grows old new where
  expanding : new.expanding = old.expanding
  cuts : old.cuts ≤ new.cuts

theorem Grows.refl (session : Session) : session.Grows session where
  cells := .refl _
  supertypes _ _ found := found

theorem Grows.trans {first middle last : Session} (early : first.Grows middle)
    (late : middle.Grows last) : first.Grows last where
  cells := early.cells.trans late.cells
  supertypes key references found :=
    late.supertypes key references (early.supertypes key references found)

theorem Defers.refl (session : Session) : session.Defers session where
  cells := .refl _
  supertypes := rfl
  fields := rfl
  expanding := rfl
  cuts := rfl

theorem Defers.trans {first middle last : Session} (early : first.Defers middle)
    (late : middle.Defers last) : first.Defers last where
  cells := early.cells.trans late.cells
  supertypes := late.supertypes.trans early.supertypes
  fields := late.fields.trans early.fields
  expanding := late.expanding.trans early.expanding
  cuts := late.cuts.trans early.cuts

theorem Defers.follows {old new : Session} (defers : old.Defers new) : old.Follows new where
  cells := defers.cells
  supertypes _ _ found := defers.supertypes ▸ found
  fields := defers.fields
  expanding := defers.expanding
  cuts := defers.cuts

theorem Follows.refl (session : Session) : session.Follows session where
  toGrows := .refl _
  fields := rfl
  expanding := rfl
  cuts := rfl

theorem Follows.trans {first middle last : Session} (early : first.Follows middle)
    (late : middle.Follows last) : first.Follows last where
  toGrows := early.toGrows.trans late.toGrows
  fields := late.fields.trans early.fields
  expanding := late.expanding.trans early.expanding
  cuts := late.cuts.trans early.cuts

theorem Collects.refl (session : Session) : session.Collects session where
  toGrows := .refl _
  expanding := rfl
  cuts := Nat.le_refl _

theorem Collects.trans {first middle last : Session} (early : first.Collects middle)
    (late : middle.Collects last) : first.Collects last where
  toGrows := early.toGrows.trans late.toGrows
  expanding := late.expanding.trans early.expanding
  cuts := Nat.le_trans early.cuts late.cuts

theorem Follows.collects {old new : Session} (follows : old.Follows new) : old.Collects new where
  toGrows := follows.toGrows
  expanding := follows.expanding
  cuts := Nat.le_of_eq follows.cuts.symm

instance : IsPreorder Session Defers where
  refl := Defers.refl
  trans _ _ _ := Defers.trans

instance : IsPreorder Session Follows where
  refl := Follows.refl
  trans _ _ _ := Follows.trans

instance : IsPreorder Session Collects where
  refl := Collects.refl
  trans _ _ _ := Collects.trans

/-- A reference is in one of the remembered supertype lists. -/
def Lists (session : Session) (reference : Reference) : Prop :=
  ∃ key references, session.supertypes.lookup key = some references ∧ reference ∈ references

/-- The cells hold conversions, the remembered supertype lists are those of the
tree, and each deferred argument in them has a cell of its own. -/
structure Sound (env : Environment) (session : Session) : Prop where
  cells : session.cells.Sound env
  supertypes : ∀ id lenient references,
    session.supertypes.lookup (id, lenient) = some references →
      id < env.tree.size ∧ ∃ found, (env.supertypesOf id lenient).outcome = .ok found ∧
        List.Forall₂ (Instance env session.cells id) found references
  unshared : ∀ first second position other cell, session.Lists first → session.Lists second →
    first.DefersAt position cell → second.DefersAt other cell →
      first = second ∧ position = other

theorem sound_start (env : Environment) : Session.start.Sound env where
  cells := Cells.sound_empty
  supertypes _ _ _ found := by simp [start] at found
  unshared := by
    rintro _ _ _ _ _ ⟨_, _, found, _⟩
    simp [start] at found

variable {env : Environment} {session : Session}

/-- The cells of remembered references exist. -/
theorem Sound.lt_of_lists (sound : session.Sound env) {reference : Reference}
    (listed : session.Lists reference) {position cell : Nat}
    (defers : reference.DefersAt position cell) : cell < session.cells.size := by
  obtain ⟨⟨id, lenient⟩, references, remembered, member⟩ := listed
  obtain ⟨_, found, _, instances⟩ := sound.supertypes id lenient references remembered
  obtain ⟨index, bound, rfl⟩ := List.getElem_of_mem member
  have boundFound : index < found.length := instances.length_eq ▸ bound
  have given := List.Forall₂.get instances boundFound bound
  obtain ⟨source, site, deferred⟩ := defers
  obtain ⟨value, stored⟩ := (given.holds deferred).2.2
  exact (Array.getElem?_eq_some_iff.mp stored).1

/-- Soundness is about cells and remembered supertypes alone. -/
theorem Sound.congr (sound : session.Sound env) {other : Session}
    (sameCells : other.cells = session.cells)
    (sameSupertypes : other.supertypes = session.supertypes) : other.Sound env where
  cells := sameCells ▸ sound.cells
  supertypes := by
    rw [sameCells, sameSupertypes]
    exact sound.supertypes
  unshared := by
    simp only [Lists, sameSupertypes]
    exact sound.unshared

/-- Soundness survives changes to the cells that keep them sound. -/
theorem Sound.withCells (sound : session.Sound env) {cells : Cells} (kept : cells.Sound env)
    (later : session.cells.Extends cells) : Sound env { session with cells := cells } where
  cells := kept
  supertypes id lenient references remembered := by
    obtain ⟨inside, found, given, instances⟩ := sound.supertypes id lenient references remembered
    exact ⟨inside, found, given, instances.imp fun _ _ one => one.mono later⟩
  unshared := sound.unshared

theorem defers_withCells {cells : Cells} (later : session.cells.Extends cells) :
    session.Defers { session with cells := cells } where
  cells := later
  supertypes := rfl
  fields := rfl
  expanding := rfl
  cuts := rfl

/-- Cells and remembered supertype lists are all that growing is about. -/
theorem grows_of_same {other : Session} (sameCells : other.cells = session.cells)
    (sameSupertypes : other.supertypes = session.supertypes) : session.Grows other where
  cells := sameCells ▸ .refl _
  supertypes _ _ found := sameSupertypes ▸ found

theorem defers_withEvents (events : List Event) :
    session.Defers { session with events := events } where
  cells := .refl _
  supertypes := rfl
  fields := rfl
  expanding := rfl
  cuts := rfl

end Session

namespace Environment

/-- Using an id of the tree does nothing. -/
theorem known_then {α : Type} {env : Environment} {id : Nat} (inside : id < env.tree.size)
    (next : Query α) :
    (do
      env.known id
      next) = next := by
  change (Query.ofTraced (env.known id) >>= fun _ => next) = next
  rw [known_of_lt inside, Query.ofTraced_pure, pure_bind]

end Environment

namespace Query

open Session

variable {α β : Type} {env : Environment} {session : Session}

/-- A computation on its own changes nothing but events. -/
theorem runs_traced (sound : session.Sound env) (run : Traced α)
    {good : Session → Except Fault α → Prop}
    (holds : ∀ events, good { session with events := events } run.outcome) :
    Runs (Sound env) Defers session (ofTraced run) good :=
  runs_ofTraced (sound.congr rfl rfl) (defers_withEvents _) (holds _)

/-- A computation on its own has its outcome in any session. -/
theorem runs_lift (sound : session.Sound env) (run : Traced α) :
    Runs (Sound env) Defers session (run : Query α) fun after outcome =>
      session.Defers after ∧ outcome = run.outcome :=
  runs_traced sound run fun events => ⟨defers_withEvents events, rfl⟩

/-- The check of a known id passes for items of the tree. -/
theorem runs_known (sound : session.Sound env) {id : ItemId} (inside : id < env.tree.size) :
    Runs (Sound env) Defers session (env.known id : Query Unit) fun after outcome =>
      session.Defers after ∧ outcome = .ok () := by
  rw [← Environment.outcome_known inside]
  exact runs_lift sound (env.known id)

theorem runs_report (sound : session.Sound env) (event : Event)
    {good : Session → Except Fault Unit → Prop}
    (holds : ∀ events, good { session with events := events } (.ok ())) :
    Runs (Sound env) Defers session (report event) good :=
  runs_traced sound (Traced.report event) holds

/-- Putting a conversion off gives a type that fits the cells. -/
theorem runs_postpone (sound : session.Sound env) (source : TypeExpr) {site : ItemId}
    (inside : site < env.tree.size) {good : Session → Except Fault Ty → Prop}
    (holds : ∀ after cell, after.cells.Holds cell source site →
      good after (.ok (.deferred cell source site))) :
    Runs (Sound env) Defers session (postpone source site) good where
  invariant := sound.withCells (sound.cells.grow inside) (Cells.extends_grow source site)
  follows := defers_withCells (Cells.extends_grow source site)
  good := holds _ _ (Cells.holds_grow source site)

/-- Setting a cell to the conversion of what it waits for. -/
theorem runs_settleCell (sound : session.Sound env) {cell : Nat} {source : TypeExpr}
    {site : ItemId} {type : Ty} (held : session.cells.Holds cell source site)
    (unset : session.cells.get? cell = none)
    (converts : (env.convert site source).outcome = .ok type) :
    Runs (Sound env) Defers session (settleCell cell type) fun after outcome =>
      outcome = .ok () ∧ after.cells.get? cell = some type where
  invariant := sound.withCells (sound.cells.set held converts) (Cells.extends_set unset)
  follows := defers_withCells (Cells.extends_set unset)
  good := by
    obtain ⟨content, stored⟩ := held
    have inside : cell < session.cells.size := (Array.getElem?_eq_some_iff.mp stored).1
    exact ⟨rfl, by simp [settleCell, Cells.get?_set, inside]⟩

/-- A query that passes over a missing name, with a report, and over no other
fault. -/
theorem Runs.recover {query : Query α} {handle : Except Fault α → Query β}
    {good : Session → Except Fault α → Prop} {fine : Session → Except Fault β → Prop}
    (event : Fault → Event) (instead : Query β)
    (handles : ∀ fault, handle (.error fault) =
      if fault.isUnresolved then do
        report (event fault)
        instead
      else fail fault)
    (head : Runs (Sound env) Defers session query good)
    (value : ∀ after value, Sound env after → session.Defers after → good after (.ok value) →
      Runs (Sound env) Defers after (handle (.ok value)) fine)
    (hard : ∀ after fault, fault.isUnresolved = false → good after (.error fault) →
      fine after (.error fault))
    (soft : ∀ after fault events, Sound env after → session.Defers after →
      fault.isUnresolved = true → good after (.error fault) →
      Runs (Sound env) Defers { after with events := events } instead fine) :
    Runs (Sound env) Defers session (query.attempt >>= handle) fine := by
  refine head.attempt.bind ?_ ?_
  · rintro after cause _ ⟨inner, same, _⟩
    cases same
  · rintro after outcome sound defers ⟨inner, same, reached⟩
    cases same
    cases outcome with
    | ok result => exact value after result sound defers reached
    | error fault =>
        rw [handles]
        cases unresolved : fault.isUnresolved with
        | false => exact runs_fail sound (hard after fault unresolved reached)
        | true =>
            have reported : Runs (Sound env) Defers after (report (event fault))
                fun last outcome => outcome = .ok () ∧
                  ∃ events, last = { after with events := events } :=
              runs_report sound _ fun events => ⟨rfl, events, rfl⟩
            refine reported.bind ?_ ?_
            · rintro last cause _ ⟨failed, _⟩
              cases failed
            · rintro last _ _ _ ⟨_, events, rfl⟩
              exact soft after fault events sound defers unresolved reached

theorem Runs.follows_of_defers {invariant : Session → Prop} {query : Query α}
    {good : Session → Except Fault α → Prop}
    (runs : Runs invariant Defers session query good) :
    Runs invariant Follows session query good where
  invariant := runs.invariant
  follows := runs.follows.follows
  good := runs.good

theorem Runs.collects {invariant : Session → Prop} {query : Query α}
    {good : Session → Except Fault α → Prop}
    (runs : Runs invariant Follows session query good) :
    Runs invariant Collects session query good where
  invariant := runs.invariant
  follows := runs.follows.collects
  good := runs.good

end Query

end JavaSymbols

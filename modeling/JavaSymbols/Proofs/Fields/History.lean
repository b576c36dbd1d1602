import Mathlib.Logic.Function.Basic
import JavaSymbols.Proofs.Fields.Chains
import JavaSymbols.Proofs.Fields.Schedules
import JavaSymbols.Proofs.Session.Questions

/-!
# What a history of questions looks through

Every type that a session remembers for an inherited field is the type under some
schedule: at each item of the chain, the deferred arguments that are looked
through are those that had been converted when the fields of the item were
collected.  Such schedules are among those that can come about.
-/

namespace JavaSymbols

open Relation Session

namespace Ty

variable {linked : Nat → Nat → TypeExpr → ItemId → Prop} {cells : Cells}

mutual

/-- A type whose deferred parts correspond to cells that wait for them fits. -/
theorem fits_of_alike (held : ∀ cell position source site, linked cell position source site →
    cells.Holds cell source site) {a b : Ty} : a.Alike linked b → a.Fits cells
  | .deferred corresponds => held _ _ _ _ corresponds
  | @Alike.reference _ _ _ args _ alike => (allFit_of_allAlike held alike : AllFit cells args)
  | @Alike.array _ component _ alike => (fits_of_alike held alike : component.Fits cells)
  | @Alike.upperBounded _ bound _ alike => (fits_of_alike held alike : bound.Fits cells)
  | @Alike.lowerBounded _ bound _ alike => (fits_of_alike held alike : bound.Fits cells)
  | .primitive _ => trivial
  | .typeVar _ => trivial
  | .void => trivial
  | .null => trivial
  | .wildcard => trivial

theorem allFit_of_allAlike (held : ∀ cell position source site, linked cell position source site →
    cells.Holds cell source site) {types others : List Ty} :
    AllAlike linked types others → AllFit cells types
  | .nil => trivial
  | .cons head tail => ⟨fits_of_alike held head, allFit_of_allAlike held tail⟩

end

end Ty

namespace Environment

variable {env : Environment} {low middle last session : Session}

/-! ## Types that schedules explain -/

/-- A cell of a session and a position of a supertype correspond: the cell waits
for something that does not convert, or it is that of the argument at the position
of the reference chosen for a supertype of the chain. -/
def Linked (env : Environment) (cells : Cells) (chain : List (ItemId × Supertype))
    (choice : ItemId → Reference) (cell position : Nat) (source : TypeExpr) (site : ItemId) :
    Prop :=
  cells.Holds cell source site ∧
    ((∃ fault, (env.convert site source).outcome = .error fault) ∨
      ∃ link ∈ chain, env.Open link ∧ link.1 = site ∧
        (choice site).args[position]? = some (.deferred cell source site))

/-- A reference chosen for a supertype of an item is remembered for it. -/
def Chosen (env : Environment) (session : Session) (link : ItemId × Supertype)
    (reference : Reference) : Prop :=
  ∃ references, session.supertypes.lookup (link.1, true) = some references ∧
    reference ∈ references ∧ Instance env session.cells link.1 link.2 reference

/-- A type of an entry is, up to cells, the one under a schedule. -/
structure Explained (env : Environment) (session : Session) (schedule : Schedule)
    (choice : ItemId → Reference) (entry : Entry) (type : Ty) : Prop where
  chosen : ∀ link ∈ entry.chain, env.Chosen session link (choice link.1)
  settled : ∀ link ∈ entry.chain, env.Open link →
    PrefixSettled env session.cells (choice link.1).args
  alike : type.Alike (env.Linked session.cells entry.chain choice)
    (env.scheduledType schedule entry)

theorem Chosen.mono {old new : Session} {link : ItemId × Supertype} {reference : Reference}
    (chosen : env.Chosen old link reference) (later : old.Grows new) :
    env.Chosen new link reference := by
  obtain ⟨references, remembered, listed, given⟩ := chosen
  exact ⟨references, later.supertypes _ _ remembered, listed, given.mono later.cells⟩

theorem Explained.mono {old new : Session} {schedule : Schedule} {choice : ItemId → Reference}
    {entry : Entry} {type : Ty} (explained : env.Explained old schedule choice entry type)
    (wellFormed : env.tree.WellFormed) (sound : old.Sound env) (later : old.Grows new) :
    env.Explained new schedule choice entry type where
  chosen link listed := (explained.chosen link listed).mono later
  settled link listed isOpen := by
    obtain ⟨references, _, _, given⟩ := explained.chosen link listed
    exact (explained.settled link listed isOpen).mono wellFormed sound.cells given.fits later.cells
  alike := by
    apply Ty.Alike.mono _ explained.alike
    rintro cell position source site ⟨held, why⟩
    exact ⟨later.cells.holds cell source site held, why⟩

/-- Forcing a type gives what forcing the type under its schedule gives. -/
theorem Explained.forced_eq {schedule : Schedule} {choice : ItemId → Reference} {entry : Entry}
    {type : Ty} (explained : env.Explained session schedule choice entry type) :
    env.forced type = env.forced (env.scheduledType schedule entry) :=
  forced_of_alike explained.alike

/-- Only what is looked through at the items of a chain matters. -/
theorem Explained.reschedule {schedule next : Schedule} {choice : ItemId → Reference}
    {entry : Entry} {type : Ty} (explained : env.Explained session schedule choice entry type)
    (same : ∀ link ∈ entry.chain, next link.1 = schedule link.1) :
    env.Explained session next choice entry type where
  chosen := explained.chosen
  settled := explained.settled
  alike := by
    have unchanged : env.scheduledType next entry = env.scheduledType schedule entry :=
      scheduled_congr same _
    rw [unchanged]
    exact explained.alike

theorem Explained.fits {schedule : Schedule} {choice : ItemId → Reference} {entry : Entry}
    {type : Ty} (explained : env.Explained session schedule choice entry type) :
    type.Fits session.cells := by
  apply Ty.fits_of_alike _ explained.alike
  rintro cell position source site ⟨held, _⟩
  exact held

/-- The type of a member in its own item is explained by any schedule. -/
theorem explained_own (wellFormed : env.tree.WellFormed) (schedule : Schedule)
    (choice : ItemId → Reference) {id : Nat} (inside : id < env.tree.size) {member : FieldMember}
    {type : Ty} (declared : OwnType env session.cells id member type) :
    env.Explained session schedule choice ⟨id, member, []⟩ type where
  chosen := by simp
  settled := by simp
  alike := by
    change type.Alike _ (env.memberTy id member)
    unfold memberTy
    cases declared with
    | constant untyped =>
        rw [untyped]
        exact Ty.alike_self _ rfl
    | converted written converts =>
        simp only [written, converts]
        exact Ty.alike_self type (isEager_of_convert wellFormed inside converts)
    | deferred written failed unresolved held =>
        simp only [written, failed]
        exact .deferred ⟨held, .inl ⟨_, failed⟩⟩

/-! ## One step down a chain -/

/-- Cells that are set just when they are looked at hold what is looked at. -/
theorem get?_of_linked {cells : Cells} (sound : cells.Sound env)
    {chain : List (ItemId × Supertype)} {choice : ItemId → Reference} {look : Look}
    (looks : ∀ link ∈ chain, env.Open link → ∀ position cell source,
      (choice link.1).args[position]? = some (.deferred cell source link.1) →
        (cells.get? cell ≠ none ↔ look link.1 position = true ∧
          ∃ type, (env.convert link.1 source).outcome = .ok type))
    {cell position : Nat} {source : TypeExpr} {site : ItemId}
    (linked : env.Linked cells chain choice cell position source site) :
    cells.get? cell = env.looked look position source site := by
  obtain ⟨held, failed | ⟨link, listed, isOpen, rfl, deferred⟩⟩ := linked
  · obtain ⟨fault, failed⟩ := failed
    have unseen : env.looked look position source site = none := by
      unfold looked
      rw [failed]
      split
      · next converts => cases converts
      · rfl
    rw [unseen]
    by_contra set
    obtain ⟨type, stored⟩ := Option.ne_none_iff_exists'.mp set
    rw [sound.converts held stored] at failed
    cases failed
  · have agrees := looks link listed isOpen position cell source deferred
    unfold looked
    cases stored : cells.get? cell with
    | some type =>
        have looksAt := (agrees.mp (by simp [stored])).1
        rw [looksAt, sound.converts held stored]
    | none =>
        have apart : ¬ (look link.1 position = true ∧
            ∃ type, (env.convert link.1 source).outcome = .ok type) :=
          fun both => agrees.mpr both stored
        split
        · next looksAt converts => exact absurd ⟨looksAt, _, converts⟩ apart
        · rfl

/-- The type arguments of a supertype as it is followed are those that stand for
it in a schedule. -/
theorem allAlike_edge (wellFormed : env.tree.WellFormed) {cells : Cells} (sound : cells.Sound env)
    {id : ItemId} {supertype : Supertype} {reference edge : Reference}
    {chain : List (ItemId × Supertype)} {choice : ItemId → Reference}
    (chosen : choice id = reference) (given : Instance env cells id supertype reference)
    (followed : env.Edge cells id supertype reference edge) :
    Ty.AllAlike (env.Linked cells ((id, supertype) :: chain) choice) edge.args
      (env.standing (id, supertype)).args := by
  cases followed with
  | @converted values converts =>
      have forcing := (forcedAll_instance given).trans converts
      have eager := allEager_of_forcedAll wellFormed sound _ given.fits values forcing
      simp only [standing, converts]
      exact Ty.allAlike_self values eager
  | @kept fault failed unresolved settled =>
      simp only [standing, failed]
      apply Ty.allAlike_iff.mpr
      apply List.forall₂_iff_get.mpr
      refine ⟨by rw [List.length_mapIdx, given.args.length_eq], ?_⟩
      intro position bound boundTwin
      have boundArgs : position < supertype.args.length := by simpa using boundTwin
      have here := List.Forall₂.get given.args boundArgs bound
      simp only [List.get_eq_getElem, List.getElem_mapIdx] at here ⊢
      have listed := List.getElem?_eq_getElem bound
      generalize reference.args[position] = type at here listed
      generalize supertype.args[position] = arg at here
      cases here with
      | self => exact Ty.alike_self _ rfl
      | written held =>
          refine .deferred ⟨held, .inr ⟨(id, supertype), List.mem_cons_self, ⟨fault, failed⟩, rfl,
            ?_⟩⟩
          rw [chosen]
          exact listed

/-- A type that is explained above a supertype is explained below it, if what the
schedule looks through there is what is set. -/
theorem Explained.below (wellFormed : env.tree.WellFormed) (sound : session.Sound env)
    {schedule : Schedule} {choice other : ItemId → Reference} {entry : Entry} {type : Ty}
    (explained : env.Explained session schedule choice entry type) {id : ItemId}
    {supertype : Supertype} {references : List Reference} {edge : Reference}
    (same : ∀ link ∈ entry.chain, other link.1 = choice link.1)
    (remembered : session.supertypes.lookup (id, true) = some references)
    (listed : other id ∈ references)
    (given : Instance env session.cells id supertype (other id))
    (followed : env.Edge session.cells id supertype (other id) edge)
    (looks : ∀ link ∈ entry.chain, env.Open link → ∀ position cell source,
      (other link.1).args[position]? = some (.deferred cell source link.1) →
        (session.cells.get? cell ≠ none ↔ schedule id link.1 position = true ∧
          ∃ type, (env.convert link.1 source).outcome = .ok type)) :
    env.Explained session schedule other (entry.below id supertype)
      (edge.apply session.cells type) where
  chosen link isLink := by
    rcases List.mem_cons.mp isLink with rfl | above
    · exact ⟨references, remembered, listed, given⟩
    · exact same link above ▸ explained.chosen link above
  settled link isLink isOpen := by
    rcases List.mem_cons.mp isLink with rfl | above
    · obtain ⟨fault, failed⟩ := isOpen
      cases followed with
      | converted converts =>
          rw [failed] at converts
          cases converts
      | kept _ _ settled => exact settled
    · exact same link above ▸ explained.settled link above isOpen
  alike := by
    have above : type.Alike (env.Linked session.cells entry.chain other)
        (env.scheduledType schedule entry) := by
      apply Ty.Alike.mono _ explained.alike
      rintro cell position source site ⟨held, failed | ⟨link, isLink, isOpen, rfl, deferred⟩⟩
      · exact ⟨held, .inl failed⟩
      · exact ⟨held, .inr ⟨link, isLink, isOpen, rfl, same link isLink ▸ deferred⟩⟩
    apply alike_seenBelow (fun _ _ _ _ linked => get?_of_linked sound.cells looks linked)
      (fun _ _ stored => sound.cells.isEager wellFormed stored) _ (followed.item given)
      (allAlike_edge wellFormed sound.cells rfl given followed) above
    rintro cell position source site ⟨held, failed | ⟨link, isLink, isOpen, deferred⟩⟩
    · exact ⟨held, .inl failed⟩
    · exact ⟨held, .inr ⟨link, List.mem_cons_of_mem _ isLink, isOpen, deferred⟩⟩

/-! ## Cells that are set on the way -/

/-- The arguments up to a position convert just when those of an instance do. -/
theorem ahead_iff {cells : Cells} {link : ItemId × Supertype} {reference : Reference}
    (given : Instance env cells link.1 link.2 reference) (position : Nat) :
    env.Ahead link position ↔
      ∃ values, env.forcedAll (reference.args.take (position + 1)) = .ok values := by
  rw [Ahead, forcedAll_argInstances (List.forall₂_take _ given.args)]

/-- A cell at the front of settled arguments is set. -/
theorem set_of_settled (wellFormed : env.tree.WellFormed) {cells : Cells} (sound : cells.Sound env)
    {types : List Ty} (fit : Ty.AllFit cells types) (settled : PrefixSettled env cells types)
    {position cell : Nat} {source : TypeExpr} {site : ItemId}
    (deferred : types[position]? = some (.deferred cell source site)) {values : List Ty}
    (converts : env.forcedAll (types.take (position + 1)) = .ok values) :
    cells.get? cell ≠ none := by
  have here := settled (types.take (position + 1)) (types.drop (position + 1)) values
    (List.take_append_drop _ _).symm converts
  have fitFront : Ty.AllFit cells (types.take (position + 1)) := by
    apply Ty.allFit_iff.mpr
    intro type member
    exact Ty.allFit_iff.mp fit type (List.mem_of_mem_take member)
  have eager := allEager_of_forcedAll wellFormed sound _ fitFront values converts
  have member : Ty.deferred cell source site ∈ types.take (position + 1) := by
    apply List.mem_of_getElem?
    rw [List.getElem?_take_of_lt (Nat.lt_succ_self position)]
    exact deferred
  rw [← here, Ty.settleAll_eq_map, Ty.allEager_eq_all, List.all_eq_true] at eager
  intro unset
  have isEager := eager _ (List.mem_map_of_mem member)
  rw [Ty.settle, unset] at isEager
  cases isEager

/-- While fields are gathered, the cells of an open supertype that has been
followed are those that were set before and those at its front. -/
theorem set_iff_of_gathers (wellFormed : env.tree.WellFormed) {concerns : ItemId → Prop}
    (gathers : low.Gathers env concerns last) (soundLast : last.Sound env)
    (sound : middle.Sound env) (early : low.Grows middle) (late : middle.Grows last)
    {link : ItemId × Supertype} {reference : Reference}
    (chosen : env.Chosen middle link reference)
    (settled : PrefixSettled env middle.cells reference.args)
    {position cell : Nat} {source : TypeExpr}
    (deferred : reference.args[position]? = some (.deferred cell source link.1)) :
    middle.cells.get? cell ≠ none ↔ low.cells.get? cell ≠ none ∨ env.Ahead link position := by
  have chosenLast := chosen.mono late
  obtain ⟨references, remembered, listed, given⟩ := chosen
  constructor
  · intro set
    by_cases unset : low.cells.get? cell = none
    · obtain ⟨type, stored⟩ := Option.ne_none_iff_exists'.mp set
      have setLast : last.cells.get? cell ≠ none := by
        rw [late.cells.get? cell type stored]
        simp
      obtain ⟨front, isListed, place, defers, converts⟩ := gathers.front cell unset setLast
      obtain ⟨others, rememberedLast, listedLast, _⟩ := chosenLast
      obtain ⟨rfl, rfl⟩ := soundLast.unshared reference front position place cell
        ⟨_, others, rememberedLast, listedLast⟩ isListed ⟨source, link.1, deferred⟩ defers
      exact .inr ((ahead_iff given position).mpr converts)
    · exact .inl unset
  · rintro (set | isAhead)
    · obtain ⟨type, stored⟩ := Option.ne_none_iff_exists'.mp set
      rw [early.cells.get? cell type stored]
      simp
    · obtain ⟨values, converts⟩ := (ahead_iff given position).mp isAhead
      exact set_of_settled wellFormed sound.cells given.fits settled deferred converts

/-! ## Schedules of histories -/

open Classical in
/-- Looking through all deferred arguments of chosen references whose cells are
set. -/
noncomputable def lookOf (choice : ItemId → Reference) (cells : Cells) : Look :=
  fun site position => decide (∀ cell source,
    (choice site).args[position]? = some (.deferred cell source site) → cells.get? cell ≠ none)

theorem lookOf_iff {choice : ItemId → Reference} {cells : Cells} {site : ItemId}
    {position : Nat} : lookOf choice cells site position = true ↔ ∀ cell source,
      (choice site).args[position]? = some (.deferred cell source site) →
        cells.get? cell ≠ none := by
  simp [lookOf]

/-- A cell of a chosen reference is set just when it is looked at and what it
waits for converts. -/
theorem set_iff_looks {cells : Cells} (sound : cells.Sound env) {choice : ItemId → Reference}
    {link : ItemId × Supertype} (given : Instance env cells link.1 link.2 (choice link.1))
    {position cell : Nat} {source : TypeExpr}
    (deferred : (choice link.1).args[position]? = some (.deferred cell source link.1)) :
    cells.get? cell ≠ none ↔ lookOf choice cells link.1 position = true ∧
      ∃ type, (env.convert link.1 source).outcome = .ok type := by
  rw [lookOf_iff]
  constructor
  · intro set
    obtain ⟨type, stored⟩ := Option.ne_none_iff_exists'.mp set
    refine ⟨?_, type, sound.converts (given.holds deferred).2.2 stored⟩
    intro other source' deferredOther
    cases deferred.symm.trans deferredOther
    exact set
  · rintro ⟨set, _⟩
    exact set cell source deferred

/-- A type of an entry is explained by a schedule that can come about, in which no
more is looked through than is set. -/
structure Accounted (env : Environment) (session : Session) (schedule : Schedule)
    (choice : ItemId → Reference) (entry : Entry) (type : Ty) : Prop
    extends Explained env session schedule choice entry type where
  admissible : env.Admissible schedule entry.chain
  bounded : ∀ lower rest, entry.chain = lower :: rest → ∀ link ∈ rest, env.Open link →
    ∀ position cell source, (choice link.1).args[position]? = some (.deferred cell source link.1) →
      schedule lower.1 link.1 position = true → session.cells.get? cell ≠ none

theorem Accounted.mono {old new : Session} {schedule : Schedule} {choice : ItemId → Reference}
    {entry : Entry} {type : Ty} (accounted : env.Accounted old schedule choice entry type)
    (wellFormed : env.tree.WellFormed) (sound : old.Sound env) (later : old.Grows new) :
    env.Accounted new schedule choice entry type where
  toExplained := accounted.toExplained.mono wellFormed sound later
  admissible := accounted.admissible
  bounded lower rest same link listed isOpen position cell source deferred looks := by
    have set := accounted.bounded lower rest same link listed isOpen position cell source deferred
      looks
    obtain ⟨type, stored⟩ := Option.ne_none_iff_exists'.mp set
    rw [later.cells.get? cell type stored]
    simp

/-- At the first item of a chain, those deferred arguments are looked through that
were set in an early session or are at the front of their supertype. -/
def LooksSince (env : Environment) (low : Session) (schedule : Schedule)
    (choice : ItemId → Reference) (chain : List (ItemId × Supertype)) : Prop :=
  ∀ lower rest, chain = lower :: rest → ∀ link ∈ rest, env.Open link → ∀ position,
    schedule lower.1 link.1 position = true ↔
      ∀ cell source, (choice link.1).args[position]? = some (.deferred cell source link.1) →
        low.cells.get? cell ≠ none ∨ env.Ahead link position

/-- Looking through what is set has the next item down look through what was set
in an early session or is at the front. -/
theorem looksSince_cons {next : Schedule} {choice other : ItemId → Reference}
    {chain : List (ItemId × Supertype)} {id : ItemId} {supertype : Supertype}
    (looks : next id = lookOf choice middle.cells)
    (same : ∀ link ∈ chain, other link.1 = choice link.1)
    (isSet : ∀ link ∈ chain, env.Open link → ∀ position cell source,
      (choice link.1).args[position]? = some (.deferred cell source link.1) →
        (middle.cells.get? cell ≠ none ↔
          low.cells.get? cell ≠ none ∨ env.Ahead link position)) :
    env.LooksSince low next other ((id, supertype) :: chain) := by
  intro lower rest isCons link isLink isOpen position
  cases isCons
  change next id link.1 position = true ↔ _
  rw [looks, lookOf_iff, same link isLink]
  constructor
  · intro set cell source deferred
    exact (isSet link isLink isOpen position cell source deferred).mp (set cell source deferred)
  · intro either cell source deferred
    exact (isSet link isLink isOpen position cell source deferred).mpr
      (either cell source deferred)

/-- What is looked through at the next item down, when it is collected in one go
since an early session. -/
theorem onward_of_accounted {schedule next : Schedule} {choice : ItemId → Reference}
    {entry : Entry} {type : Ty}
    (accounted : env.Accounted middle schedule choice entry type) {id : ItemId}
    (looks : next id = lookOf choice middle.cells)
    (same : ∀ link ∈ entry.chain, next link.1 = schedule link.1)
    (isSet : ∀ link ∈ entry.chain, env.Open link → ∀ position cell source,
      (choice link.1).args[position]? = some (.deferred cell source link.1) →
        (middle.cells.get? cell ≠ none ↔ low.cells.get? cell ≠ none ∨ env.Ahead link position))
    (since : ∀ upper rest, entry.chain = upper :: rest → env.ReachesCycle upper.1 →
      env.LooksSince low schedule choice entry.chain)
    {upper : ItemId × Supertype} {rest : List (ItemId × Supertype)}
    (above : entry.chain = upper :: rest) : env.Onward next id upper rest where
  grows link listed isOpen position isLooked := by
    rw [same upper (above ▸ List.mem_cons_self)] at isLooked
    rw [looks, lookOf_iff]
    intro cell source deferred
    exact accounted.bounded upper rest above link listed isOpen position cell source deferred
      isLooked
  ahead isOpen position isAhead := by
    have isLink : upper ∈ entry.chain := above ▸ List.mem_cons_self
    rw [looks, lookOf_iff]
    intro cell source deferred
    exact (isSet upper isLink isOpen position cell source deferred).mpr (.inr isAhead)
  cyclic reaches link listed isOpen position isLooked := by
    have isLink : link ∈ entry.chain := above ▸ List.mem_cons_of_mem upper listed
    rw [same upper (above ▸ List.mem_cons_self)]
    apply (since upper rest above reaches upper rest above link listed isOpen position).mpr
    intro cell source deferred
    rw [looks, lookOf_iff] at isLooked
    exact (isSet link isLink isOpen position cell source deferred).mp
      (isLooked cell source deferred)

/-- One step down a chain in a session in which fields are gathered: the schedule
is extended by what is set there. -/
theorem Accounted.below (wellFormed : env.tree.WellFormed) {concerns : ItemId → Prop}
    (gathers : low.Gathers env concerns last) (soundLast : last.Sound env)
    (sound : middle.Sound env) (early : low.Grows middle) (late : middle.Grows last)
    {schedule : Schedule} {choice : ItemId → Reference} {entry : Entry} {type : Ty}
    (accounted : env.Accounted middle schedule choice entry type)
    (since : ∀ upper rest, entry.chain = upper :: rest → env.ReachesCycle upper.1 →
      env.LooksSince low schedule choice entry.chain)
    {id : ItemId} (fresh : ∀ link ∈ entry.chain, link.1 ≠ id) {supertype : Supertype}
    {references : List Reference} {reference edge : Reference}
    (remembered : middle.supertypes.lookup (id, true) = some references)
    (listed : reference ∈ references)
    (given : Instance env middle.cells id supertype reference)
    (followed : env.Edge middle.cells id supertype reference edge) :
    ∃ next other, env.Accounted middle next other (entry.below id supertype)
        (edge.apply middle.cells type) ∧
      env.LooksSince low next other (entry.below id supertype).chain := by
  let next := Function.update schedule id (lookOf choice middle.cells)
  let other := Function.update choice id reference
  have looks : next id = lookOf choice middle.cells := Function.update_self ..
  have isChosen : other id = reference := Function.update_self ..
  have sameLook : ∀ link ∈ entry.chain, next link.1 = schedule link.1 :=
    fun link isLink => Function.update_of_ne (fresh link isLink) ..
  have sameChoice : ∀ link ∈ entry.chain, other link.1 = choice link.1 :=
    fun link isLink => Function.update_of_ne (fresh link isLink) ..
  have isSet : ∀ link ∈ entry.chain, env.Open link → ∀ position cell source,
      (choice link.1).args[position]? = some (.deferred cell source link.1) →
        (middle.cells.get? cell ≠ none ↔
          low.cells.get? cell ≠ none ∨ env.Ahead link position) := by
    intro link isLink isOpen position cell source deferred
    exact set_iff_of_gathers wellFormed gathers soundLast sound early late
      (accounted.chosen link isLink) (accounted.settled link isLink isOpen) deferred
  have explained : env.Explained middle next choice entry type :=
    accounted.toExplained.reschedule sameLook
  refine ⟨next, other, ⟨?_, ?_, ?_⟩, looksSince_cons looks sameChoice isSet⟩
  · apply explained.below wellFormed sound sameChoice remembered (isChosen ▸ listed)
      (isChosen ▸ given) (isChosen ▸ followed)
    intro link isLink _ position cell source deferred
    rw [sameChoice link isLink] at deferred
    obtain ⟨_, _, _, isInstance⟩ := accounted.chosen link isLink
    rw [looks]
    exact set_iff_looks sound.cells isInstance deferred
  · change env.Admissible next ((id, supertype) :: entry.chain)
    have above : env.Admissible next entry.chain :=
      accounted.admissible.congr fun link isLink => (sameLook link isLink).symm
    cases chain : entry.chain with
    | nil => trivial
    | cons upper rest =>
        rw [chain] at above
        exact ⟨onward_of_accounted accounted looks sameLook isSet since chain, above⟩
  · intro lower rest same link isLink isOpen position cell source deferred isLooked
    cases same
    rw [sameChoice link isLink] at deferred
    change next id link.1 position = true at isLooked
    rw [looks, lookOf_iff] at isLooked
    exact isLooked cell source deferred

/-- A remembered type belongs to an entry of the item at which its chain starts. -/
theorem known_of_keeps {entry : Entry} {type : Ty} (kept : low.Keeps env entry type)
    {id : ItemId} (chained : env.Chained entry.declaring id entry.chain) :
    low.fields.lookup id ≠ none := by
  obtain ⟨other, fields, entries, remembered, given, index, field, isEntry, _, _⟩ := kept
  have member := List.mem_of_getElem? isEntry
  obtain rfl := chained.origin (chained_of_entriesAlong given member).1
  rw [remembered]
  simp

/-- If what an early session remembers has schedules that can come about, then so
has what is seen while fields are gathered. -/
theorem exists_accounted (constructed : env.Constructed) {concerns : ItemId → Prop}
    (gathers : low.Gathers env concerns last) (soundLow : low.Sound env)
    (soundLast : last.Sound env)
    (cyclic : ∀ id : Nat, env.ReachesCycle id → low.fields.lookup id = none)
    (remembers : ∀ entry type, low.Keeps env entry type →
      ∃ schedule choice, env.Accounted low schedule choice entry type)
    {entry : Entry} {type : Ty} (seen : Seen env low session entry type) :
    ∀ {id : Nat}, session.Grows last → env.Chained entry.declaring id entry.chain →
      id < env.tree.size → ∃ schedule choice, env.Accounted session schedule choice entry type ∧
        (low.fields.lookup id = none → env.LooksSince low schedule choice entry.chain) := by
  have wellFormed := constructed.wellFormed
  induction seen with
  | remembered kept late =>
      intro id _ chained _
      obtain ⟨schedule, choice, accounted⟩ := remembers _ _ kept
      refine ⟨schedule, choice, accounted.mono wellFormed soundLow late, ?_⟩
      intro unknown
      exact absurd unknown (known_of_keeps kept chained)
  | own unknown declared =>
      intro id _ chained inside
      cases chained
      refine ⟨fun _ _ _ => true, fun _ => default, ⟨?_, trivial, ?_⟩, ?_⟩
      · exact explained_own wellFormed _ _ inside declared
      · intro lower rest same
        cases same
      · intro _ lower rest same
        cases same
  | @inherited session middle entry id supertype references reference edge type unknown above
      early sound late remembered listed given followed ih =>
      intro other later chained inside
      change env.Chained entry.declaring other ((id, supertype) :: entry.chain) at chained
      cases chained with
      | step givenFound isFound fresh onward =>
          have step : env.Inherits id supertype.item := ⟨_, givenFound, supertype, isFound, rfl⟩
          obtain ⟨schedule, choice, accounted, since⟩ :=
            ih (late.trans later) onward (step.lt constructed inside)
          have sinceCyclic : ∀ upper rest, entry.chain = upper :: rest →
              env.ReachesCycle upper.1 → env.LooksSince low schedule choice entry.chain := by
            intro upper rest chain reaches
            rw [chain] at onward
            exact since (cyclic _ (onward.head ▸ reaches))
          obtain ⟨next, chosen, accountedBelow, sinceBelow⟩ := accounted.below wellFormed gathers
            soundLast sound early (late.trans later) sinceCyclic fresh remembered listed given
            followed
          exact ⟨next, chosen, accountedBelow.mono wellFormed sound late, fun _ => sinceBelow⟩

/-- Every type that questions have made a session remember has a schedule that can
come about. -/
theorem accounted_of_reached (constructed : env.Constructed) (reached : session.Reached env) :
    ∀ entry type, session.Keeps env entry type →
      ∃ schedule choice, env.Accounted session schedule choice entry type := by
  induction reached with
  | start =>
      intro entry type kept
      exact absurd kept (not_keeps_start entry type)
  | @asked session reached question allowed ih =>
      intro entry type kept
      obtain ⟨collecting, idle⟩ := collecting_of_reached constructed reached
      have runs := runs_ask constructed collecting.restart idle allowed
      rcases runs.follows with follows | gathers
      · -- nothing was remembered, so the type was remembered before
        obtain ⟨id, fields, entries, remembered, rest⟩ := kept
        rw [follows.fields] at remembered
        obtain ⟨schedule, choice, accounted⟩ :=
          ih entry type ⟨id, fields, entries, remembered, rest⟩
        exact ⟨schedule, choice,
          accounted.mono constructed.wellFormed collecting.sound follows.toGrows⟩
      · obtain ⟨id, fields, entries, remembered, given, index, field, isEntry, isField, rfl⟩ := kept
        obtain ⟨inside, _, others, same, shown⟩ := runs.invariant.fields id fields remembered
        cases given.symm.trans same
        have shows' := forall₂_getElem? shown isEntry isField
        have chained := (chained_of_entriesAlong given (List.mem_of_getElem? isEntry)).1
        obtain ⟨schedule, choice, accounted, _⟩ := exists_accounted constructed gathers
          collecting.sound runs.invariant.sound
          (fun _ reaches => collecting.restart.unknown_of_cyclic reaches) ih shows'.type
          (.refl _) chained inside
        exact ⟨schedule, choice, accounted⟩

end Environment

end JavaSymbols

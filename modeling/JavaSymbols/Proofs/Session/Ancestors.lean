import JavaSymbols.Proofs.Session.Forcing
import JavaSymbols.Proofs.Views.Substitution

/-!
# Ancestors in a sound session

Asking for the direct ancestors of an item gives instances of its supertypes,
which are remembered from then on.  Following one of them forces its type
arguments; when one of these does not resolve, all stay as they were.
-/

namespace JavaSymbols.Environment

open Session

variable {env : Environment} {session : Session}

/-! ## Supertypes as references -/

theorem runs_instantiateArg (sound : session.Sound env) {id : ItemId}
    (inside : id < env.tree.size) (arg : SupertypeArg) :
    Query.Runs (Sound env) Defers session (env.instantiateArg id arg) fun after =>
      Agree (ArgInstance env after.cells id) (pure arg) := by
  cases arg with
  | written source =>
      exact Query.runs_postpone sound source inside fun after cell held => .value (.written held)
  | self => exact Query.runs_pure sound (.value .self)

theorem runs_instantiate (sound : session.Sound env) {id : ItemId} (inside : id < env.tree.size)
    (supertype : Supertype) :
    Query.Runs (Sound env) Defers session (env.instantiate id supertype) fun after =>
      Agree (Instance env after.cells id) (pure supertype) := by
  have args : Query.Runs (Sound env) Defers session (supertype.args.mapM (env.instantiateArg id))
      fun after => Agree (List.Forall₂ (ArgInstance env after.cells id))
        (supertype.args.mapM pure) := by
    refine Query.runs_mapM_expected sound ?_ ?_
    · intro old new arg type later given
      exact given.mono later.cells
    · intro arg _ after soundAfter _
      exact runs_instantiateArg soundAfter inside arg
  rw [List.mapM_pure, List.map_id'] at args
  refine args.bind ?_ ?_
  · intro after cause _ agree
    cases agree
  · intro after values soundAfter _ agree
    cases agree with
    | value instances => exact Query.runs_pure soundAfter (.value ⟨rfl, rfl, instances⟩)

/-! ## Cells of their own -/

/-- Deferred types have a cell each, from a range. -/
structure Numbered (low high : Nat) (types : List Ty) : Prop where
  ordered : low ≤ high
  within : ∀ (position cell : Nat) (source : TypeExpr) (site : ItemId),
    types[position]? = some (.deferred cell source site) → low ≤ cell ∧ cell < high
  apart : ∀ (first second cell : Nat) (source source' : TypeExpr) (site site' : ItemId),
    types[first]? = some (.deferred cell source site) →
    types[second]? = some (.deferred cell source' site') → first = second

/-- Deferred arguments of references have a cell each, from a range. -/
structure NumberedAll (low high : Nat) (references : List Reference) : Prop where
  ordered : low ≤ high
  within : ∀ reference ∈ references, ∀ position cell, reference.DefersAt position cell →
    low ≤ cell ∧ cell < high
  apart : ∀ first ∈ references, ∀ second ∈ references, ∀ position other cell,
    first.DefersAt position cell → second.DefersAt other cell → first = second ∧ position = other

/-- One more type in front, with a cell of its own if it is deferred. -/
theorem Numbered.cons {low middle high : Nat} {type : Ty} {types : List Ty}
    (ordered : low ≤ middle)
    (head : ∀ cell source site, type = .deferred cell source site → cell = low ∧ middle = low + 1)
    (tail : Numbered middle high types) : Numbered low high (type :: types) where
  ordered := Nat.le_trans ordered tail.ordered
  within := by
    intro position cell source site listed
    have onward := tail.ordered
    cases position with
    | zero =>
        obtain ⟨rfl, grown⟩ := head cell source site (Option.some.inj listed)
        omega
    | succ position =>
        obtain ⟨above, below⟩ := tail.within position cell source site listed
        exact ⟨Nat.le_trans ordered above, below⟩
  apart := by
    intro first second cell source source' site site' isFirst isSecond
    cases first with
    | zero =>
        cases second with
        | zero => rfl
        | succ second =>
            obtain ⟨rfl, grown⟩ := head cell source site (Option.some.inj isFirst)
            have above := (tail.within second _ source' site' isSecond).1
            omega
    | succ first =>
        cases second with
        | zero =>
            obtain ⟨rfl, grown⟩ := head cell source' site' (Option.some.inj isSecond)
            have above := (tail.within first _ source site isFirst).1
            omega
        | succ second =>
            rw [tail.apart first second cell source source' site site' isFirst isSecond]

/-- One more reference in front, with the cells of its arguments below all
others. -/
theorem NumberedAll.cons {low middle high : Nat} {reference : Reference}
    {references : List Reference} (head : Numbered low middle reference.args)
    (tail : NumberedAll middle high references) :
    NumberedAll low high (reference :: references) where
  ordered := Nat.le_trans head.ordered tail.ordered
  within := by
    intro other member position cell defers
    have ordered := head.ordered
    have onward := tail.ordered
    rcases List.mem_cons.mp member with rfl | inRest
    · obtain ⟨source, site, listed⟩ := defers
      obtain ⟨above, below⟩ := head.within position cell source site listed
      omega
    · obtain ⟨above, below⟩ := tail.within other inRest position cell defers
      omega
  apart := by
    have disjoint : ∀ other ∈ references, ∀ position place cell,
        reference.DefersAt position cell → ¬ other.DefersAt place cell := by
      rintro other inRest position place cell ⟨source, site, listed⟩ defers
      have below := (head.within position cell source site listed).2
      have above := (tail.within other inRest place cell defers).1
      omega
    intro first isFirst second isSecond position other cell defersFirst defersSecond
    rcases List.mem_cons.mp isFirst with rfl | firstInRest
    · rcases List.mem_cons.mp isSecond with rfl | secondInRest
      · obtain ⟨source, site, listed⟩ := defersFirst
        obtain ⟨source', site', listed'⟩ := defersSecond
        exact ⟨rfl, head.apart position other cell source source' site site' listed listed'⟩
      · exact absurd defersSecond (disjoint second secondInRest position other cell defersFirst)
    · rcases List.mem_cons.mp isSecond with rfl | secondInRest
      · exact absurd defersFirst (disjoint first firstInRest other position cell defersSecond)
      · exact tail.apart first firstInRest second secondInRest position other cell defersFirst
          defersSecond

/-- A type argument of a supertype gets a new cell, if it is deferred. -/
theorem fresh_instantiateArg (env : Environment) (id : ItemId) (arg : SupertypeArg)
    (session : Session) :
    ∃ type after, env.instantiateArg id arg session = (.ok type, after) ∧
      session.cells.size ≤ after.cells.size ∧
      ∀ cell source site, type = .deferred cell source site →
        cell = session.cells.size ∧ after.cells.size = session.cells.size + 1 := by
  cases arg with
  | written source =>
      refine ⟨_, _, rfl, ?_, ?_⟩
      · simp
      · intro cell _ _ same
        cases same
        exact ⟨rfl, Cells.size_grow _ _ _⟩
  | self =>
      refine ⟨_, _, rfl, Nat.le_refl _, ?_⟩
      intro cell source site same
      cases same

/-- The type arguments of a supertype get new cells. -/
theorem numbered_instantiateArgs (id : ItemId) (args : List SupertypeArg) :
    ∀ session : Session, ∃ types after,
      args.mapM (env.instantiateArg id) session = (.ok types, after) ∧
        Numbered session.cells.size after.cells.size types := by
  induction args with
  | nil =>
      intro session
      exact ⟨[], session, rfl, Nat.le_refl _, by simp, by simp⟩
  | cons arg rest ih =>
      intro session
      obtain ⟨type, middle, ran, ordered, head⟩ := env.fresh_instantiateArg id arg session
      obtain ⟨types, after, ranRest, numbered⟩ := ih middle
      refine ⟨type :: types, after, ?_, numbered.cons ordered head⟩
      rw [List.mapM_cons, Query.bind_apply, ran]
      change (rest.mapM (env.instantiateArg id) >>= fun types => pure (type :: types)) middle = _
      rw [Query.bind_apply, ranRest]
      rfl

/-- The deferred arguments of instantiated supertypes get new cells. -/
theorem numbered_instantiateAll (env : Environment) (id : ItemId) (found : List Supertype) :
    ∀ session : Session, ∃ references after,
      found.mapM (env.instantiate id) session = (.ok references, after) ∧
        NumberedAll session.cells.size after.cells.size references := by
  induction found with
  | nil =>
      intro session
      exact ⟨[], session, rfl, Nat.le_refl _, by simp, by simp⟩
  | cons supertype rest ih =>
      intro session
      obtain ⟨types, middle, ran, args⟩ := numbered_instantiateArgs id supertype.args session
      obtain ⟨references, after, ranRest, numbered⟩ := ih middle
      refine ⟨⟨supertype.item, supertype.name, types⟩ :: references, after, ?_,
        numbered.cons args⟩
      have here : env.instantiate id supertype session =
          (.ok ⟨supertype.item, supertype.name, types⟩, middle) := by
        rw [instantiate, Query.bind_apply, ran]
        rfl
      rw [List.mapM_cons, Query.bind_apply, here]
      change (rest.mapM (env.instantiate id) >>= fun references =>
        pure (_ :: references)) middle = _
      rw [Query.bind_apply, ranRest]
      rfl

/-- Instantiated supertypes, with a cell of its own for each deferred argument. -/
theorem runs_instantiateAll (sound : session.Sound env) {id : ItemId}
    (inside : id < env.tree.size) (found : List Supertype) :
    Query.Runs (Sound env) Defers session (found.mapM (env.instantiate id)) fun after outcome =>
      session.Defers after ∧
        Agree (List.Forall₂ (Instance env after.cells id)) (.ok found) outcome ∧
        ∀ references, outcome = .ok references →
          NumberedAll session.cells.size after.cells.size references := by
  have all : Query.Runs (Sound env) Defers session (found.mapM (env.instantiate id))
      fun after => Agree (List.Forall₂ (Instance env after.cells id)) (found.mapM pure) := by
    refine Query.runs_mapM_expected sound ?_ ?_
    · intro old new supertype reference later given
      exact given.mono later.cells
    · intro supertype _ after soundAfter _
      exact runs_instantiate soundAfter inside supertype
  rw [List.mapM_pure, List.map_id'] at all
  obtain ⟨types, after, ran, numbered⟩ := env.numbered_instantiateAll id found session
  refine ⟨all.invariant, all.follows, all.follows, all.good, ?_⟩
  rw [ran]
  intro references same
  cases same
  exact numbered

/-- A supertype clause as a reference, for items of the tree. -/
theorem runs_clauseReference (sound : session.Sound env) {id : ItemId}
    (inside : id < env.tree.size) (clause : ClassExpr) :
    Query.Runs (Sound env) Defers session (env.clauseReference id clause) fun after =>
      Agree (Instance env after.cells id) (env.clauseSupertype id clause).outcome := by
  unfold clauseReference
  refine (Query.runs_lift sound _).bind ?_ ?_
  · rintro after cause _ ⟨_, failed⟩
    rw [← failed]
    exact .fault cause
  · rintro after supertype soundAfter _ ⟨_, given⟩
    rw [← given]
    exact runs_instantiate soundAfter inside supertype

/-! ## Remembered ancestors -/

/-- References are listed after a list has been remembered if they are in it or
were listed before. -/
theorem lists_of_remember {key : ItemId × Bool} {references : List Reference}
    {reference : Reference}
    (listed : Lists { session with supertypes := (key, references) :: session.supertypes }
      reference) : reference ∈ references ∨ session.Lists reference := by
  obtain ⟨other, others, remembered, member⟩ := listed
  rw [List.lookup_cons] at remembered
  split at remembered
  · cases remembered
    exact .inl member
  · exact .inr ⟨other, others, remembered, member⟩

/-- Instances of the supertypes of an item can be remembered, if no cell is shared
by them or with what is remembered. -/
theorem sound_remember (sound : session.Sound env) {id : ItemId} {lenient : Bool}
    {found : List Supertype} {references : List Reference} (inside : id < env.tree.size)
    (given : (env.supertypesOf id lenient).outcome = .ok found)
    (instances : List.Forall₂ (Instance env session.cells id) found references)
    (apart : ∀ first ∈ references, ∀ second ∈ references, ∀ position other cell,
      first.DefersAt position cell → second.DefersAt other cell →
        first = second ∧ position = other)
    (fresh : ∀ first ∈ references, ∀ second, session.Lists second → ∀ position other cell,
      first.DefersAt position cell → ¬ second.DefersAt other cell) :
    Sound env
      { session with supertypes := ((id, lenient), references) :: session.supertypes } where
  cells := sound.cells
  supertypes := by
    intro other lenient' others remembered
    rw [List.lookup_cons] at remembered
    split at remembered
    · next same =>
        obtain ⟨rfl, rfl⟩ := Prod.mk.inj (eq_of_beq same)
        cases remembered
        exact ⟨inside, found, given, instances⟩
    · exact sound.supertypes other lenient' others remembered
  unshared := by
    intro first second position other cell isFirst isSecond defersFirst defersSecond
    rcases lists_of_remember isFirst with newFirst | oldFirst
    · rcases lists_of_remember isSecond with newSecond | oldSecond
      · exact apart first newFirst second newSecond position other cell defersFirst defersSecond
      · exact absurd defersSecond
          (fresh first newFirst second oldSecond position other cell defersFirst)
    · rcases lists_of_remember isSecond with newSecond | oldSecond
      · exact absurd defersFirst
          (fresh second newSecond first oldFirst other position cell defersSecond)
      · exact sound.unshared first second position other cell oldFirst oldSecond defersFirst
          defersSecond

theorem runs_remember {key : ItemId × Bool} {references : List Reference}
    (unknown : session.supertypes.lookup key = none)
    (kept : Sound env { session with supertypes := (key, references) :: session.supertypes }) :
    Query.Runs (Sound env) Follows session
      (Query.update fun session =>
        { session with supertypes := (key, references) :: session.supertypes })
      fun after outcome => outcome = .ok () ∧ after.cells = session.cells ∧
        after.supertypes.lookup key = some references := by
  refine Query.runs_update kept ⟨⟨.refl _, ?_⟩, rfl, rfl, rfl⟩ ⟨rfl, rfl, List.lookup_cons_self⟩
  intro other others remembered
  rw [List.lookup_cons]
  split
  · next same =>
      rw [eq_of_beq same, unknown] at remembered
      cases remembered
  · exact remembered

/-- The direct ancestors of an item are instances of its supertypes, and are
remembered. -/
theorem runs_itemAncestors (sound : session.Sound env) {id : ItemId}
    (inside : id < env.tree.size) (lenient : Bool) :
    Query.Runs (Sound env) Follows session (env.itemAncestors id lenient) fun after =>
      Agree (fun found references => List.Forall₂ (Instance env after.cells id) found references ∧
        after.supertypes.lookup (id, lenient) = some references)
        (env.supertypesOf id lenient).outcome := by
  unfold itemAncestors
  refine Query.Runs.bind_current ?_
  cases remembered : session.supertypes.lookup (id, lenient) with
  | some references =>
      obtain ⟨_, found, given, instances⟩ := sound.supertypes id lenient references remembered
      rw [given]
      exact Query.runs_pure sound (.value ⟨instances, remembered⟩)
  | none =>
      refine (Query.runs_lift sound (env.supertypesOf id lenient)).follows_of_defers.bind ?_ ?_
      · rintro after cause _ ⟨_, failed⟩
        rw [← failed]
        exact .fault cause
      · rintro after found soundAfter _ ⟨defers, given⟩
        rw [← given]
        refine (runs_instantiateAll soundAfter inside found).follows_of_defers.bind ?_ ?_
        · rintro last cause _ ⟨_, agree, _⟩
          cases agree
        · rintro last references soundLast _ ⟨defersLast, agree, numbered⟩
          cases agree with
          | value instances =>
              have unknown : last.supertypes.lookup (id, lenient) = none := by
                rw [defersLast.supertypes, defers.supertypes, remembered]
              have numbered := numbered references rfl
              have fresh : ∀ first ∈ references, ∀ second, last.Lists second →
                  ∀ position other cell, first.DefersAt position cell →
                    ¬ second.DefersAt other cell := by
                rintro first member second ⟨key, others, listed, isOther⟩ position other cell
                  defersFirst defersSecond
                rw [defersLast.supertypes] at listed
                have low := (numbered.within first member position cell defersFirst).1
                have high := soundAfter.lt_of_lists ⟨key, others, listed, isOther⟩ defersSecond
                omega
              have kept := sound_remember soundLast inside given.symm instances numbered.apart fresh
              refine (runs_remember unknown kept).bind ?_ ?_
              · rintro final cause _ ⟨failed, _⟩
                cases failed
              · rintro final _ soundFinal _ ⟨_, sameCells, isRemembered⟩
                refine Query.runs_pure soundFinal (.value ⟨?_, isRemembered⟩)
                rw [sameCells]
                exact instances

/-! ## Following a supertype -/

/-- A type argument of a supertype of an item, converted. -/
def convertArg (env : Environment) (id : ItemId) : SupertypeArg → Except Fault Ty
  | .written source => (env.convert id source).outcome
  | .self => pure (env.rawReference id).toTy

/-- The type arguments of a supertype of an item, converted from left to
right. -/
def convertArgs (env : Environment) (id : ItemId) (supertype : Supertype) :
    Except Fault (List Ty) :=
  supertype.args.mapM (env.convertArg id)

/-- Type arguments that convert have no deferred parts. -/
theorem allEager_of_convertArgs (wellFormed : env.tree.WellFormed) {id : Nat}
    (inside : id < env.tree.size) {supertype : Supertype} {values : List Ty}
    (given : env.convertArgs id supertype = .ok values) : Ty.allEager values = true := by
  rw [Ty.allEager_eq_all, List.all_eq_true]
  intro type member
  obtain ⟨arg, _, converts⟩ := exists_of_mem_mapM given member
  cases arg with
  | written source => exact isEager_of_convert wellFormed inside converts
  | self =>
      cases converts
      rfl

/-- A conversion in the body of an item of the tree fails for want of a name, or
when the source of names strays from the tree. -/
theorem warranted_of_convert (wellFormed : env.tree.WellFormed) {id : Nat}
    (inside : id < env.tree.size) {source : TypeExpr} {fault : Fault}
    (failed : (env.convert id source).outcome = .error fault) :
    fault.isUnresolved = true ∨ env.Stray fault := by
  have siteInside : (TypeSite.mk id none).item < env.tree.size := inside
  exact (soft_convertAt wellFormed siteInside source).warranted fault failed

theorem warranted_of_convertArgs (wellFormed : env.tree.WellFormed) {id : Nat}
    (inside : id < env.tree.size) {supertype : Supertype} {fault : Fault}
    (failed : env.convertArgs id supertype = .error fault) :
    fault.isUnresolved = true ∨ env.Stray fault := by
  obtain ⟨arg, _, failedArg⟩ := exists_of_mapM_eq_error failed
  cases arg with
  | self => cases failedArg
  | written source => exact warranted_of_convert wellFormed inside failedArg

/-- With a source of names that keeps to the tree, type arguments fail to convert
for want of a name only. -/
theorem unresolved_of_convertArgs (wellFormed : env.tree.WellFormed) (inTree : env.InTree)
    {id : Nat} (inside : id < env.tree.size) {supertype : Supertype} {fault : Fault}
    (failed : env.convertArgs id supertype = .error fault) : fault.isUnresolved = true :=
  (warranted_of_convertArgs wellFormed inside failed).resolve_right (inTree.not_stray fault)

/-- What is left of an outcome when missing names are passed over. -/
def tolerated {α : Type} : Except Fault α → Except Fault Unit
  | .ok _ => pure ()
  | .error fault => if fault.isUnresolved then pure () else .error fault

theorem tolerated_error_of_unresolved {α : Type} {fault : Fault}
    (unresolved : fault.isUnresolved = true) :
    tolerated (.error fault : Except Fault α) = .ok () := by
  rw [tolerated, if_pos unresolved]
  rfl

theorem tolerated_error_of_hard {α : Type} {fault : Fault} (hard : fault.isUnresolved = false) :
    tolerated (.error fault : Except Fault α) = .error fault := by
  rw [tolerated, hard]
  rfl

/-- What is not passed over is that the source of names strays from the tree. -/
theorem stray_of_tolerated {α : Type} {outcome : Except Fault α} {fault : Fault}
    (warranted : ∀ cause, outcome = .error cause → cause.isUnresolved = true ∨ env.Stray cause)
    (failed : tolerated outcome = .error fault) : env.Stray fault := by
  cases outcome with
  | ok value => cases failed
  | error cause =>
      rcases warranted cause rfl with unresolved | stray
      · rw [tolerated_error_of_unresolved unresolved] at failed
        cases failed
      · rw [tolerated_error_of_hard stray.hard] at failed
        cases failed
        exact stray

/-- Whether a supertype of an item can be followed: its type arguments convert,
or one of them does not resolve.  Any other fault is in the way. -/
def follow (env : Environment) (id : ItemId) (supertype : Supertype) : Except Fault Unit :=
  tolerated (env.convertArgs id supertype)

/-- Only a source of names that strays from the tree keeps a supertype from being
followed. -/
theorem stray_of_follow (wellFormed : env.tree.WellFormed) {id : Nat}
    (inside : id < env.tree.size) {supertype : Supertype} {fault : Fault}
    (failed : env.follow id supertype = .error fault) : env.Stray fault :=
  stray_of_tolerated (fun _ => warranted_of_convertArgs wellFormed inside) failed

/-- What a supertype of an item is followed as: with converted type arguments,
or as it stands when one of them does not resolve. -/
inductive Edge (env : Environment) (cells : Cells) (id : ItemId) (supertype : Supertype)
    (reference : Reference) : Reference → Prop where
  | converted {values : List Ty} (converts : env.convertArgs id supertype = .ok values) :
      Edge env cells id supertype reference ⟨supertype.item, supertype.name, values⟩
  | kept {fault : Fault} (failed : env.convertArgs id supertype = .error fault)
      (unresolved : fault.isUnresolved = true)
      (settled : PrefixSettled env cells reference.args) :
      Edge env cells id supertype reference reference

theorem Edge.item {cells : Cells} {id : ItemId} {supertype : Supertype} {reference edge : Reference}
    (followed : Edge env cells id supertype reference edge)
    (given : Instance env cells id supertype reference) : edge.item = supertype.item := by
  cases followed with
  | converted converts => rfl
  | kept failed unresolved settled => exact given.item

theorem Edge.mono (wellFormed : env.tree.WellFormed) {old new : Cells} {id : ItemId}
    {supertype : Supertype} {reference edge : Reference}
    (followed : Edge env old id supertype reference edge)
    (given : Instance env old id supertype reference) (sound : old.Sound env)
    (later : old.Extends new) : Edge env new id supertype reference edge := by
  cases followed with
  | converted converts => exact .converted converts
  | kept failed unresolved settled =>
      exact .kept failed unresolved (settled.mono wellFormed sound given.fits later)

theorem forced_argInstance {cells : Cells} {id : ItemId} {arg : SupertypeArg} {type : Ty}
    (given : ArgInstance env cells id arg type) : env.forced type = env.convertArg id arg := by
  cases given with
  | written held => rfl
  | self => rfl

/-- Forcing the arguments of an instance converts those of the supertype. -/
theorem forcedAll_argInstances {cells : Cells} {id : ItemId} {args : List SupertypeArg}
    {types : List Ty} (instances : List.Forall₂ (ArgInstance env cells id) args types) :
    env.forcedAll types = args.mapM (env.convertArg id) := by
  induction instances with
  | nil => rfl
  | cons head _ ih => rw [forcedAll, List.mapM_cons, forced_argInstance head, ih]

theorem forcedAll_instance {cells : Cells} {id : ItemId} {supertype : Supertype}
    {reference : Reference} (given : Instance env cells id supertype reference) :
    env.forcedAll reference.args = env.convertArgs id supertype :=
  forcedAll_argInstances given.args

theorem runs_forceReference (wellFormed : env.tree.WellFormed) (sound : session.Sound env)
    {reference : Reference} (fits : reference.Fits session.cells) :
    Query.Runs (Sound env) Defers session (env.forceReference reference) fun after outcome =>
      (outcome = do
        let args ← env.forcedAll reference.args
        pure { reference with args := args }) ∧ PrefixSettled env after.cells reference.args := by
  unfold forceReference
  refine (runs_forceAll wellFormed sound reference.args fits).bind ?_ ?_
  · rintro after cause _ ⟨failed, settled⟩
    exact ⟨by rw [← failed]; rfl, settled⟩
  · rintro after values soundAfter _ ⟨same, settled⟩
    exact Query.runs_pure soundAfter ⟨by rw [← same]; rfl, settled⟩

/-- Following an instance of a supertype. -/
theorem runs_forceEdge (wellFormed : env.tree.WellFormed) (sound : session.Sound env)
    {id : ItemId} {supertype : Supertype} {reference : Reference}
    (given : Instance env session.cells id supertype reference) :
    Query.Runs (Sound env) Defers session (env.forceEdge reference) fun after =>
      Agree (fun _ edge => Edge env after.cells id supertype reference edge)
        (env.follow id supertype) := by
  unfold forceEdge follow
  refine Query.Runs.recover (.argumentsKept reference.name) (pure reference) (fun _ => rfl)
    (runs_forceReference wellFormed sound given.fits) ?_ ?_ ?_
  · rintro after edge soundAfter _ ⟨ran, _⟩
    rw [forcedAll_instance given] at ran
    obtain ⟨values, converts, same⟩ := Except.bind_eq_ok ran.symm
    cases same
    rw [converts, given.item, given.name]
    exact Query.runs_pure soundAfter (.value (.converted converts))
  · rintro after fault hard ⟨ran, _⟩
    rw [forcedAll_instance given] at ran
    rw [Except.bind_pure_eq_error ran.symm, tolerated_error_of_hard hard]
    exact .fault fault
  · rintro after fault events soundAfter _ unresolved ⟨ran, settled⟩
    rw [forcedAll_instance given] at ran
    have failed := Except.bind_pure_eq_error ran.symm
    rw [failed, tolerated_error_of_unresolved unresolved]
    exact Query.runs_pure (soundAfter.congr rfl rfl) (.value (.kept failed unresolved settled))

/-- The step of a search that follows a reference to an item of the tree, with the
arguments along the way carried through. -/
theorem runs_entering {Node : Type} (view : Option Reference) (enter : Reference → Node)
    {step : Query Reference} {good : Session → Except Fault Reference → Prop}
    {fine : Session → Except Fault (Option Node) → Prop}
    (stepped : Query.Runs (Sound env) Defers session step good)
    (fails : ∀ after fault, good after (.error fault) → fine after (.error fault))
    (inside : ∀ after edge, session.Follows after → good after (.ok edge) →
      edge.item < env.tree.size)
    (enters : ∀ after edge, after.Sound env → session.Follows after → good after (.ok edge) →
      ∀ last, after.Defers last →
        fine last (.ok (some (enter (edge.seenThrough view after.cells))))) :
    Query.Runs (Sound env) Follows session (do
        let edge ← step
        let edge := edge.seenThrough view (← Query.cells)
        env.known edge.item
        pure (some (enter edge))) fine := by
  refine stepped.follows_of_defers.bind ?_ ?_
  · exact fun after fault _ failed => fails after fault failed
  · intro after edge soundAfter follows stepsTo
    have seenInside : (edge.seenThrough view after.cells).item < env.tree.size := by
      rw [Reference.item_seenThrough]
      exact inside after edge follows stepsTo
    refine Query.Runs.bind_cells ?_
    refine (Query.runs_known soundAfter seenInside).follows_of_defers.bind ?_ ?_
    · rintro last cause _ ⟨_, failed⟩
      cases failed
    · rintro last _ soundLast _ ⟨defers, _⟩
      exact Query.runs_pure soundLast (enters after edge soundAfter follows stepsTo last defers)

/-- Following a reference without deferred parts does not depend on what the cells
hold. -/
theorem runs_entering_eager {Node : Type} (view : Option Reference) (enter : Reference → Node)
    {step : Query Reference} {expected : Except Fault Reference}
    (stepped : Query.Runs (Sound env) Defers session step fun _ outcome => outcome = expected)
    (placed : ∀ reference, expected = .ok reference →
      reference.item < env.tree.size ∧ Ty.allEager reference.args = true) :
    Query.Runs (Sound env) Follows session (do
        let edge ← step
        let edge := edge.seenThrough view (← Query.cells)
        env.known edge.item
        pure (some (enter edge)))
      fun _ outcome => outcome =
        expected.map fun reference => some (enter (reference.seenThrough view .empty)) := by
  refine runs_entering view enter stepped ?_ ?_ ?_
  · rintro after fault failed
    rw [← failed]
    rfl
  · intro after edge _ given
    exact (placed edge given.symm).1
  · intro after edge _ _ given last _
    rw [Reference.seenThrough_eq_empty view after.cells (placed edge given.symm).2, ← given]
    rfl

end JavaSymbols.Environment

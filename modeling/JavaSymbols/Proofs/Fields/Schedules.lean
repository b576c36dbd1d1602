import JavaSymbols.Proofs.Fields.Entries
import JavaSymbols.Proofs.Views.Alike

/-!
# Schedules of looking through

A supertype with a type argument that does not resolve is followed as it stands,
and its arguments stay deferred.  When the fields of an item further below are
collected, a deferred argument is looked through if it has been converted by
then, and is left alone otherwise.  A schedule says which arguments are looked
through at each item; the type of an inherited field is settled when all
schedules that can come about lead to the same resolved type.
-/

namespace JavaSymbols

/-- Which deferred type arguments are looked through, by the item whose supertype
they belong to and their position. -/
abbrev Look := ItemId → Nat → Bool

/-- What is looked through when the fields of each item are collected. -/
abbrev Schedule := ItemId → Look

namespace Environment

variable (env : Environment)

/-! ## Supertypes as they are followed -/

/-- A supertype with a type argument that does not convert. -/
def Open (link : ItemId × Supertype) : Prop :=
  ∃ fault, env.convertArgs link.1 link.2 = .error fault

/-- The type arguments up to a position all convert. -/
def Ahead (link : ItemId × Supertype) (position : Nat) : Prop :=
  ∃ values, (link.2.args.take (position + 1)).mapM (env.convertArg link.1) = .ok values

/-- A type argument that stays deferred, numbered by its position. -/
def standingArg (id : ItemId) (arg : SupertypeArg) (position : Nat) : Ty :=
  match arg with
  | .written source => .deferred position source id
  | .self => (env.rawReference id).toTy

/-- The reference as which a supertype of an item is followed: with converted
type arguments, or with all of them deferred when one does not convert. -/
def standing (link : ItemId × Supertype) : Reference where
  item := link.2.item
  name := link.2.name
  args :=
    match env.convertArgs link.1 link.2 with
    | .ok values => values
    | .error _ => link.2.args.mapIdx fun position arg => env.standingArg link.1 arg position

/-! ## Types under a schedule -/

/-- What is seen of a deferred argument that is looked through, if it
converts. -/
def looked (look : Look) (position : Nat) (source : TypeExpr) (site : ItemId) : Option Ty :=
  match look site position, (env.convert site source).outcome with
  | true, .ok type => some type
  | _, _ => none

mutual

/-- A type with some of its deferred parts looked through. -/
def lookThrough (look : Look) : Ty → Ty
  | .deferred position source site =>
      (env.looked look position source site).getD (.deferred position source site)
  | .reference item name args => .reference item name (lookThroughAll look args)
  | .array component => .array (lookThrough look component)
  | .upperBounded bound => .upperBounded (lookThrough look bound)
  | .lowerBounded bound => .lowerBounded (lookThrough look bound)
  | .primitive type => .primitive type
  | .void => .void
  | .null => .null
  | .typeVar var => .typeVar var
  | .wildcard => .wildcard

/-- `lookThrough` on every type of a list. -/
def lookThroughAll (look : Look) : List Ty → List Ty
  | [] => []
  | type :: rest => lookThrough look type :: lookThroughAll look rest

end

/-- A type as seen through a supertype, with some of its deferred parts looked
through. -/
def seenBelow (look : Look) (view : Reference) (type : Ty) : Ty :=
  if view.isRaw then type else (env.lookThrough look type).substitute view.binding

/-- The type of a member in the item that declares it. -/
def memberTy (id : ItemId) (member : FieldMember) : Ty :=
  match member.type with
  | none => (env.rawReference id).toTy
  | some source =>
      match (env.convert id source).outcome with
      | .ok type => type
      | .error _ => .deferred 0 source id

/-- A type as seen through the supertypes of a chain, the uppermost first. -/
def scheduled (schedule : Schedule) (chain : List (ItemId × Supertype)) (type : Ty) : Ty :=
  chain.foldr (fun link type => env.seenBelow (schedule link.1) (env.standing link) type) type

/-- The type of an entry under a schedule. -/
def scheduledType (schedule : Schedule) (entry : Entry) : Ty :=
  env.scheduled schedule entry.chain (env.memberTy entry.declaring entry.member)

section

variable {env} {linked : Nat → Nat → TypeExpr → ItemId → Prop} {cells : Cells} {look : Look}

mutual

/-- Looking through set cells is looking through what is looked at, if the two
agree on corresponding cells. -/
theorem alike_lookThrough
    (agrees : ∀ cell position source site, linked cell position source site →
      cells.get? cell = env.looked look position source site)
    (eager : ∀ cell type, cells.get? cell = some type → type.isEager = true) {a b : Ty} :
    a.Alike linked b → (a.settle cells).Alike linked (env.lookThrough look b)
  | @Ty.Alike.deferred _ cell position source site corresponds => by
      rw [Ty.settle, lookThrough, ← agrees cell position source site corresponds]
      cases set : cells.get? cell with
      | none => exact .deferred corresponds
      | some type => exact Ty.alike_self type (eager cell type set)
  | .reference alike => .reference (allAlike_lookThroughAll agrees eager alike)
  | .array alike => .array (alike_lookThrough agrees eager alike)
  | .upperBounded alike => .upperBounded (alike_lookThrough agrees eager alike)
  | .lowerBounded alike => .lowerBounded (alike_lookThrough agrees eager alike)
  | .primitive type => .primitive type
  | .typeVar var => .typeVar var
  | .void => .void
  | .null => .null
  | .wildcard => .wildcard

theorem allAlike_lookThroughAll
    (agrees : ∀ cell position source site, linked cell position source site →
      cells.get? cell = env.looked look position source site)
    (eager : ∀ cell type, cells.get? cell = some type → type.isEager = true)
    {types others : List Ty} : Ty.AllAlike linked types others →
      Ty.AllAlike linked (Ty.settleAll cells types) (env.lookThroughAll look others)
  | .nil => .nil
  | .cons head tail =>
      .cons (alike_lookThrough agrees eager head) (allAlike_lookThroughAll agrees eager tail)

end

/-- Alike types as seen through alike references.  Only the types are looked
into, not the type arguments of the references. -/
theorem alike_seenBelow {wider : Nat → Nat → TypeExpr → ItemId → Prop}
    (agrees : ∀ cell position source site, linked cell position source site →
      cells.get? cell = env.looked look position source site)
    (eager : ∀ cell type, cells.get? cell = some type → type.isEager = true)
    (widen : ∀ cell position source site, linked cell position source site →
      wider cell position source site)
    {view twin : Reference} (sameItem : view.item = twin.item)
    (args : Ty.AllAlike wider view.args twin.args) {a b : Ty} (alike : a.Alike linked b) :
    (view.apply cells a).Alike wider (env.seenBelow look twin b) := by
  have sameRaw : view.isRaw = twin.isRaw := by
    rw [Reference.isRaw, Reference.isRaw, Bool.eq_iff_iff, List.isEmpty_iff_length_eq_zero,
      List.isEmpty_iff_length_eq_zero, (Ty.allAlike_iff.mp args).length_eq]
  unfold Reference.apply seenBelow
  rw [sameRaw]
  split
  · exact Ty.Alike.mono widen alike
  · exact Ty.Alike.substitute (Ty.rel_binding sameItem args)
      (Ty.Alike.mono widen (alike_lookThrough agrees eager alike))

end

/-! ## Schedules that can come about -/

/-- What a schedule looks through at an item and at the item above it, reached
through one supertype.  What is looked through above is looked through below,
and the arguments that convert before one that does not are looked through at
once.  The fields of an item from which a cycle can be reached are collected
together with those of the item below, so that nothing is converted between. -/
structure Onward (schedule : Schedule) (lower : ItemId) (upper : ItemId × Supertype)
    (rest : List (ItemId × Supertype)) : Prop where
  grows : ∀ link ∈ rest, env.Open link → ∀ position,
    schedule upper.1 link.1 position = true → schedule lower link.1 position = true
  ahead : env.Open upper → ∀ position, env.Ahead upper position →
    schedule lower upper.1 position = true
  cyclic : env.ReachesCycle upper.1 → ∀ link ∈ rest, env.Open link → ∀ position,
    schedule lower link.1 position = true → schedule upper.1 link.1 position = true

/-- The schedules that can come about along a chain. -/
def Admissible (schedule : Schedule) : List (ItemId × Supertype) → Prop
  | [] => True
  | [_] => True
  | lower :: upper :: rest =>
      env.Onward schedule lower.1 upper rest ∧ Admissible schedule (upper :: rest)

section

variable {env} {first second : Schedule}

/-- Only what is looked through at the items of a chain matters. -/
theorem scheduled_congr {chain : List (ItemId × Supertype)}
    (same : ∀ link ∈ chain, first link.1 = second link.1) (type : Ty) :
    env.scheduled first chain type = env.scheduled second chain type := by
  induction chain with
  | nil => rfl
  | cons link rest ih =>
      have above := ih fun upper listed => same upper (List.mem_cons_of_mem link listed)
      change env.seenBelow (first link.1) (env.standing link) (env.scheduled first rest type) =
        env.seenBelow (second link.1) (env.standing link) (env.scheduled second rest type)
      rw [above, same link List.mem_cons_self]

theorem Admissible.congr {chain : List (ItemId × Supertype)}
    (admissible : env.Admissible first chain)
    (same : ∀ link ∈ chain, first link.1 = second link.1) : env.Admissible second chain := by
  induction chain with
  | nil => trivial
  | cons lower rest ih =>
      cases rest with
      | nil => trivial
      | cons upper rest =>
          obtain ⟨onward, above⟩ := admissible
          have sameLower := same lower List.mem_cons_self
          have sameUpper := same upper (by simp)
          refine ⟨?_, ih above fun link listed => same link (List.mem_cons_of_mem lower listed)⟩
          obtain ⟨grows, ahead, cyclic⟩ := onward
          rw [sameLower] at grows ahead cyclic
          rw [sameUpper] at grows cyclic
          exact ⟨grows, ahead, cyclic⟩

/-- What can be admitted along a chain can be admitted further above. -/
theorem Admissible.tail {lower : ItemId × Supertype} {rest : List (ItemId × Supertype)}
    (admissible : env.Admissible first (lower :: rest)) : env.Admissible first rest := by
  cases rest with
  | nil => trivial
  | cons upper rest => exact admissible.2

/-- What is looked through at an item is looked through at the items below. -/
theorem Admissible.grows {lower upper : ItemId × Supertype}
    {between rest : List (ItemId × Supertype)}
    (admissible : env.Admissible first (lower :: between ++ upper :: rest))
    {link : ItemId × Supertype} (listed : link ∈ rest) (isOpen : env.Open link) {position : Nat}
    (looks : first upper.1 link.1 position = true) : first lower.1 link.1 position = true := by
  induction between generalizing lower with
  | nil => exact admissible.1.grows link listed isOpen position looks
  | cons next between ih =>
      have above := ih admissible.tail
      exact admissible.1.grows link (by simp [listed]) isOpen position above

/-- The arguments that convert before one that does not are looked through at all
items below. -/
theorem Admissible.ahead {lower link : ItemId × Supertype} {rest : List (ItemId × Supertype)}
    (admissible : env.Admissible first (lower :: rest)) (listed : link ∈ rest)
    (isOpen : env.Open link) {position : Nat} (isAhead : env.Ahead link position) :
    first lower.1 link.1 position = true := by
  induction rest generalizing lower with
  | nil => cases listed
  | cons upper rest ih =>
      rcases List.mem_cons.mp listed with rfl | above
      · exact admissible.1.ahead isOpen position isAhead
      · exact admissible.1.grows link above isOpen position (ih admissible.tail above)

/-- Below an item from which a cycle can be reached, no more is looked through
than there. -/
theorem Admissible.cyclic {lower upper : ItemId × Supertype}
    {between rest : List (ItemId × Supertype)}
    (admissible : env.Admissible first (lower :: between ++ upper :: rest))
    (cyclic : ∀ link ∈ between ++ [upper], env.ReachesCycle link.1) {link : ItemId × Supertype}
    (listed : link ∈ rest) (isOpen : env.Open link) {position : Nat}
    (looks : first lower.1 link.1 position = true) : first upper.1 link.1 position = true := by
  induction between generalizing lower with
  | nil =>
      exact admissible.1.cyclic (cyclic upper (by simp)) link listed isOpen position looks
  | cons next between ih =>
      apply ih admissible.tail
      · intro other isListed
        exact cyclic other (List.mem_cons_of_mem next isListed)
      · exact admissible.1.cyclic (cyclic next (by simp)) link (by simp [listed]) isOpen position
          looks

end

/-- All schedules that can come about lead to the same resolved type. -/
def Steady (entry : Entry) : Prop :=
  ∀ first second, env.Admissible first entry.chain → env.Admissible second entry.chain →
    env.forced (env.scheduledType first entry) = env.forced (env.scheduledType second entry)

end Environment

end JavaSymbols

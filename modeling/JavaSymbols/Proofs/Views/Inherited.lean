import JavaSymbols.Proofs.Ancestors.Flaws
import JavaSymbols.Proofs.Fields.Chains
import JavaSymbols.Proofs.Fields.Collection
import JavaSymbols.Proofs.Resolution.Variables

/-!
# Types seen along chains of supertypes

A type of an ancestor can be seen from below in two ways: through one supertype
after another, from the ancestor outward, or through a single reference to the
ancestor, composed on the way up.  When all type arguments along the way resolve
and mention the parameters of their own item alone, both ways lead to the same
type.
-/

namespace JavaSymbols.Environment

open Relation

variable {env : Environment}

/-! ## Supertypes with converted arguments -/

/-- Every type argument of a supertype resolves and mentions no type parameter
of an enclosing declaration. -/
def PlainArguments (env : Environment) : Prop :=
  ∀ id < env.tree.size, ∀ found, (env.supertypesOf id true).outcome = .ok found →
    ∀ supertype ∈ found, ∀ source, .written source ∈ supertype.args →
      ∃ type, (env.convert id source).outcome = .ok type ∧
        type.VarsIn fun var => ∀ outer ∈ (env.tree.item id).enclosing, var.owner ≠ .type outer

/-- A supertype of an item as a reference with converted arguments. -/
def converted (env : Environment) (link : ItemId × Supertype) : Reference where
  item := link.2.item
  name := link.2.name
  args :=
    match env.convertArgs link.1 link.2 with
    | .ok values => values
    | .error _ => []

/-- What is known of a supertype whose arguments all convert. -/
structure Converts (env : Environment) (id : ItemId) (supertype : Supertype) : Prop where
  converts : env.convertArgs id supertype = .ok (env.converted (id, supertype)).args
  eager : Ty.allEager (env.converted (id, supertype)).args = true

/-- A supertype whose arguments convert is followed with what they convert to. -/
theorem Edge.eq_converted {cells : Cells} {id : ItemId} {supertype : Supertype}
    {reference edge : Reference} (followed : env.Edge cells id supertype reference edge)
    (converts : env.convertArgs id supertype = .ok (env.converted (id, supertype)).args) :
    edge = env.converted (id, supertype) := by
  cases followed with
  | converted values =>
      rw [converts] at values
      cases values
      rfl
  | kept failed =>
      rw [converts] at failed
      cases failed

/-- Every type argument of a supertype resolves. -/
def Converting (env : Environment) : Prop :=
  ∀ id < env.tree.size, ¬ env.Keeps (.item id)

theorem Converting.converts (converting : env.Converting) (constructed : env.Constructed)
    {id : Nat} (inside : id < env.tree.size) {found : List Supertype}
    (given : (env.supertypesOf id true).outcome = .ok found) {supertype : Supertype}
    (member : supertype ∈ found) : env.Converts id supertype := by
  cases converts : env.convertArgs id supertype with
  | error fault =>
      exact absurd ⟨found, given, supertype, member, fault, converts⟩ (converting id inside)
  | ok values =>
      have args : (env.converted (id, supertype)).args = values := by
        simp [converted, converts]
      constructor
      · rw [args, converts]
      · rw [args]
        exact allEager_of_convertArgs constructed.wellFormed inside converts

/-- A variable of one item. -/
def OwnedBy (id : ItemId) (var : TypeVar) : Prop :=
  var.owner = .type id

/-- What is known of a supertype whose arguments all convert to types that mention
the parameters of their own item alone. -/
structure Plain (env : Environment) (id : ItemId) (supertype : Supertype) : Prop where
  converts : env.convertArgs id supertype = .ok (env.converted (id, supertype)).args
  eager : Ty.allEager (env.converted (id, supertype)).args = true
  owned : Ty.AllVarsIn (OwnedBy id) (env.converted (id, supertype)).args

theorem PlainArguments.plain (plain : env.PlainArguments) (constructed : env.Constructed)
    {id : Nat} (inside : id < env.tree.size) {found : List Supertype}
    (given : (env.supertypesOf id true).outcome = .ok found) {supertype : Supertype}
    (member : supertype ∈ found) : env.Plain id supertype := by
  have each : ∀ arg ∈ supertype.args, ∃ type, env.convertArg id arg = .ok type ∧
      type.isEager = true ∧ type.VarsIn (OwnedBy id) := by
    intro arg isArg
    cases arg with
    | self => exact ⟨_, rfl, rfl, trivial⟩
    | written source =>
        obtain ⟨type, converts, apart⟩ := plain id inside found given supertype member source isArg
        have inScope := varsIn_convertAt (outsideGenericMethods_body env id) source type converts
        refine ⟨type, converts, isEager_of_convert constructed.wellFormed inside converts, ?_⟩
        apply Ty.VarsIn.mono _ type (Ty.VarsIn.and type inScope apart)
        rintro var ⟨⟨link, isLink, owned⟩, notEnclosing⟩
        rcases List.mem_cons.mp isLink with rfl | outer
        · exact owned
        · exact absurd owned (notEnclosing link outer)
  have given : ∃ values, env.convertArgs id supertype = .ok values := by
    apply exists_mapM_eq_ok
    intro arg isArg
    obtain ⟨type, converts, _⟩ := each arg isArg
    exact ⟨type, converts⟩
  obtain ⟨values, converts⟩ := given
  have args : (env.converted (id, supertype)).args = values := by
    simp [converted, converts]
  have eachValue : ∀ value ∈ values, value.isEager = true ∧ value.VarsIn (OwnedBy id) := by
    intro value isValue
    obtain ⟨arg, isArg, same⟩ := exists_of_mem_mapM converts isValue
    obtain ⟨type, converts, facts⟩ := each arg isArg
    rw [converts] at same
    cases same
    exact facts
  constructor
  · rw [args, converts]
  · rw [args, Ty.allEager_eq_all, List.all_eq_true]
    exact fun value isValue => (eachValue value isValue).1
  · rw [args]
    exact Ty.allVarsIn_iff.mpr fun value isValue => (eachValue value isValue).2

theorem PlainArguments.converting (plain : env.PlainArguments) (constructed : env.Constructed) :
    env.Converting := by
  rintro id inside ⟨found, given, supertype, member, fault, failed⟩
  rw [(plain.plain constructed inside given member).converts] at failed
  cases failed

/-! ## Two ways of seeing a type from below -/

/-- A type seen through the supertypes of a chain, the uppermost first. -/
def inheritedType (env : Environment) (chain : List (ItemId × Supertype)) (type : Ty) : Ty :=
  chain.foldr (fun link type => (env.converted link).instantiate type) type

/-- The supertypes of a chain composed to one reference, the lowest first, as
seen through a reference to the item that the chain starts from. -/
def composedView (env : Environment) (chain : List (ItemId × Supertype))
    (view : Option Reference) : Option Reference :=
  chain.foldl (fun view link => some ((env.converted link).seenThrough view .empty)) view

/-- A variable of an item above. -/
def OwnedAbove (env : Environment) (id : ItemId) (var : TypeVar) : Prop :=
  ∃ upper, ReflTransGen env.Inherits id upper ∧ OwnedBy upper var

/-- What is known of a type seen along a first chain. -/
theorem inheritedType_facts (plain : env.PlainArguments) (constructed : env.Constructed)
    {target id : Nat} {chain : List (ItemId × Supertype)} {type : Ty}
    (eager : type.isEager = true) (owned : type.VarsIn (OwnedBy target))
    (first : FirstChain env target id chain) : id < env.tree.size →
      (env.inheritedType chain type).isEager = true ∧
        (env.inheritedType chain type).VarsIn (env.OwnedAbove id) := by
  induction first with
  | here =>
      intro _
      refine ⟨eager, ?_⟩
      apply Ty.VarsIn.mono _ type owned
      intro var isOwned
      exact ⟨target, .refl, isOwned⟩
  | @step id supertype before after chain other given misses onward ih =>
      intro inside
      have step := inherits_of_given given
      have edge := plain.plain constructed inside given (by simp : supertype ∈ _)
      obtain ⟨eagerAbove, within⟩ := ih (step.lt constructed inside)
      refine ⟨Reference.isEager_instantiate edge.eager eagerAbove, ?_⟩
      apply Reference.varsIn_instantiate
      · intro argument isArgument
        apply Ty.VarsIn.mono _ argument (Ty.allVarsIn_iff.mp edge.owned argument isArgument)
        intro var isOwned
        exact ⟨id, .refl, isOwned⟩
      · apply Ty.VarsIn.mono _ _ within
        rintro var ⟨upper, leads, isOwned⟩
        exact ⟨upper, .head step leads, isOwned⟩

/-- Both ways of seeing a type from below lead to the same type. -/
theorem seenThrough_composedView (plain : env.PlainArguments) (constructed : env.Constructed)
    (acyclic : env.Acyclic) {target id : Nat} {chain : List (ItemId × Supertype)} {type : Ty}
    (eager : type.isEager = true) (owned : type.VarsIn (OwnedBy target))
    (first : FirstChain env target id chain) (cells : Cells) : id < env.tree.size →
      ∀ view : Option Reference, (∀ reference, view = some reference → reference.item = id) →
        type.seenThrough (env.composedView chain view) cells =
          (env.inheritedType chain type).seenThrough view cells := by
  induction first with
  | here =>
      intro _ view _
      rfl
  | @step id supertype before after chain other given misses onward ih =>
      intro inside view ofItem
      have step := inherits_of_given given
      have upperInside := step.lt constructed inside
      have edge := plain.plain constructed inside given (by simp : supertype ∈ _)
      obtain ⟨eagerAbove, within⟩ :=
        inheritedType_facts plain constructed eager owned onward upperInside
      have eagerHere : (env.inheritedType ((id, supertype) :: chain) type).isEager = true :=
        Reference.isEager_instantiate edge.eager eagerAbove
      have composed :=
        ih upperInside (some ((env.converted (id, supertype)).seenThrough view .empty))
      have above := composed (by
        intro reference same
        cases same
        cases view <;> rfl)
      refine above.trans ?_
      cases view with
      | none => exact Reference.apply_eq_instantiate cells eagerAbove
      | some view =>
          rw [Ty.seenThrough, Ty.seenThrough, Reference.apply_eq_instantiate cells eagerAbove,
            Reference.apply_eq_instantiate cells eagerHere]
          apply Reference.instantiate_through .empty edge.eager
          -- a variable of the item itself would come from a cycle
          apply Ty.VarsIn.mono _ _ within
          rintro var ⟨upper, leads, isOwned⟩ isOwn
          rw [ofItem view rfl, isOwned, ParamOwner.type.injEq] at isOwn
          subst isOwn
          exact acyclic _ inside (TransGen.head' step leads)

/-! ## Types of inherited fields -/

/-- A field whose type converts has that type in its own item. -/
theorem type_of_own {cells : Cells} {id : ItemId} {member : FieldMember} {source : TypeExpr}
    {type seenType : Ty} (written : member.type = some source)
    (converts : (env.convert id source).outcome = .ok type)
    (declared : OwnType env cells id member seenType) : seenType = type := by
  cases declared with
  | constant untyped =>
      rw [written] at untyped
      cases untyped
  | converted writtenHere convertsHere =>
      rw [written] at writtenHere
      cases writtenHere
      rw [converts] at convertsHere
      cases convertsHere
      rfl
  | deferred writtenHere failed =>
      rw [written] at writtenHere
      cases writtenHere
      rw [converts] at failed
      cases failed

/-- However a field is collected, its type is that of its member seen through the
supertypes of its chain. -/
theorem type_of_seen (plain : env.PlainArguments) (constructed : env.Constructed)
    {target id : Nat} {member : FieldMember} {source : TypeExpr} {type : Ty}
    {chain : List (ItemId × Supertype)} (written : member.type = some source)
    (converts : (env.convert target source).outcome = .ok type) (eager : type.isEager = true)
    (owned : type.VarsIn (OwnedBy target)) (first : FirstChain env target id chain) :
    id < env.tree.size → ∀ {session : Session} {seenType : Ty},
      Seen env .start session ⟨target, member, chain⟩ seenType →
        seenType = env.inheritedType chain type := by
  induction first with
  | here =>
      intro _ session seenType seen
      cases seen with
      | remembered kept _ => exact absurd kept (Session.not_keeps_start _ _)
      | own _ declared => exact type_of_own written converts declared
  | @step id supertype before after chain other given misses onward ih =>
      intro inside session seenType seen
      have step := inherits_of_given given
      have upperInside := step.lt constructed inside
      have edge := plain.plain constructed inside given (by simp : supertype ∈ _)
      generalize same : (Entry.mk target member ((id, supertype) :: chain)) = entry at seen
      cases seen with
      | remembered kept _ => exact absurd kept (Session.not_keeps_start _ _)
      | own _ declared => cases same
      | @inherited _ middle upper _ _ references reference edgeReference upperType _ above early
          sound late remembered listed isInstance followed =>
          rcases upper with ⟨declaring, upperMember, upperChain⟩
          simp only [Entry.below, Entry.mk.injEq, List.cons.injEq, Prod.mk.injEq] at same
          obtain ⟨rfl, rfl, ⟨rfl, rfl⟩, rfl⟩ := same
          have upperIs := ih upperInside above
          have eagerAbove :=
            (inheritedType_facts plain constructed eager owned onward upperInside).1
          rw [followed.eq_converted edge.converts, upperIs]
          exact Reference.apply_eq_instantiate _ eagerAbove

end JavaSymbols.Environment

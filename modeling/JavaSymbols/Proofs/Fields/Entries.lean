import Mathlib.Logic.Relation
import JavaSymbols.Proofs.Session.Ancestors

/-!
# Inherited fields without a session

An entry is a field as it is inherited: the member that gives rise to it, the
item that declares it, and the supertypes that lead there.  The entries of an
item are its own and those of its supertypes in order; on a path that comes back
to an item, only the own ones are taken.  Nothing is remembered and nothing is
deferred.
-/

namespace JavaSymbols

open Relation

/-! ## Members that give rise to fields -/

/-- What gives rise to a field: an enum constant, a record component or a field
of a body. -/
structure FieldMember where
  name : String
  /-- The type as written; an enum constant has that of its enum. -/
  type : Option TypeExpr
  access : Access
  isStatic : Bool
  isVolatile : Bool
  isDerived : Bool
  deriving DecidableEq

/-- A field of a body; those of an interface are public and static. -/
def FieldDecl.member (inInterface : Bool) (field : FieldDecl) : FieldMember where
  name := field.name
  type := some field.type
  access := if inInterface then .publicAccess else field.access
  isStatic := inInterface || field.isStatic
  isVolatile := field.isVolatile
  isDerived := false

/-- A record component as a private field. -/
def Component.member (component : Component) : FieldMember where
  name := component.name
  type := some component.type
  access := .privateAccess
  isStatic := false
  isVolatile := false
  isDerived := true

/-- An enum constant as a public static field. -/
def FieldMember.ofConstant (name : String) : FieldMember where
  name := name
  type := none
  access := .publicAccess
  isStatic := true
  isVolatile := false
  isDerived := false

/-- The members of an item that give rise to fields, in the order of its
fields. -/
def DeclTree.fieldMembers (tree : DeclTree) (id : ItemId) : List FieldMember :=
  let decl := tree.decl id
  match decl.kind with
  | .classType => decl.fields.map (FieldDecl.member false)
  | .interfaceType => decl.fields.map (FieldDecl.member true)
  | .annotationType => decl.fields.map (FieldDecl.member true)
  | .enumType =>
      decl.constants.map FieldMember.ofConstant ++ decl.fields.map (FieldDecl.member false)
  | .recordType => decl.components.map Component.member ++ decl.fields.map (FieldDecl.member false)

/-- A field apart from its type. -/
structure FieldFacts where
  name : String
  declaring : ItemId
  access : Access
  isStatic : Bool
  isVolatile : Bool
  isDerived : Bool
  deriving DecidableEq

/-- A field apart from its type. -/
def Field.facts (field : Field) : FieldFacts :=
  ⟨field.name, field.declaring, field.access, field.isStatic, field.isVolatile, field.isDerived⟩

/-- An inherited field: its member, the item that declares it, and the
supertypes that lead there, each with the item it is a supertype of, starting
from the item that inherits. -/
structure Entry where
  declaring : ItemId
  member : FieldMember
  chain : List (ItemId × Supertype)
  deriving DecidableEq

namespace Entry

/-- The field that an entry describes, apart from its type. -/
def facts (entry : Entry) : FieldFacts :=
  ⟨entry.member.name, entry.declaring, entry.member.access, entry.member.isStatic,
    entry.member.isVolatile, entry.member.isDerived⟩

/-- An entry of a supertype of an item, as inherited by the item. -/
def below (id : ItemId) (supertype : Supertype) (entry : Entry) : Entry :=
  { entry with chain := (id, supertype) :: entry.chain }

@[simp]
theorem facts_below (id : ItemId) (supertype : Supertype) (entry : Entry) :
    (entry.below id supertype).facts = entry.facts :=
  rfl

end Entry

namespace Environment

variable (env : Environment)

/-! ## Entries -/

/-- A member has a type unless the conversion of the written type ends with a
fault other than a missing name. -/
def checkMember (id : ItemId) (member : FieldMember) : Except Fault Unit :=
  match member.type with
  | none => pure ()
  | some source => tolerated (env.convert id source).outcome

theorem checkMember_of_written {env : Environment} {id : ItemId} {member : FieldMember}
    {source : TypeExpr} (written : member.type = some source) :
    env.checkMember id member = tolerated (env.convert id source).outcome := by
  rw [checkMember, written]

/-- A member of an item as an entry. -/
def ownEntry (id : ItemId) (member : FieldMember) : Except Fault Entry := do
  env.checkMember id member
  pure ⟨id, member, []⟩

/-- The entries that an item has without its supertypes. -/
def ownEntries (id : ItemId) : Except Fault (List Entry) :=
  (env.tree.fieldMembers id).mapM (env.ownEntry id)

/-- Going on from an item that is not on a path leaves fewer items that are
not. -/
theorem length_unvisited_lt {tree : DeclTree} {id : Nat} {path : List ItemId}
    (inside : id < tree.size) (fresh : id ∉ path) :
    (tree.ids.filter (· ∉ id :: path)).length < (tree.ids.filter (· ∉ path)).length := by
  have split : tree.ids.filter (· ∉ id :: path) = (tree.ids.filter (· ∉ path)).filter (· ≠ id) := by
    rw [List.filter_filter]
    congr 1
    funext other
    simp
  rw [split]
  refine List.length_filter_lt_length_iff_exists.mpr ⟨id, ?_, by simp⟩
  simpa [DeclTree.ids, fresh] using inside

/-- The entries of an item reached along a path of items, innermost first, given
what following a supertype can end with. -/
def entriesAlong (follow : ItemId → Supertype → Except Fault Unit) (path : List ItemId)
    (id : Nat) : Except Fault (List Entry) :=
  if _fresh : id < env.tree.size ∧ id ∉ path then do
    let own ← env.ownEntries id
    let supertypes ← (env.supertypesOf id true).outcome
    let inherited ← supertypes.mapM fun supertype => do
      follow id supertype
      let entries ← entriesAlong follow (id :: path) supertype.item
      pure (entries.map (Entry.below id supertype))
    pure (own ++ inherited.flatten)
  else env.ownEntries id
termination_by (env.tree.ids.filter (· ∉ path)).length
decreasing_by exact length_unvisited_lt _fresh.1 _fresh.2

/-- The entries of an item. -/
def entriesOf (id : ItemId) : Except Fault (List Entry) :=
  env.entriesAlong env.follow [] id

/-! ## Cycles -/

/-- One item is a direct supertype of another. -/
def Inherits (lower upper : ItemId) : Prop :=
  ∃ found, (env.supertypesOf lower true).outcome = .ok found ∧
    ∃ supertype ∈ found, supertype.item = upper

/-- The supertypes of an item of the tree are items of the tree. -/
theorem Inherits.lt {env : Environment} (constructed : env.Constructed) {lower upper : Nat}
    (inside : lower < env.tree.size) (step : env.Inherits lower upper) :
    upper < env.tree.size := by
  obtain ⟨found, given, supertype, member, rfl⟩ := step
  exact (firm_supertypesOf constructed inside).good found given supertype member

/-- Supertypes lead from an item to one that is among its own supertypes. -/
def ReachesCycle (id : ItemId) : Prop :=
  ∃ repeated, ReflTransGen env.Inherits id repeated ∧ TransGen env.Inherits repeated repeated

section

variable {env : Environment} {follow : ItemId → Supertype → Except Fault Unit}
variable {path other : List ItemId} {id : Nat}

theorem entriesAlong_of_mem (visited : id ∈ path) :
    env.entriesAlong follow path id = env.ownEntries id := by
  rw [entriesAlong, dif_neg (fun fresh => fresh.2 visited)]

/-- The entries that an item inherits through one of its supertypes. -/
def entriesBelow (env : Environment) (follow : ItemId → Supertype → Except Fault Unit)
    (path : List ItemId) (id : ItemId) (supertype : Supertype) : Except Fault (List Entry) := do
  follow id supertype
  let entries ← env.entriesAlong follow (id :: path) supertype.item
  pure (entries.map (Entry.below id supertype))

theorem entriesAlong_of_fresh (inside : id < env.tree.size) (fresh : id ∉ path) :
    env.entriesAlong follow path id = (do
      let own ← env.ownEntries id
      let supertypes ← (env.supertypesOf id true).outcome
      let inherited ← supertypes.mapM (env.entriesBelow follow path id)
      pure (own ++ inherited.flatten)) := by
  rw [entriesAlong, dif_pos ⟨inside, fresh⟩]
  rfl

/-- The entries of an item whose own entries and supertypes are known. -/
theorem entriesAlong_of_found (inside : id < env.tree.size) (fresh : id ∉ path)
    {own : List Entry} {found : List Supertype} (givenOwn : env.ownEntries id = .ok own)
    (given : (env.supertypesOf id true).outcome = .ok found) :
    env.entriesAlong follow path id = (do
      let inherited ← found.mapM (env.entriesBelow follow path id)
      pure (own ++ inherited.flatten)) := by
  rw [entriesAlong_of_fresh inside fresh, givenOwn, given]
  rfl

/-- Only those items of the path matter that supertypes lead back to. -/
theorem entriesAlong_congr
    (agree : ∀ upper, ReflTransGen env.Inherits id upper → (upper ∈ path ↔ upper ∈ other)) :
    env.entriesAlong follow path id = env.entriesAlong follow other id := by
  fun_induction entriesAlong env follow path id generalizing other with
  | case1 path id fresh ih =>
      have freshOther : id ∉ other := fun visited => fresh.2 ((agree id .refl).mpr visited)
      rw [entriesAlong_of_fresh fresh.1 freshOther]
      cases given : (env.supertypesOf id true).outcome with
      | error fault => rfl
      | ok found =>
          have inherited : found.mapM (env.entriesBelow follow path id) =
              found.mapM (env.entriesBelow follow other id) := by
            refine mapM_congr_of_mem ?_
            intro supertype member
            have same := @ih supertype (id :: other) (by
              intro upper chain
              have below := agree upper (.head ⟨found, given, supertype, member, rfl⟩ chain)
              simp [below])
            rw [entriesBelow, entriesBelow, same]
          exact congrArg (fun rest : Except Fault (List (List Entry)) => (do
            let own ← env.ownEntries id
            let inherited ← rest
            pure (own ++ inherited.flatten))) inherited
  | case2 path id visited =>
      have visitedOther : ¬ (id < env.tree.size ∧ id ∉ other) := by
        rintro ⟨inside, fresh⟩
        exact visited ⟨inside, fun member => fresh ((agree id .refl).mp member)⟩
      rw [entriesAlong, dif_neg visitedOther]

/-- A member lacks a type only when the source of names strays from the tree. -/
theorem stray_of_checkMember (wellFormed : env.tree.WellFormed) (inside : id < env.tree.size)
    {member : FieldMember} {fault : Fault} (failed : env.checkMember id member = .error fault) :
    env.Stray fault := by
  unfold checkMember at failed
  split at failed
  · cases failed
  · exact stray_of_tolerated (fun _ => warranted_of_convert wellFormed inside) failed

/-- Own entries are missing only when the source of names strays from the tree. -/
theorem stray_of_ownEntries (wellFormed : env.tree.WellFormed) (inside : id < env.tree.size)
    {fault : Fault} (failed : env.ownEntries id = .error fault) : env.Stray fault := by
  obtain ⟨member, _, failedMember⟩ := exists_of_mapM_eq_error failed
  exact stray_of_checkMember wellFormed inside (Except.bind_pure_eq_error failedMember)

/-- Entries are missing only when the source of names strays from the tree. -/
theorem stray_of_entriesAlong (constructed : env.Constructed) (inside : id < env.tree.size)
    {fault : Fault} (failed : env.entriesAlong env.follow path id = .error fault) :
    env.Stray fault := by
  have wellFormed := constructed.wellFormed
  fun_induction entriesAlong env env.follow path id with
  | case1 path id fresh ih =>
      rcases Except.bind_eq_error failed with own | ⟨_, _, failed⟩
      · exact stray_of_ownEntries wellFormed inside own
      rcases Except.bind_eq_error failed with above | ⟨found, given, failed⟩
      · exact (firm_supertypesOf constructed inside).stray fault above
      obtain ⟨supertype, member, failed⟩ :=
        exists_of_mapM_eq_error (Except.bind_pure_eq_error failed)
      rcases Except.bind_eq_error failed with blocked | ⟨_, _, failed⟩
      · exact stray_of_follow wellFormed inside blocked
      · have inherits : env.Inherits id supertype.item := ⟨found, given, supertype, member, rfl⟩
        exact ih supertype (inherits.lt constructed inside) (Except.bind_pure_eq_error failed)
  | case2 path id visited => exact stray_of_ownEntries wellFormed inside failed

/-- A cycle can be reached from an item just when it can be reached from one of
its supertypes. -/
theorem reachesCycle_iff {found : List Supertype}
    (given : (env.supertypesOf id true).outcome = .ok found) :
    env.ReachesCycle id ↔ ∃ supertype ∈ found, env.ReachesCycle supertype.item := by
  constructor
  · rintro ⟨repeated, path, cycle⟩
    rcases ReflTransGen.cases_head path with rfl | ⟨upper, step, onward⟩
    · obtain ⟨upper, step, back⟩ := TransGen.head'_iff.mp cycle
      obtain ⟨others, same, supertype, member, rfl⟩ := step
      cases given.symm.trans same
      exact ⟨supertype, member, _, back, cycle⟩
    · obtain ⟨others, same, supertype, member, rfl⟩ := step
      cases given.symm.trans same
      exact ⟨supertype, member, repeated, onward, cycle⟩
  · rintro ⟨supertype, member, repeated, path, cycle⟩
    exact ⟨repeated, .head ⟨found, given, supertype, member, rfl⟩ path, cycle⟩

end

end Environment

end JavaSymbols

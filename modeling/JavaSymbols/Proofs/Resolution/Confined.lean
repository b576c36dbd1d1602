import JavaSymbols.Proofs.DeclTree.WellFormed
import JavaSymbols.Supertype

/-!
# Resolution stays in the tree

Names are resolved through a source of names that may answer any id, but every
id is validated before it is used.  What a lookup denotes is therefore always a
declaration of the tree, and a lookup ends with a fault only when the source
answers an id outside the tree.  A fault of that kind is never passed over.
-/

namespace JavaSymbols

namespace DeclTree

/-- The declarations of a tree: its items, and the type parameters that its
items and their methods introduce. -/
def Declares (tree : DeclTree) : Decl → Prop
  | .item id => id < tree.size
  | .parameter param =>
      param.owner.item < tree.size ∧ param.index < (tree.paramsOf param.owner).length

theorem Declares.site_lt {tree : DeclTree} {decl : Decl} (declares : tree.Declares decl) :
    decl.site < tree.size := by
  cases decl with
  | item id => exact declares
  | parameter param => exact declares.1

/-- A type parameter found by name is one of those that its owner introduces. -/
theorem declares_parameterNamed? {tree : DeclTree} {owner : ParamOwner} {name : String}
    {param : TypeParameter} (inside : owner.item < tree.size)
    (found : tree.parameterNamed? owner name = some param) :
    tree.Declares (.parameter param) := by
  obtain ⟨index, isFirst, rfl⟩ := Option.map_eq_some_iff.mp found
  obtain ⟨bound, _⟩ := List.findIdx?_eq_some_iff_getElem.mp isFirst
  exact ⟨inside, bound⟩

end DeclTree

namespace Environment

/-- Environments as they are created: over a grown tree, with the root types
that creation looks up. -/
structure Constructed (env : Environment) : Prop where
  built : env.tree.Built
  created : (create env.tree env.solve env.roots).outcome = .ok env

/-- The source of names answers only ids of the tree. -/
def InTree (env : Environment) : Prop :=
  ∀ name id, env.solve name = some id → id < env.tree.size

variable {env : Environment}

/-! ## Outcomes of resolution -/

/-- The fault that the source of names answered an id outside the tree. -/
def Stray (env : Environment) (fault : Fault) : Prop :=
  ∃ name id, env.solve name = some id ∧ env.tree.size ≤ id ∧
    fault = .inconsistent (.unknownItem id)

theorem Stray.hard {fault : Fault} (stray : env.Stray fault) : fault.isUnresolved = false := by
  obtain ⟨_, _, _, _, rfl⟩ := stray
  rfl

/-- A source of names that keeps to the tree does not stray from it. -/
theorem InTree.not_stray (inTree : env.InTree) (fault : Fault) : ¬ env.Stray fault := by
  rintro ⟨name, id, known, outside, _⟩
  exact Nat.not_le_of_gt (inTree name id known) outside

/-- A computation that does not give up for want of a name.  Its values have a
property, and it ends with a fault only when the source of names strays from the
tree. -/
structure Firm {α : Type} (env : Environment) (good : α → Prop) (run : Traced α) : Prop where
  good : ∀ value, run.outcome = .ok value → good value
  stray : ∀ fault, run.outcome = .error fault → env.Stray fault

/-- A computation that may give up for want of a name.  Its values have a
property, and it gives up for no other reason unless the source of names strays
from the tree. -/
structure Soft {α : Type} (env : Environment) (good : α → Prop) (run : Traced α) : Prop where
  good : ∀ value, run.outcome = .ok value → good value
  warranted : ∀ fault, run.outcome = .error fault → fault.isUnresolved = true ∨ env.Stray fault

section Combination

variable {α β : Type} {good : α → Prop} {fine : β → Prop}

/-- The faults of a firm computation are never passed over. -/
theorem Firm.hard {run : Traced α} (firm : Firm env good run) :
    ∀ fault, run.outcome = .error fault → fault.isUnresolved = false :=
  fun fault failed => (firm.stray fault failed).hard

/-- A firm computation has a value when the source of names keeps to the tree. -/
theorem Firm.total {run : Traced α} (firm : Firm env good run) (inTree : env.InTree) :
    ∃ value, run.outcome = .ok value := by
  cases ran : run.outcome with
  | ok value => exact ⟨value, rfl⟩
  | error fault => exact absurd (firm.stray fault ran) (inTree.not_stray fault)

/-- When the source of names keeps to the tree, a name that denotes nothing is
the only reason to give up. -/
theorem Soft.soft {run : Traced α} (soft : Soft env good run) (inTree : env.InTree) :
    ∀ fault, run.outcome = .error fault → fault.isUnresolved = true :=
  fun fault failed => (soft.warranted fault failed).resolve_right (inTree.not_stray fault)

theorem firm_pure {value : α} (holds : good value) : Firm env good (pure value) where
  good other same := by
    cases same
    exact holds
  stray fault failed := by cases failed

theorem Firm.bind {first : Traced α} {next : α → Traced β} (head : Firm env good first)
    (tail : ∀ value, good value → Firm env fine (next value)) :
    Firm env fine (first >>= next) where
  good value reached := by
    rw [Traced.outcome_bind] at reached
    cases start : first.outcome with
    | error fault => simp [start, Except.bind] at reached
    | ok middle =>
        rw [start] at reached
        exact (tail middle (head.good middle start)).good value reached
  stray fault failed := by
    rw [Traced.outcome_bind] at failed
    cases start : first.outcome with
    | error cause =>
        rw [start] at failed
        cases failed
        exact head.stray fault start
    | ok middle =>
        rw [start] at failed
        exact (tail middle (head.good middle start)).stray fault failed

theorem Firm.mono {run : Traced α} {weaker : α → Prop} (firm : Firm env good run)
    (weaken : ∀ value, good value → weaker value) : Firm env weaker run where
  good value reached := weaken value (firm.good value reached)
  stray := firm.stray

/-- A computation that does not give up is one that may. -/
theorem Firm.toSoft {run : Traced α} (firm : Firm env good run) : Soft env good run where
  good := firm.good
  warranted fault failed := .inr (firm.stray fault failed)

theorem Soft.mono {run : Traced α} {weaker : α → Prop} (soft : Soft env good run)
    (weaken : ∀ value, good value → weaker value) : Soft env weaker run where
  good value reached := weaken value (soft.good value reached)
  warranted := soft.warranted

theorem Soft.bind {first : Traced α} {next : α → Traced β} (head : Soft env good first)
    (tail : ∀ value, good value → Soft env fine (next value)) :
    Soft env fine (first >>= next) where
  good value reached := by
    rw [Traced.outcome_bind] at reached
    cases start : first.outcome with
    | error fault => simp [start, Except.bind] at reached
    | ok middle =>
        rw [start] at reached
        exact (tail middle (head.good middle start)).good value reached
  warranted fault failed := by
    rw [Traced.outcome_bind] at failed
    cases start : first.outcome with
    | error cause =>
        rw [start] at failed
        cases failed
        exact head.warranted fault start
    | ok middle =>
        rw [start] at failed
        exact (tail middle (head.good middle start)).warranted fault failed

/-- Firm computations for each entry of a list. -/
theorem firm_mapM {run : β → Traced α} {entries : List β}
    (each : ∀ entry ∈ entries, Firm env good (run entry)) :
    Firm env (fun values => ∀ value ∈ values, good value) (entries.mapM run) := by
  induction entries with
  | nil => exact firm_pure (by simp)
  | cons entry rest ih =>
      rw [List.mapM_cons]
      apply (each entry List.mem_cons_self).bind
      intro value holds
      apply (ih fun other member => each other (List.mem_cons_of_mem entry member)).bind
      intro values all
      exact firm_pure (List.forall_mem_cons.mpr ⟨holds, all⟩)

/-- A computation for each entry of a list. -/
theorem soft_mapM {run : β → Traced α} {entries : List β}
    (each : ∀ entry ∈ entries, Soft env good (run entry)) :
    Soft env (fun values => ∀ value ∈ values, good value) (entries.mapM run) := by
  induction entries with
  | nil => exact Firm.toSoft (firm_pure (by simp))
  | cons entry rest ih =>
      rw [List.mapM_cons]
      refine (each entry List.mem_cons_self).bind ?_
      intro value holds
      refine (ih fun other member => each other (List.mem_cons_of_mem entry member)).bind ?_
      intro values all
      exact Firm.toSoft (firm_pure (List.forall_mem_cons.mpr ⟨holds, all⟩))

theorem firm_fail {fault : Fault} (stray : env.Stray fault) :
    Firm env good (Traced.fail fault : Traced α) where
  good value reached := by cases reached
  stray other failed := by
    cases failed
    exact stray

theorem soft_fail {fault : Fault} (unresolved : fault.isUnresolved = true) :
    Soft env good (Traced.fail fault : Traced α) where
  good value reached := by cases reached
  warranted other failed := by
    cases failed
    exact .inl unresolved

end Combination

/-! ## Environments -/

theorem validate_of_lt {tree : DeclTree} (wellFormed : tree.WellFormed) {id : ItemId}
    (inside : id < tree.size) : tree.validate id = .ok () := by
  have linked : (tree.chain id).find? (fun link => (tree.item? link).isNone) = none := by
    rw [List.find?_eq_none]
    intro link member
    have stored := Array.getElem?_eq_getElem (wellFormed.chain_lt inside member)
    simp [DeclTree.item?, stored]
  have unitStored := Array.getElem?_eq_getElem (wellFormed.unit_lt id inside)
  simp [DeclTree.validate, linked, DeclTree.unit?, unitStored]

theorem validate_of_size_le {tree : DeclTree} {id : ItemId} (outside : tree.size ≤ id) :
    tree.validate id = .error (.unknownItem id) := by
  have missing : tree.items[id]? = none := Array.getElem?_eq_none outside
  simp [DeclTree.validate, DeclTree.chain, DeclTree.item?, missing]

theorem lt_of_validate {tree : DeclTree} {id : ItemId} (valid : tree.validate id = .ok ()) :
    id < tree.size := by
  apply Nat.lt_of_not_le
  intro outside
  rw [validate_of_size_le outside] at valid
  cases valid

/-- A root type that was looked up is an item of the tree, the one that the source
of names answers. -/
theorem solved_of_rootType {tree : DeclTree} {solve : String → Option ItemId} {name : String}
    {id : ItemId} (found : (rootType tree solve name).outcome = .ok id) :
    solve name = some id ∧ id < tree.size := by
  simp only [rootType, Traced.outcome_bind] at found
  cases known : solve name with
  | none => simp [known, Traced.orFault, Except.bind] at found
  | some answer =>
      cases valid : tree.validate answer with
      | error why =>
          simp [known, Traced.orFault, Except.bind, validated, valid] at found
      | ok _ =>
          simp only [known, Traced.orFault, Traced.outcome_pure, Except.bind, validated, valid,
            Except.ok.injEq] at found
          subst found
          exact ⟨rfl, lt_of_validate valid⟩

/-- A root type that the source of names answers with an item of the tree is
found. -/
theorem rootType_of_solved {tree : DeclTree} (wellFormed : tree.WellFormed)
    {solve : String → Option ItemId} {name : String} {id : ItemId} (known : solve name = some id)
    (inside : id < tree.size) : rootType tree solve name = pure id := by
  simp [rootType, known, Traced.orFault, validated, validate_of_lt wellFormed inside]

/-- An environment is created when the source of names answers the names of the root
types with items of the tree. -/
theorem create_of_solved {tree : DeclTree} (wellFormed : tree.WellFormed)
    {solve : String → Option ItemId} {roots : RootNames} {object record : ItemId}
    (isObject : solve roots.object = some object) (objectInside : object < tree.size)
    (isRecord : solve roots.recordBase = some record) (recordInside : record < tree.size) :
    (create tree solve roots).outcome = .ok ⟨tree, solve, roots, object, record⟩ := by
  rw [create, rootType_of_solved wellFormed isObject objectInside,
    rootType_of_solved wellFormed isRecord recordInside]
  rfl

namespace Constructed

variable (constructed : env.Constructed)

include constructed

theorem wellFormed : env.tree.WellFormed :=
  constructed.built.wellFormed

/-- The root types are items of the tree that the source of names answers. -/
theorem roots_solved :
    (env.solve env.roots.object = some env.object ∧ env.object < env.tree.size) ∧
      env.solve env.roots.recordBase = some env.record ∧ env.record < env.tree.size := by
  have created := constructed.created
  simp only [create, Traced.outcome_bind] at created
  cases object : (rootType env.tree env.solve env.roots.object).outcome with
  | error fault => simp [object, Except.bind] at created
  | ok objectId =>
      cases record : (rootType env.tree env.solve env.roots.recordBase).outcome with
      | error fault => simp [object, record, Except.bind] at created
      | ok recordId =>
          simp only [object, record, Except.bind, Traced.outcome_report, Traced.outcome_pure,
            Except.ok.injEq] at created
          have sameObject : objectId = env.object := congrArg Environment.object created
          have sameRecord : recordId = env.record := congrArg Environment.record created
          exact ⟨sameObject ▸ solved_of_rootType object, sameRecord ▸ solved_of_rootType record⟩

theorem object_lt : env.object < env.tree.size :=
  constructed.roots_solved.1.2

theorem record_lt : env.record < env.tree.size :=
  constructed.roots_solved.2.2

end Constructed

/-- The check of a known id passes. -/
theorem outcome_known {id : ItemId} (inside : id < env.tree.size) :
    (env.known id).outcome = .ok () := by
  simp [known, inside]

theorem known_of_lt {id : ItemId} (inside : id < env.tree.size) : env.known id = pure () := by
  simp [known, inside]

/-- An id that fails the check is outside the tree. -/
theorem outside_of_known {id : ItemId} {fault : Fault}
    (failed : (env.known id).outcome = .error fault) :
    fault = .outsideTree id ∧ ¬ id < env.tree.size := by
  by_cases inside : id < env.tree.size
  · rw [outcome_known inside] at failed
    cases failed
  · rw [known, if_neg inside] at failed
    cases failed
    exact ⟨rfl, inside⟩

/-- An id that passes the check is one of the tree. -/
theorem lt_of_known {id : ItemId} (checked : (env.known id).outcome = .ok ()) :
    id < env.tree.size := by
  by_cases inside : id < env.tree.size
  · exact inside
  · simp [known, inside] at checked

end Environment

end JavaSymbols

import Mathlib.Data.Fintype.Card
import Mathlib.Data.Fintype.EquivFin
import JavaSymbols.Proofs.Fields.Entries

/-!
# Chains of supertypes

In an acyclic hierarchy several chains can lead from an item to one of its
ancestors.  The first one goes, at each item, through the first supertype from
which the ancestor can be reached.  It is the chain of the first entry that a
field of the ancestor has.
-/

namespace JavaSymbols.Environment

open Relation

variable {env : Environment}

/-! ## Acyclic hierarchies -/

/-- No item is among its own supertypes. -/
def Acyclic (env : Environment) : Prop :=
  ∀ id < env.tree.size, ¬ TransGen env.Inherits id id

/-- The supertypes above an item of the tree are items of the tree. -/
theorem lt_of_leads (constructed : env.Constructed) {lower upper : Nat}
    (inside : lower < env.tree.size) (leads : ReflTransGen env.Inherits lower upper) :
    upper < env.tree.size := by
  induction leads with
  | refl => exact inside
  | tail _ step ih => exact step.lt constructed ih

/-- A hierarchy is acyclic if supertypes rank below the items they are supertypes
of. -/
theorem acyclic_of_descends (constructed : env.Constructed) (rank : Nat → Nat)
    (descends : ∀ lower < env.tree.size, ∀ upper, env.Inherits lower upper →
      rank upper < rank lower) : env.Acyclic := by
  have lower_of_path : ∀ id < env.tree.size, ∀ upper, TransGen env.Inherits id upper →
      rank upper < rank id := by
    intro id inside upper path
    induction path with
    | single step => exact descends id inside _ step
    | tail path step ih =>
        have middleInside := lt_of_leads constructed inside path.to_reflTransGen
        exact (descends _ middleInside _ step).trans ih
  intro id inside cycle
  exact (lower_of_path id inside id cycle).false

/-- Induction along a relation without cycles on the numbers below a bound. -/
theorem induction_of_acyclic {size : Nat} {above : Nat → Nat → Prop}
    (within : ∀ lower < size, ∀ upper, above lower upper → upper < size)
    (acyclic : ∀ id < size, ¬ TransGen above id id) {holds : Nat → Prop}
    (step : ∀ id < size, (∀ upper, above id upper → holds upper) → holds id)
    {id : Nat} (inside : id < size) : holds id := by
  have trans : IsTrans (Fin size) fun upper lower => TransGen above lower.val upper.val :=
    ⟨fun _ _ _ above below => below.trans above⟩
  have irrefl : Std.Irrefl fun upper lower : Fin size => TransGen above lower.val upper.val :=
    ⟨fun item cycle => acyclic item.val item.isLt cycle⟩
  have wellFounded := Finite.wellFounded_of_trans_of_irrefl fun upper lower : Fin size =>
    TransGen above lower.val upper.val
  have all : ∀ item : Fin size, holds item.val := by
    intro item
    induction item using wellFounded.induction with
    | _ item ih =>
        apply step item.val item.isLt
        intro upper isAbove
        exact ih ⟨upper, within item.val item.isLt upper isAbove⟩ (.single isAbove)
  exact all ⟨id, inside⟩

/-- A property holds of all items if it holds of an item whenever it holds of
its supertypes. -/
theorem Acyclic.induction (acyclic : env.Acyclic) (constructed : env.Constructed)
    {holds : Nat → Prop}
    (step : ∀ id < env.tree.size, (∀ upper, env.Inherits id upper → holds upper) → holds id)
    {id : Nat} (inside : id < env.tree.size) : holds id :=
  induction_of_acyclic (fun _ lowerInside _ inherits => inherits.lt constructed lowerInside)
    acyclic step inside

/-! ## Chains of entries -/

/-- A chain of supertypes that leads from an item to another, through each of
the items below the last one once. -/
inductive Chained (env : Environment) (target : ItemId) :
    ItemId → List (ItemId × Supertype) → Prop where
  | here : Chained env target target []
  | step {id : ItemId} {supertype : Supertype} {found : List Supertype}
      {chain : List (ItemId × Supertype)}
      (given : (env.supertypesOf id true).outcome = .ok found) (listed : supertype ∈ found)
      (fresh : ∀ link ∈ chain, link.1 ≠ id) (onward : Chained env target supertype.item chain) :
      Chained env target id ((id, supertype) :: chain)

theorem own_of_ownEntries {id : ItemId} {own : List Entry} (given : env.ownEntries id = .ok own)
    {entry : Entry} (member : entry ∈ own) : entry.declaring = id ∧ entry.chain = [] := by
  obtain ⟨one, _, same⟩ := exists_of_mem_mapM given member
  obtain ⟨_, _, isEntry⟩ := Except.bind_eq_ok same
  cases isEntry
  exact ⟨rfl, rfl⟩

/-- The chain of an entry leads from the item that has it to the item that
declares it, and meets no item of the path on which it was found. -/
theorem chained_of_entriesAlong {follow : ItemId → Supertype → Except Fault Unit}
    {path : List ItemId} {id : Nat} {entries : List Entry}
    (given : env.entriesAlong follow path id = .ok entries) {entry : Entry}
    (member : entry ∈ entries) :
    env.Chained entry.declaring id entry.chain ∧ ∀ link ∈ entry.chain, link.1 ∉ path := by
  fun_induction entriesAlong env follow path id generalizing entries entry with
  | case1 path id fresh ih =>
      obtain ⟨own, givenOwn, given⟩ := Except.bind_eq_ok given
      obtain ⟨found, givenFound, given⟩ := Except.bind_eq_ok given
      obtain ⟨lists, inherited, given⟩ := Except.bind_eq_ok given
      cases given
      rcases List.mem_append.mp member with isOwn | isInherited
      · obtain ⟨declaring, chain⟩ := own_of_ownEntries givenOwn isOwn
        rw [chain, declaring]
        exact ⟨.here, by simp⟩
      · obtain ⟨list, isList, inList⟩ := List.mem_flatten.mp isInherited
        obtain ⟨supertype, listed, below⟩ := exists_of_mem_mapM inherited isList
        obtain ⟨_, _, below⟩ := Except.bind_eq_ok below
        obtain ⟨above, givenAbove, below⟩ := Except.bind_eq_ok below
        cases below
        obtain ⟨upper, isUpper, rfl⟩ := List.mem_map.mp inList
        obtain ⟨chained, apart⟩ := ih supertype givenAbove isUpper
        refine ⟨.step givenFound listed ?_ chained, ?_⟩
        · intro link isLink same
          exact apart link isLink (same ▸ List.mem_cons_self)
        · intro link isLink
          rcases List.mem_cons.mp isLink with rfl | later
          · exact fresh.2
          · exact fun visited => apart link later (List.mem_cons_of_mem id visited)
  | case2 path id visited =>
      obtain ⟨declaring, chain⟩ := own_of_ownEntries given member
      rw [chain, declaring]
      exact ⟨.here, by simp⟩

/-- A chain that is not empty starts from its first item. -/
theorem Chained.head {target id : ItemId} {link : ItemId × Supertype}
    {rest : List (ItemId × Supertype)} (chained : env.Chained target id (link :: rest)) :
    link.1 = id := by
  cases chained
  rfl

/-- Two items from which a chain leads to the same item are the same. -/
theorem Chained.origin {target id other : ItemId} {chain : List (ItemId × Supertype)}
    (chained : env.Chained target id chain) (same : env.Chained target other chain) :
    id = other := by
  cases chained with
  | here => cases same; rfl
  | step => cases same; rfl

/-- The items of a chain lead to its last one. -/
theorem Chained.leads {target id : ItemId} {chain : List (ItemId × Supertype)}
    (chained : env.Chained target id chain) : ReflTransGen env.Inherits id target := by
  induction chained with
  | here => exact .refl
  | step given listed fresh onward ih => exact .head ⟨_, given, _, listed, rfl⟩ ih

/-! ## First chains -/

/-- The first chain of supertypes from an item to another. -/
inductive FirstChain (env : Environment) (target : ItemId) :
    ItemId → List (ItemId × Supertype) → Prop where
  | here : FirstChain env target target []
  | step {id : ItemId} {supertype : Supertype} {before after : List Supertype}
      {chain : List (ItemId × Supertype)} (other : id ≠ target)
      (given : (env.supertypesOf id true).outcome = .ok (before ++ supertype :: after))
      (misses : ∀ early ∈ before, ¬ ReflTransGen env.Inherits early.item target)
      (onward : FirstChain env target supertype.item chain) :
      FirstChain env target id ((id, supertype) :: chain)

theorem inherits_of_given {id : ItemId} {supertype : Supertype} {before after : List Supertype}
    (given : (env.supertypesOf id true).outcome = .ok (before ++ supertype :: after)) :
    env.Inherits id supertype.item :=
  ⟨_, given, supertype, by simp, rfl⟩

theorem FirstChain.leads {target id : ItemId} {chain : List (ItemId × Supertype)}
    (first : FirstChain env target id chain) : ReflTransGen env.Inherits id target := by
  induction first with
  | here => exact .refl
  | step other given misses onward ih => exact .head (inherits_of_given given) ih

/-- In an acyclic hierarchy there is a first chain to every ancestor. -/
theorem exists_firstChain (constructed : env.Constructed) (acyclic : env.Acyclic) {target id : Nat}
    (inside : id < env.tree.size) (leads : ReflTransGen env.Inherits id target) :
    ∃ chain, FirstChain env target id chain := by
  revert leads
  apply acyclic.induction constructed _ inside
  intro id _ ih leads
  by_cases same : id = target
  · subst same
    exact ⟨[], .here⟩
  · rcases ReflTransGen.cases_head leads with rfl | ⟨upper, ⟨found, given, supertype, member, rfl⟩,
      onward⟩
    · exact absurd rfl same
    · classical
      -- the first supertype from which the target can be reached
      have isSome : (found.find? fun supertype =>
          decide (ReflTransGen env.Inherits supertype.item target)).isSome = true :=
        List.find?_isSome.mpr ⟨supertype, member, by simpa using onward⟩
      obtain ⟨first, isFirst⟩ := Option.isSome_iff_exists.mp isSome
      obtain ⟨reaches, before, after, rfl, misses⟩ := List.find?_eq_some_iff_append.mp isFirst
      have step := inherits_of_given given
      obtain ⟨chain, later⟩ := ih first.item step (by simpa using reaches)
      refine ⟨(id, first) :: chain, .step same given ?_ later⟩
      intro early isEarly
      simpa using misses early isEarly

/-! ## Entries have values -/

/-- With a source of names that keeps to the tree, every supertype can be followed. -/
theorem exists_follow (constructed : env.Constructed) (inTree : env.InTree) {id : Nat}
    (inside : id < env.tree.size) (supertype : Supertype) :
    env.follow id supertype = .ok () := by
  cases followed : env.follow id supertype with
  | ok _ => rfl
  | error fault =>
      have stray := stray_of_follow constructed.wellFormed inside followed
      exact absurd stray (inTree.not_stray fault)

/-- The own entries of an item are its members that give rise to fields. -/
theorem ownEntries_eq (constructed : env.Constructed) (inTree : env.InTree) {id : Nat}
    (inside : id < env.tree.size) :
    env.ownEntries id = .ok ((env.tree.fieldMembers id).map fun member => ⟨id, member, []⟩) := by
  have each : ∀ member ∈ env.tree.fieldMembers id,
      env.ownEntry id member = pure ⟨id, member, []⟩ := by
    intro member _
    cases checked : env.checkMember id member with
    | ok _ =>
        rw [ownEntry, checked]
        rfl
    | error fault =>
        have stray := stray_of_checkMember constructed.wellFormed inside checked
        exact absurd stray (inTree.not_stray fault)
  rw [ownEntries, mapM_congr_of_mem each, List.mapM_pure]
  rfl

/-- The entries that are inherited through one supertype. -/
theorem entriesBelow_eq {path : List ItemId} {id : ItemId} {supertype : Supertype}
    {entries : List Entry} (allowed : env.follow id supertype = .ok ())
    (given : env.entriesAlong env.follow (id :: path) supertype.item = .ok entries) :
    env.entriesBelow env.follow path id supertype =
      .ok (entries.map (Entry.below id supertype)) := by
  rw [entriesBelow, allowed, given]
  rfl

/-- The entries that an item has without its supertypes. -/
def plainEntries (env : Environment) (id : ItemId) : List Entry :=
  (env.tree.fieldMembers id).map fun member => ⟨id, member, []⟩

theorem entriesAlong_eq (constructed : env.Constructed) (inTree : env.InTree)
    {path : List ItemId} {id : Nat} (inside : id < env.tree.size) (fresh : id ∉ path)
    {found : List Supertype} (given : (env.supertypesOf id true).outcome = .ok found)
    {lists : List (List Entry)}
    (inherited : found.mapM (env.entriesBelow env.follow path id) = .ok lists) :
    env.entriesAlong env.follow path id = .ok (env.plainEntries id ++ lists.flatten) := by
  rw [entriesAlong_of_found inside fresh (ownEntries_eq constructed inTree inside) given,
    inherited]
  rfl

/-! ## Entries along first chains -/

/-- An entry belongs to a member of an item above. -/
def Above (env : Environment) (id : ItemId) (entry : Entry) : Prop :=
  ReflTransGen env.Inherits id entry.declaring ∧
    entry.member ∈ env.tree.fieldMembers entry.declaring

theorem above_of_plain {id : ItemId} {entry : Entry} (member : entry ∈ env.plainEntries id) :
    env.Above id entry := by
  obtain ⟨one, listed, rfl⟩ := List.mem_map.mp member
  exact ⟨.refl, listed⟩

theorem above_of_below {id : ItemId} {supertype : Supertype} {entries : List Entry} {entry : Entry}
    (step : env.Inherits id supertype.item)
    (upper : ∀ entry ∈ entries, env.Above supertype.item entry)
    (member : entry ∈ entries.map (Entry.below id supertype)) : env.Above id entry := by
  obtain ⟨one, listed, rfl⟩ := List.mem_map.mp member
  exact ⟨.head step (upper one listed).1, (upper one listed).2⟩

/-- With a source of names that keeps to the tree, there always are entries, and
each of them belongs to a member of an item above. -/
theorem exists_entriesAlong (constructed : env.Constructed) (inTree : env.InTree)
    {path : List ItemId} {id : Nat} (inside : id < env.tree.size) :
    ∃ entries, env.entriesAlong env.follow path id = .ok entries ∧
      ∀ entry ∈ entries, env.Above id entry := by
  fun_induction entriesAlong env env.follow path id with
  | case1 path id fresh ih =>
      obtain ⟨found, given⟩ := (firm_supertypesOf constructed inside).total inTree
      have each : ∀ supertype ∈ found, ∃ entries,
          env.entriesBelow env.follow path id supertype = .ok entries ∧
            ∀ entry ∈ entries, env.Above id entry := by
        intro supertype member
        have step : env.Inherits id supertype.item := ⟨found, given, supertype, member, rfl⟩
        obtain ⟨entries, upper, above⟩ := ih supertype (step.lt constructed inside)
        refine ⟨_, entriesBelow_eq (exists_follow constructed inTree inside supertype) upper, ?_⟩
        intro entry
        exact above_of_below step above
      obtain ⟨lists, inherited, listed⟩ := exists_flatten_of_mapM each
      have whole := entriesAlong_eq constructed inTree inside fresh.2 given inherited
      rw [entriesAlong_of_fresh fresh.1 fresh.2] at whole
      refine ⟨_, whole, ?_⟩
      intro entry member
      rcases List.mem_append.mp member with own | later
      · exact above_of_plain own
      · obtain ⟨supertype, _, above⟩ := listed entry later
        exact above
  | case2 path id visited =>
      exact ⟨_, ownEntries_eq constructed inTree inside, fun _ => above_of_plain⟩

/-- The entries through some supertypes of an item. -/
theorem exists_inherited (constructed : env.Constructed) (inTree : env.InTree)
    (path : List ItemId) {id : Nat} (inside : id < env.tree.size) {supertypes : List Supertype}
    (steps : ∀ supertype ∈ supertypes, env.Inherits id supertype.item) :
    ∃ lists, supertypes.mapM (env.entriesBelow env.follow path id) = .ok lists ∧
      ∀ entry ∈ lists.flatten, ∃ supertype ∈ supertypes, env.Above supertype.item entry := by
  apply exists_flatten_of_mapM
  intro supertype member
  have upperInside := (steps supertype member).lt constructed inside
  obtain ⟨entries, upper, above⟩ := exists_entriesAlong constructed inTree upperInside
  refine ⟨_, entriesBelow_eq (exists_follow constructed inTree inside supertype) upper, ?_⟩
  intro entry isEntry
  obtain ⟨one, listed, rfl⟩ := List.mem_map.mp isEntry
  exact above one listed

/-- A member of an item that gives rise to the only field with a name in the
whole tree. -/
structure SoleField (env : Environment) (name : String) (target : ItemId)
    (member : FieldMember) : Prop where
  declared : (env.tree.fieldMembers target).find? (fun one => one.name == name) = some member
  elsewhere : ∀ id < env.tree.size, id ≠ target → ∀ other ∈ env.tree.fieldMembers id,
    other.name ≠ name

section

variable {name : String} {target : ItemId} {member : FieldMember}

theorem SoleField.find_plain (sole : env.SoleField name target member) :
    (env.plainEntries target).find? (fun entry => entry.member.name == name) =
      some ⟨target, member, []⟩ := by
  rw [plainEntries, List.find?_map]
  change (((env.tree.fieldMembers target).find? fun one => one.name == name).map fun one =>
    Entry.mk target one []) = _
  rw [sole.declared]
  rfl

theorem SoleField.find_plain_of_ne (sole : env.SoleField name target member) {id : Nat}
    (inside : id < env.tree.size) (other : id ≠ target) :
    (env.plainEntries id).find? (fun entry => entry.member.name == name) = none := by
  rw [List.find?_eq_none]
  intro entry isEntry named
  obtain ⟨one, listed, rfl⟩ := List.mem_map.mp isEntry
  exact sole.elsewhere id inside other one listed (by simpa using named)

/-- An entry of an item from which the declaring item cannot be reached has
another name. -/
theorem SoleField.name_ne (sole : env.SoleField name target member)
    (constructed : env.Constructed) {id : Nat} (inside : id < env.tree.size)
    (missed : ¬ ReflTransGen env.Inherits id target) {entry : Entry} (above : env.Above id entry) :
    entry.member.name ≠ name := by
  obtain ⟨leads, listed⟩ := above
  apply sole.elsewhere entry.declaring (lt_of_leads constructed inside leads) _ entry.member listed
  intro same
  exact missed (same ▸ leads)

/-- Nothing with the name is inherited through supertypes from which the declaring
item cannot be reached. -/
theorem SoleField.find_missed (sole : env.SoleField name target member)
    (constructed : env.Constructed) {id : Nat} (inside : id < env.tree.size)
    {supertypes : List Supertype} {entries : List Entry}
    (steps : ∀ supertype ∈ supertypes, env.Inherits id supertype.item)
    (misses : ∀ supertype ∈ supertypes, ¬ ReflTransGen env.Inherits supertype.item target)
    (above : ∀ entry ∈ entries, ∃ supertype ∈ supertypes, env.Above supertype.item entry) :
    entries.find? (fun entry => entry.member.name == name) = none := by
  rw [List.find?_eq_none]
  intro entry isEntry named
  obtain ⟨supertype, listed, isAbove⟩ := above entry isEntry
  have upperInside := (steps supertype listed).lt constructed inside
  exact sole.name_ne constructed upperInside (misses supertype listed) isAbove
    (by simpa using named)

/-- The first entry with the name of the only such field comes along the first
chain to its item. -/
theorem SoleField.find_entriesAlong (sole : env.SoleField name target member)
    (constructed : env.Constructed) (inTree : env.InTree) (acyclic : env.Acyclic) {id : Nat}
    {chain : List (ItemId × Supertype)} (first : FirstChain env target id chain) :
    id < env.tree.size → ∀ path : List ItemId, (∀ lower ∈ path, TransGen env.Inherits lower id) →
      ∃ entries, env.entriesAlong env.follow path id = .ok entries ∧
        entries.find? (fun entry => entry.member.name == name) = some ⟨target, member, chain⟩ := by
  induction first with
  | here =>
      intro inside path along
      have fresh : target ∉ path := fun visited => acyclic target inside (along target visited)
      obtain ⟨found, given⟩ := (firm_supertypesOf constructed inside).total inTree
      obtain ⟨lists, inherited, _⟩ := exists_inherited constructed inTree path inside
        fun supertype listed => ⟨found, given, supertype, listed, rfl⟩
      refine ⟨_, entriesAlong_eq constructed inTree inside fresh given inherited, ?_⟩
      rw [List.find?_append, sole.find_plain]
      rfl
  | @step id supertype before after chain other given misses onward ih =>
      intro inside path along
      have fresh : id ∉ path := fun visited => acyclic id inside (along id visited)
      have step := inherits_of_given given
      have steps : ∀ one ∈ before ++ supertype :: after, env.Inherits id one.item :=
        fun one listed => ⟨_, given, one, listed, rfl⟩
      obtain ⟨entries, upper, isFound⟩ := ih (step.lt constructed inside) (id :: path) (by
        intro lower visited
        rcases List.mem_cons.mp visited with rfl | early
        · exact .single step
        · exact (along lower early).tail step)
      have below := entriesBelow_eq (exists_follow constructed inTree inside supertype) upper
      obtain ⟨early, inheritedEarly, aboveEarly⟩ := exists_inherited constructed inTree path
        inside fun one listed => steps one (List.mem_append_left _ listed)
      obtain ⟨late, inheritedLate, _⟩ := exists_inherited constructed inTree path inside
        fun one listed => steps one (List.mem_append_right before (List.mem_cons_of_mem _ listed))
      have inherited : (before ++ supertype :: after).mapM (env.entriesBelow env.follow path id) =
          .ok (early ++ entries.map (Entry.below id supertype) :: late) := by
        rw [List.mapM_append, List.mapM_cons, inheritedEarly, below, inheritedLate]
        rfl
      refine ⟨_, entriesAlong_eq constructed inTree inside fresh given inherited, ?_⟩
      have earlyMisses := sole.find_missed constructed inside
        (fun one listed => steps one (List.mem_append_left _ listed)) misses aboveEarly
      rw [List.find?_append, sole.find_plain_of_ne inside other, List.flatten_append,
        List.find?_append, earlyMisses, List.flatten_cons, List.find?_append, List.find?_map]
      change ((entries.find? fun entry => entry.member.name == name).map
        (Entry.below id supertype)).or _ = _
      rw [isFound]
      rfl

end

end JavaSymbols.Environment

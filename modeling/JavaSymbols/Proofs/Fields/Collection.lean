import Mathlib.Data.List.Perm.Subperm
import JavaSymbols.Proofs.Fields.Entries
import JavaSymbols.Proofs.Session.Settling

/-!
# Collecting fields

The collection of fields remembers lists, counts cuts and forces type arguments
on its way.  Its answers are nevertheless those of the plain entries: the same
fields in the same order, or the same fault.  A list is remembered just when no
cycle can be reached from its item, and such a list does not depend on the path
on which it is asked for.
-/

namespace JavaSymbols

open Relation Session

/-! ## Types of entries -/

/-- The type of a member in the item that declares it: converted, or deferred
when it does not resolve. -/
inductive OwnType (env : Environment) (cells : Cells) (id : ItemId) : FieldMember → Ty → Prop where
  | constant {member : FieldMember} (untyped : member.type = none) :
      OwnType env cells id member (env.rawReference id).toTy
  | converted {member : FieldMember} {source : TypeExpr} {type : Ty}
      (written : member.type = some source)
      (converts : (env.convert id source).outcome = .ok type) : OwnType env cells id member type
  | deferred {member : FieldMember} {source : TypeExpr} {fault : Fault} {cell : Nat}
      (written : member.type = some source)
      (failed : (env.convert id source).outcome = .error fault)
      (unresolved : fault.isUnresolved = true) (held : cells.Holds cell source id) :
      OwnType env cells id member (.deferred cell source id)

theorem OwnType.mono {env : Environment} {old new : Cells} {id : ItemId} {member : FieldMember}
    {type : Ty} (own : OwnType env old id member type) (later : old.Extends new) :
    OwnType env new id member type := by
  cases own with
  | constant untyped => exact .constant untyped
  | converted written converts => exact .converted written converts
  | deferred written failed unresolved held =>
      exact .deferred written failed unresolved (later.holds _ _ _ held)

/-- A session remembers a type for an entry, in the field list of some item. -/
def Session.Keeps (env : Environment) (session : Session) (entry : Entry) (type : Ty) : Prop :=
  ∃ id fields entries, session.fields.lookup id = some fields ∧ env.entriesOf id = .ok entries ∧
    ∃ (index : Nat) (field : Field), entries[index]? = some entry ∧
      fields[index]? = some field ∧ field.type = type

/-- Before any question, no type is remembered. -/
theorem Session.not_keeps_start {env : Environment} (entry : Entry) (type : Ty) :
    ¬ Session.start.Keeps env entry type := by
  rintro ⟨id, fields, entries, remembered, _⟩
  cases remembered

/-- The type of an entry as seen in a session: the one that an early session
remembers; or else that of its member, seen through one supertype after another
at some times since the early session. -/
inductive Seen (env : Environment) (low : Session) : Session → Entry → Ty → Prop where
  | remembered {session : Session} {entry : Entry} {type : Ty} (kept : low.Keeps env entry type)
      (late : low.Grows session) : Seen env low session entry type
  | own {session : Session} {id : ItemId} {member : FieldMember} {type : Ty}
      (unknown : low.fields.lookup id = none)
      (declared : OwnType env session.cells id member type) :
      Seen env low session ⟨id, member, []⟩ type
  | inherited {session middle : Session} {entry : Entry} {id : ItemId} {supertype : Supertype}
      {references : List Reference} {reference edge : Reference} {type : Ty}
      (unknown : low.fields.lookup id = none)
      (above : Seen env low middle entry type) (early : low.Grows middle)
      (sound : middle.Sound env) (late : middle.Grows session)
      (remembered : middle.supertypes.lookup (id, true) = some references)
      (listed : reference ∈ references)
      (given : Instance env middle.cells id supertype reference)
      (followed : env.Edge middle.cells id supertype reference edge) :
      Seen env low session (entry.below id supertype) (edge.apply middle.cells type)

theorem Seen.mono {env : Environment} {low old new : Session} {entry : Entry} {type : Ty}
    (seen : Seen env low old entry type) (later : old.Grows new) :
    Seen env low new entry type := by
  cases seen with
  | remembered kept late => exact .remembered kept (late.trans later)
  | own unknown declared => exact .own unknown (declared.mono later.cells)
  | inherited unknown above early sound late remembered listed given followed =>
      exact .inherited unknown above early sound (late.trans later) remembered listed given followed

/-- A field shows an entry in a session. -/
structure Shows (env : Environment) (low session : Session) (entry : Entry) (field : Field) :
    Prop where
  facts : field.facts = entry.facts
  type : Seen env low session entry field.type

theorem Shows.mono {env : Environment} {low old new : Session} {entry : Entry} {field : Field}
    (shown : Shows env low old entry field) (later : old.Grows new) :
    Shows env low new entry field where
  facts := shown.facts
  type := shown.type.mono later

/-- A field shows an entry of the body of an item. -/
structure Declares (env : Environment) (cells : Cells) (id : ItemId) (entry : Entry)
    (field : Field) : Prop where
  facts : field.facts = entry.facts
  declaring : entry.declaring = id
  chain : entry.chain = []
  type : OwnType env cells id entry.member field.type

theorem Declares.mono {env : Environment} {old new : Cells} {id : ItemId} {entry : Entry}
    {field : Field} (declares : Declares env old id entry field) (later : old.Extends new) :
    Declares env new id entry field where
  facts := declares.facts
  declaring := declares.declaring
  chain := declares.chain
  type := declares.type.mono later

/-- The fields of the body of an item that is not remembered. -/
theorem Declares.shows {env : Environment} {low session : Session} {id : ItemId} {entry : Entry}
    {field : Field} (declares : Declares env session.cells id entry field)
    (unknown : low.fields.lookup id = none) : Shows env low session entry field where
  facts := declares.facts
  type := by
    obtain ⟨facts, declaring, chain, type⟩ := declares
    rcases entry with ⟨declaringHere, member, chainHere⟩
    cases declaring
    cases chain
    exact .own unknown type

namespace Environment

variable {env : Environment} {session low : Session} {concerns : ItemId → Prop}

/-! ## Fields of one body -/

theorem runs_memberType (sound : session.Sound env) {id : ItemId} (inside : id < env.tree.size)
    {member : FieldMember} {source : TypeExpr} (written : member.type = some source) :
    Query.Runs (Sound env) Defers session (env.memberType id source) fun after =>
      Agree (fun _ type => OwnType env after.cells id member type) (env.checkMember id member) := by
  unfold memberType
  rw [checkMember_of_written written]
  refine Query.Runs.recover (.memberTypeKept source) (Query.postpone source id)
    (fun _ => rfl) (Query.runs_lift sound (env.convert id source)) ?_ ?_ ?_
  · rintro after type soundAfter _ ⟨_, converts⟩
    rw [← converts]
    exact Query.runs_pure soundAfter (.value (.converted written converts.symm))
  · rintro after fault hard ⟨_, failed⟩
    rw [← failed, tolerated_error_of_hard hard]
    exact .fault fault
  · rintro after fault events soundAfter _ unresolved ⟨_, failed⟩
    rw [← failed, tolerated_error_of_unresolved unresolved]
    have soundLast : Session.Sound env { after with events := events } := soundAfter.congr rfl rfl
    exact Query.runs_postpone soundLast source inside fun last cell held =>
      .value (.deferred written failed.symm unresolved held)

/-- A member with a written type as a field. -/
theorem runs_memberField (sound : session.Sound env) {id : ItemId} (inside : id < env.tree.size)
    {member : FieldMember} {source : TypeExpr} {field : Ty → Field}
    (written : member.type = some source)
    (facts : ∀ type, (field type).facts = (Entry.mk id member []).facts)
    (typed : ∀ type, (field type).type = type) :
    Query.Runs (Sound env) Defers session (do
        let type ← env.memberType id source
        pure (field type))
      fun after => Agree (Declares env after.cells id) (env.ownEntry id member) := by
  refine (runs_memberType sound inside written).bind_agree ?_
  intro after _ type soundAfter _ _ own
  refine Query.runs_pure soundAfter (.value ⟨facts type, rfl, rfl, ?_⟩)
  rw [typed]
  exact own

theorem runs_bodyFields (sound : session.Sound env) {id : ItemId} (inside : id < env.tree.size)
    (inInterface : Bool) :
    Query.Runs (Sound env) Defers session (env.bodyFields id inInterface) fun after =>
      Agree (List.Forall₂ (Declares env after.cells id))
        (((env.tree.decl id).fields.map (FieldDecl.member inInterface)).mapM
          (env.ownEntry id)) := by
  rw [List.mapM_map]
  refine Query.runs_mapM_expected sound ?_ ?_
  · intro old new entry field later shown
    exact shown.mono later.cells
  · intro field _ after soundAfter _
    exact runs_memberField soundAfter inside rfl (fun _ => rfl) (fun _ => rfl)

theorem runs_componentFields (sound : session.Sound env) {id : ItemId}
    (inside : id < env.tree.size) :
    Query.Runs (Sound env) Defers session (env.componentFields id) fun after =>
      Agree (List.Forall₂ (Declares env after.cells id))
        (((env.tree.decl id).components.map Component.member).mapM (env.ownEntry id)) := by
  rw [List.mapM_map]
  refine Query.runs_mapM_expected sound ?_ ?_
  · intro old new entry field later shown
    exact shown.mono later.cells
  · intro component _ after soundAfter _
    exact runs_memberField soundAfter inside rfl (fun _ => rfl) (fun _ => rfl)

/-- Enum constants need no conversion. -/
theorem mapM_ownEntry_constants (id : ItemId) (names : List String) :
    (names.map FieldMember.ofConstant).mapM (env.ownEntry id) =
      .ok (names.map fun name => ⟨id, .ofConstant name, []⟩) := by
  rw [List.mapM_map]
  exact List.mapM_pure

theorem declares_constants (cells : Cells) (id : ItemId) (names : List String) :
    List.Forall₂ (Declares env cells id) (names.map fun name => ⟨id, .ofConstant name, []⟩)
      (names.map (env.constantField id)) := by
  rw [List.forall₂_map_left_iff, List.forall₂_map_right_iff, List.forall₂_same]
  intro name _
  exact ⟨rfl, rfl, rfl, .constant rfl⟩

/-- The fields that an item declares are those of its own entries. -/
theorem runs_declaredFields (sound : session.Sound env) {id : ItemId}
    (inside : id < env.tree.size) :
    Query.Runs (Sound env) Defers session (env.declaredFields id) fun after =>
      Agree (List.Forall₂ (Declares env after.cells id)) (env.ownEntries id) := by
  cases kind : (env.tree.decl id).kind with
  | classType =>
      simp only [declaredFields, ownEntries, DeclTree.fieldMembers, kind]
      exact runs_bodyFields sound inside false
  | interfaceType =>
      simp only [declaredFields, ownEntries, DeclTree.fieldMembers, kind]
      exact runs_bodyFields sound inside true
  | annotationType =>
      simp only [declaredFields, ownEntries, DeclTree.fieldMembers, kind]
      exact runs_bodyFields sound inside true
  | enumType =>
      simp only [declaredFields, ownEntries, DeclTree.fieldMembers, kind]
      rw [List.mapM_append, mapM_ownEntry_constants]
      refine (runs_bodyFields sound inside false).bind_agree ?_
      intro after others body soundAfter _ _ shown
      exact Query.runs_pure soundAfter
        (.value (List.rel_append (declares_constants after.cells id _) shown))
  | recordType =>
      simp only [declaredFields, ownEntries, DeclTree.fieldMembers, kind]
      rw [List.mapM_append]
      refine (runs_componentFields sound inside).bind_agree ?_
      intro after entries components soundAfter _ _ shown
      refine (runs_bodyFields soundAfter inside false).bind_agree ?_
      intro last others body soundLast later _ shownBody
      refine Query.runs_pure soundLast (.value ?_)
      exact List.rel_append (shown.imp fun _ _ one => one.mono later.cells) shownBody

/-! ## Sessions that collect fields -/

/-- A remembered field list shows the entries of its item, and no cycle can be
reached from there. -/
structure Remembers (env : Environment) (low session : Session) (id : Nat) (fields : List Field) :
    Prop where
  inside : id < env.tree.size
  acyclic : ¬ env.ReachesCycle id
  shown : ∃ entries, env.entriesOf id = .ok entries ∧
    List.Forall₂ (Shows env low session) entries fields

/-- A sound session since an early one whose remembered field lists are those of
the entries. -/
structure Collecting (env : Environment) (low session : Session) : Prop where
  sound : session.Sound env
  since : low.Grows session
  kept : ∀ id, session.fields.lookup id = none → low.fields.lookup id = none
  fields : ∀ id fields, session.fields.lookup id = some fields →
    Remembers env low session id fields

theorem Remembers.mono {old new : Session} {id : Nat} {fields : List Field}
    (remembers : Remembers env low old id fields) (later : old.Grows new) :
    Remembers env low new id fields where
  inside := remembers.inside
  acyclic := remembers.acyclic
  shown := by
    obtain ⟨entries, given, shown⟩ := remembers.shown
    exact ⟨entries, given, shown.imp fun _ _ one => one.mono later⟩

/-- What is collected stays right while nothing is collected. -/
theorem Collecting.onward {old new : Session} (collecting : Collecting env low old)
    (sound : new.Sound env) (later : old.Follows new) : Collecting env low new where
  sound := sound
  since := collecting.since.trans later.toGrows
  kept id unknown := collecting.kept id (later.fields ▸ unknown)
  fields id fields remembered := by
    rw [later.fields] at remembered
    exact (collecting.fields id fields remembered).mono later.toGrows

/-- An item from which a cycle can be reached is not remembered. -/
theorem Collecting.unknown_of_cyclic (collecting : Collecting env low session) {id : Nat}
    (cyclic : env.ReachesCycle id) : low.fields.lookup id = none := by
  apply collecting.kept id
  by_contra known
  obtain ⟨fields, remembered⟩ := Option.ne_none_iff_exists'.mp known
  exact (collecting.fields id fields remembered).acyclic cyclic

/-- What a session remembers can be taken as a new beginning. -/
theorem Collecting.restart (collecting : Collecting env low session) :
    Collecting env session session where
  sound := collecting.sound
  since := .refl session
  kept _ unknown := unknown
  fields id fields remembered := by
    obtain ⟨inside, acyclic, entries, given, shown⟩ := collecting.fields id fields remembered
    refine ⟨inside, acyclic, entries, given, ?_⟩
    apply List.forall₂_iff_get.mpr
    refine ⟨shown.length_eq, ?_⟩
    intro index bound boundFields
    refine ⟨(List.Forall₂.get shown bound boundFields).facts, ?_⟩
    apply Seen.remembered _ (.refl session)
    exact ⟨id, fields, entries, remembered, given, index, _, List.getElem?_eq_getElem bound,
      List.getElem?_eq_getElem boundFields, rfl⟩

/-- A query that collects nothing, in a session that collects. -/
theorem runs_collecting (concerns : ItemId → Prop) {α : Type} {query : Query α}
    {good : Session → Except Fault α → Prop}
    (collecting : Collecting env low session)
    (front : ∀ cell, session.cells.get? cell = none → (query session).2.cells.get? cell ≠ none →
      ∃ reference, (query session).2.Lists reference ∧ reference.Front env cell)
    (runs : Query.Runs (Sound env) Follows session query good) :
    Query.Runs (Collecting env low) (Gathers env concerns) session query fun after outcome =>
      session.Follows after ∧ good after outcome where
  invariant := collecting.onward runs.invariant runs.follows
  follows := runs.follows.gathers front
  good := ⟨runs.follows, runs.good⟩

/-- A query that sets no cell, in a session that collects. -/
theorem runs_quietly (concerns : ItemId → Prop) {α : Type} {query : Query α}
    {good : Session → Except Fault α → Prop}
    (collecting : Collecting env low session) (leaves : query.LeavesCells)
    (runs : Query.Runs (Sound env) Follows session query good) :
    Query.Runs (Collecting env low) (Gathers env concerns) session query fun after outcome =>
      session.Follows after ∧ good after outcome := by
  apply runs_collecting concerns collecting _ runs
  intro cell unset set
  exact absurd ((leaves session cell).trans unset) set

/-- The items being expanded and the number of cuts play no part in what has
been collected. -/
theorem Collecting.congr {other : Session} (collecting : Collecting env low session)
    (sameCells : other.cells = session.cells)
    (sameSupertypes : other.supertypes = session.supertypes)
    (sameFields : other.fields = session.fields) : Collecting env low other where
  sound := collecting.sound.congr sameCells sameSupertypes
  since := collecting.since.trans (grows_of_same sameCells sameSupertypes)
  kept id unknown := collecting.kept id (sameFields ▸ unknown)
  fields id fields remembered := (collecting.fields id fields (sameFields ▸ remembered)).mono
    (grows_of_same sameCells sameSupertypes)

/-- A query for which an item counts as being expanded. -/
theorem runs_whileExpanding {α : Type} {query : Query α} {good : Session → Except Fault α → Prop}
    (id : ItemId)
    (runs : Query.Runs (Collecting env low) (Gathers env concerns)
      { session with expanding := id :: session.expanding } query good) :
    Query.Runs (Collecting env low) (Gathers env concerns) session (Query.whileExpanding id query)
      fun after outcome => ∃ expanding, good { after with expanding := expanding } outcome := by
  rcases ran : query { session with expanding := id :: session.expanding } with ⟨outcome, after⟩
  obtain ⟨kept, onward, holds⟩ := runs
  rw [ran] at kept onward holds
  have same : Query.whileExpanding id query session =
      (outcome, { after with expanding := after.expanding.erase id }) := by
    rw [Query.whileExpanding, ran]
  constructor
  · rw [same]
    exact kept.congr rfl rfl rfl
  · rw [same]
    refine ⟨⟨⟨onward.cells, onward.supertypes⟩, ?_, onward.cuts⟩, onward.front, onward.kept,
      onward.added⟩
    change after.expanding.erase id = session.expanding
    rw [onward.expanding, List.erase_cons_head]
  · rw [same]
    exact ⟨after.expanding, holds⟩

/-! ## Collection -/

/-- The items being expanded while fields of an item are asked for: each of them
once, and each with a chain of supertypes to that item. -/
structure Expanding (env : Environment) (expanding : List ItemId) (id : Nat) : Prop where
  nodup : expanding.Nodup
  leads : ∀ lower ∈ expanding, lower < env.tree.size ∧ TransGen env.Inherits lower id

theorem Expanding.length_le {expanding : List ItemId} {id : Nat}
    (expands : Expanding env expanding id) : expanding.length ≤ env.tree.size := by
  have listed : expanding ⊆ env.tree.ids := by
    intro lower member
    exact List.mem_range.mpr (expands.leads lower member).1
  have short := (List.subperm_of_subset expands.nodup listed).length_le
  simpa [DeclTree.ids] using short

theorem Expanding.cons {expanding : List ItemId} {id upper : Nat}
    (expands : Expanding env expanding id) (inside : id < env.tree.size) (fresh : id ∉ expanding)
    (step : env.Inherits id upper) : Expanding env (id :: expanding) upper where
  nodup := List.nodup_cons.mpr ⟨fresh, expands.nodup⟩
  leads lower member := by
    rcases List.mem_cons.mp member with rfl | above
    · exact ⟨inside, .single step⟩
    · exact ⟨(expands.leads lower above).1, (expands.leads lower above).2.tail step⟩

/-- When no cycle can be reached, no item being expanded can be reached. -/
theorem Expanding.entriesAlong_eq {expanding : List ItemId} {id : Nat}
    (expands : Expanding env expanding id) (acyclic : ¬ env.ReachesCycle id) :
    env.entriesAlong env.follow expanding id = env.entriesOf id := by
  refine entriesAlong_congr ?_
  intro upper chain
  simp only [List.not_mem_nil, iff_false]
  intro member
  exact acyclic ⟨upper, chain, (expands.leads upper member).2.trans_left chain⟩

/-- What collecting the fields of an item comes to. -/
def Collected (env : Environment) (low before : Session) (id : Nat) (after : Session)
    (outcome : Except Fault (List Field)) : Prop :=
  Agree (List.Forall₂ (Shows env low after)) (env.entriesAlong env.follow before.expanding id)
      outcome ∧
    ∀ fields, outcome = .ok fields →
      (after.cuts = before.cuts ↔ ¬ env.ReachesCycle id) ∧
        ((after.fields.lookup id).isSome = true ↔ ¬ env.ReachesCycle id)

/-- A way to collect fields that is right for all items a supertype further. -/
def CollectsAt (env : Environment) (low : Session) (expanding : List ItemId)
    (collect : ItemId → Query (List Field)) (concerns : ItemId → Prop) : Prop :=
  ∀ (session : Session) (id : Nat), Collecting env low session → session.expanding = expanding →
    id < env.tree.size → Expanding env expanding id → concerns id →
    Query.Runs (Collecting env low) (Gathers env concerns) session (collect id)
      (Collected env low session id)

theorem forall₂_and_mem {α β : Type} {related : α → β → Prop} {first : List α} {second : List β}
    (pairs : List.Forall₂ related first second) :
    List.Forall₂ (fun one other => related one other ∧ other ∈ second) first second := by
  rw [List.forall₂_iff_zip] at pairs ⊢
  exact ⟨pairs.1, fun member => ⟨pairs.2 member, (List.of_mem_zip member).2⟩⟩

/-- Fields of a supertype that show entries show, as they are seen from an item
below, the entries there. -/
theorem shows_below {id : ItemId} {supertype : Supertype} {references : List Reference}
    {reference edge : Reference} {entries : List Entry} {fields : List Field}
    (shown : List.Forall₂ (Shows env low session) entries fields)
    (unknown : low.fields.lookup id = none) (since : low.Grows session)
    (sound : session.Sound env)
    (remembered : session.supertypes.lookup (id, true) = some references)
    (listed : reference ∈ references) (given : Instance env session.cells id supertype reference)
    (followed : env.Edge session.cells id supertype reference edge) :
    List.Forall₂ (Shows env low session) (entries.map (Entry.below id supertype))
      (fields.map fun field => { field with type := edge.apply session.cells field.type }) := by
  rw [List.forall₂_map_left_iff, List.forall₂_map_right_iff]
  refine shown.imp ?_
  intro entry field shows'
  exact ⟨shows'.facts,
    .inherited unknown shows'.type since sound (.refl session) remembered listed given followed⟩

/-- Inheriting fields through one supertype. -/
theorem runs_inheritedThrough (constructed : env.Constructed) {id : Nat} {path : List ItemId}
    {collect : ItemId → Query (List Field)} (inside : id < env.tree.size) (fresh : id ∉ path)
    (unknown : low.fields.lookup id = none)
    (collects : CollectsAt env low (id :: path) collect concerns)
    (collecting : Collecting env low session) (expanding : session.expanding = id :: path)
    (expands : Expanding env path id) {references : List Reference} {supertype : Supertype}
    {reference : Reference} (remembered : session.supertypes.lookup (id, true) = some references)
    (listed : reference ∈ references)
    (given : Instance env session.cells id supertype reference)
    (step : env.Inherits id supertype.item) (concerned : concerns supertype.item) :
    Query.Runs (Collecting env low) (Gathers env concerns) session
      (env.inheritedThrough collect reference) fun after outcome =>
        Agree (List.Forall₂ (Shows env low after)) (env.entriesBelow env.follow path id supertype)
            outcome ∧
          ∀ fields, outcome = .ok fields →
            (after.cuts = session.cuts ↔ ¬ env.ReachesCycle supertype.item) := by
  unfold inheritedThrough entriesBelow
  have forced := runs_forceEdge constructed.wellFormed collecting.sound given
  have followed := runs_collecting concerns collecting (by
    intro cell unset set
    exact ⟨reference, ⟨_, references, forced.follows.supertypes ▸ remembered, listed⟩,
      set_forceEdge constructed.wellFormed collecting.sound given unset set⟩)
    forced.follows_of_defers
  refine followed.bind ?_ ?_
  · rintro after cause _ ⟨_, agree⟩
    rw [agree.of_error]
    exact ⟨.fault cause, by simp⟩
  · rintro after edge collectingAfter _ ⟨follows, agree⟩
    obtain ⟨_, allowed, isEdge⟩ := agree.of_ok
    have givenAfter := given.mono follows.cells
    rw [allowed, isEdge.item givenAfter]
    have upperInside := step.lt constructed inside
    have known := runs_quietly concerns collectingAfter (Query.leavesCells_ofTraced _)
      (Query.runs_known collectingAfter.sound upperInside).follows_of_defers
    refine known.bind ?_ ?_
    · rintro last cause _ ⟨_, _, failed⟩
      cases failed
    · rintro checked _ collectingChecked _ ⟨followsChecked, _⟩
      have expandingChecked : checked.expanding = id :: path := by
        rw [followsChecked.expanding, follows.expanding, expanding]
      have collected := collects checked supertype.item collectingChecked expandingChecked
        upperInside (expands.cons inside fresh step) concerned
      refine collected.bind ?_ ?_
      · rintro last cause _ ⟨agreeFields, _⟩
        rw [expandingChecked] at agreeFields
        rw [agreeFields.of_error]
        exact ⟨.fault cause, by simp⟩
      · rintro last fields collectingLast onward ⟨agreeFields, counts⟩
        rw [expandingChecked] at agreeFields
        obtain ⟨entries, givenEntries, shown⟩ := agreeFields.of_ok
        rw [givenEntries]
        have later : session.Grows last :=
          (follows.toGrows.trans followsChecked.toGrows).trans onward.toGrows
        have laterChecked : after.Grows last := followsChecked.toGrows.trans onward.toGrows
        have isEdgeLast := isEdge.mono constructed.wellFormed givenAfter collectingAfter.sound.cells
          laterChecked.cells
        refine Query.Runs.bind_cells ?_
        refine Query.runs_pure collectingLast ⟨.value ?_, ?_⟩
        · exact shows_below shown unknown collectingLast.since collectingLast.sound
            (later.supertypes _ _ remembered) listed (given.mono later.cells) isEdgeLast
        · intro _ _
          rw [← follows.cuts, ← followsChecked.cuts]
          exact (counts fields rfl).1

/-- Inheriting fields through all supertypes of an item.  No cut is made just
when no cycle can be reached. -/
theorem runs_inheritedAll (constructed : env.Constructed) {id : Nat} {path : List ItemId}
    {collect : ItemId → Query (List Field)} (inside : id < env.tree.size) (fresh : id ∉ path)
    (unknown : low.fields.lookup id = none)
    (collects : CollectsAt env low (id :: path) collect concerns)
    (collecting : Collecting env low session) (expanding : session.expanding = id :: path)
    (expands : Expanding env path id) (upward : ∀ upper, env.Inherits id upper → concerns upper)
    {found : List Supertype} {references : List Reference}
    (remembered : session.supertypes.lookup (id, true) = some references)
    (given : (env.supertypesOf id true).outcome = .ok found)
    (instances : List.Forall₂ (Instance env session.cells id) found references) :
    Query.Runs (Collecting env low) (Gathers env concerns) session
      (references.mapM (env.inheritedThrough collect)) fun after outcome =>
        Agree (List.Forall₂ (List.Forall₂ (Shows env low after)))
            (found.mapM (env.entriesBelow env.follow path id)) outcome ∧
          ∀ lists, outcome = .ok lists →
            (after.cuts = session.cuts ↔ ¬ env.ReachesCycle id) := by
  have counted : Query.Runs (Collecting env low) (Gathers env concerns) session
      (references.mapM (env.inheritedThrough collect)) fun after outcome =>
        Agree (List.Forall₂ (List.Forall₂ (Shows env low after)))
            (found.mapM (env.entriesBelow env.follow path id)) outcome ∧
          ∀ lists, outcome = .ok lists → (after.cuts = session.cuts ↔
            ∀ supertype ∈ found, ¬ env.ReachesCycle supertype.item) := by
    refine Query.runs_mapM_counted (Gathers env concerns) Session.cuts
      (fun supertype => ¬ env.ReachesCycle supertype.item) collecting (forall₂_and_mem instances)
      ?_ ?_ ?_
    · intro old new entries fields later shown
      exact shown.imp fun _ _ one => one.mono later.toGrows
    · intro old new later
      exact later.cuts
    · rintro supertype member reference ⟨isInstance, listed⟩ after collectingAfter onward
      have step : env.Inherits id supertype.item := ⟨found, given, supertype, member, rfl⟩
      exact runs_inheritedThrough constructed inside fresh unknown collects collectingAfter
        (onward.expanding.trans expanding) expands (onward.supertypes _ _ remembered) listed
        (isInstance.mono onward.cells) step (upward _ step)
  refine counted.mono ?_
  rintro after outcome _ _ ⟨agree, counts⟩
  refine ⟨agree, ?_⟩
  intro lists same
  rw [counts lists same, reachesCycle_iff given]
  simp

/-- What is unknown after a list has been remembered was unknown before. -/
theorem lookup_of_lookup_cons {remembered : List (ItemId × List Field)} {id other : ItemId}
    {fields : List Field} (unknown : ((id, fields) :: remembered).lookup other = none) :
    remembered.lookup other = none := by
  rw [List.lookup_cons] at unknown
  split at unknown
  · cases unknown
  · exact unknown

/-- Remembering the fields of an item from which no cycle can be reached. -/
theorem Collecting.remember (collecting : Collecting env low session) {id : Nat}
    {fields : List Field} {entries : List Entry} (inside : id < env.tree.size)
    (acyclic : ¬ env.ReachesCycle id) (given : env.entriesOf id = .ok entries)
    (shown : List.Forall₂ (Shows env low session) entries fields) :
    Collecting env low { session with fields := (id, fields) :: session.fields } where
  sound := collecting.sound.congr rfl rfl
  since := collecting.since.trans (grows_of_same rfl rfl)
  kept other unknown := collecting.kept other (lookup_of_lookup_cons unknown)
  fields other others remembered := by
    have later : session.Grows { session with fields := (id, fields) :: session.fields } :=
      grows_of_same rfl rfl
    rw [List.lookup_cons] at remembered
    split at remembered
    · next same =>
        obtain rfl := eq_of_beq same
        cases remembered
        exact ⟨inside, acyclic, entries, given, shown.imp fun _ _ one => one.mono later⟩
    · exact (collecting.fields other others remembered).mono later

/-- Remembering the fields of an item that a question concerns. -/
theorem gathers_remember {id : Nat} {fields : List Field} (concerned : concerns id) :
    session.Gathers env concerns { session with fields := (id, fields) :: session.fields } where
  toCollects := ⟨grows_of_same rfl rfl, rfl, Nat.le_refl _⟩
  front _ unset set := absurd unset set
  kept other unknown := lookup_of_lookup_cons unknown
  added other unknown known := by
    change ((id, fields) :: session.fields).lookup other ≠ none at known
    rw [List.lookup_cons] at known
    split at known
    · next same => exact eq_of_beq same ▸ concerned
    · exact absurd unknown known

/-- The last step of an expansion: the list is remembered if no cut was made. -/
theorem runs_remembering (collecting : Collecting env low session) {id before : Nat}
    {path : List ItemId} {fields : List Field} {entries : List Entry} (concerned : concerns id)
    (inside : id < env.tree.size) (expands : Expanding env path id)
    (given : env.entriesAlong env.follow path id = .ok entries)
    (shown : List.Forall₂ (Shows env low session) entries fields)
    (counted : session.cuts = before ↔ ¬ env.ReachesCycle id) :
    Query.Runs (Collecting env low) (Gathers env concerns) session (do
        if (← Query.current).cuts = before then
          Query.update fun session => { session with fields := (id, fields) :: session.fields }
        pure fields) fun after outcome =>
      Agree (List.Forall₂ (Shows env low after)) (.ok entries) outcome ∧
        ∀ fields, outcome = .ok fields → (after.cuts = before ↔ ¬ env.ReachesCycle id) ∧
          ((after.fields.lookup id).isSome = true ↔ ¬ env.ReachesCycle id) := by
  refine Query.Runs.bind_current ?_
  by_cases uncut : session.cuts = before
  · have acyclic := counted.mp uncut
    rw [expands.entriesAlong_eq acyclic] at given
    have kept := collecting.remember inside acyclic given shown
    have later : session.Grows { session with fields := (id, fields) :: session.fields } :=
      grows_of_same rfl rfl
    rw [if_pos uncut]
    refine ⟨kept, gathers_remember concerned, .value (shown.imp fun _ _ one => one.mono later), ?_⟩
    intro others _
    refine ⟨counted, ?_⟩
    change (((id, fields) :: session.fields).lookup id).isSome = true ↔ _
    rw [List.lookup_cons_self]
    exact iff_of_true rfl acyclic
  · rw [if_neg uncut]
    refine Query.runs_pure collecting ⟨.value shown, ?_⟩
    intro others _
    refine ⟨counted, ?_⟩
    constructor
    · intro isSome
      obtain ⟨remembered, found⟩ := Option.isSome_iff_exists.mp isSome
      exact (collecting.fields id remembered found).acyclic
    · intro acyclic
      exact absurd (counted.mpr acyclic) uncut

/-- Expanding an item whose supertypes are collected rightly. -/
theorem runs_expandFields (constructed : env.Constructed) {id : Nat} {path : List ItemId}
    {collect : ItemId → Query (List Field)} (inside : id < env.tree.size) (fresh : id ∉ path)
    (unknown : low.fields.lookup id = none)
    (collects : CollectsAt env low (id :: path) collect concerns)
    (collecting : Collecting env low session) (expanding : session.expanding = id :: path)
    (expands : Expanding env path id) (concerned : concerns id)
    (upward : ∀ upper, env.Inherits id upper → concerns upper) :
    Query.Runs (Collecting env low) (Gathers env concerns) session (env.expandFields collect id)
      fun after outcome =>
        Agree (List.Forall₂ (Shows env low after)) (env.entriesAlong env.follow path id) outcome ∧
          ∀ fields, outcome = .ok fields →
            (after.cuts = session.cuts ↔ ¬ env.ReachesCycle id) ∧
              ((after.fields.lookup id).isSome = true ↔ ¬ env.ReachesCycle id) := by
  unfold expandFields
  refine Query.Runs.bind_current ?_
  have own := runs_quietly concerns collecting (env.leavesCells_declaredFields id)
    (runs_declaredFields collecting.sound inside).follows_of_defers
  refine own.bind ?_ ?_
  · rintro after cause _ ⟨_, agree⟩
    rw [entriesAlong_of_fresh inside fresh, agree.of_error]
    exact ⟨.fault cause, by simp⟩
  · rintro after ownFields collectingAfter _ ⟨follows, agreeOwn⟩
    obtain ⟨ownEntries, givenOwn, shownOwn⟩ := agreeOwn.of_ok
    have ancestors := runs_quietly concerns collectingAfter (env.leavesCells_itemAncestors id true)
      (runs_itemAncestors collectingAfter.sound inside true)
    refine ancestors.bind ?_ ?_
    · rintro last cause _ ⟨_, agree⟩
      rw [entriesAlong_of_fresh inside fresh, givenOwn, agree.of_error]
      exact ⟨.fault cause, by simp⟩
    · rintro listed references collectingListed _ ⟨followsListed, agree⟩
      obtain ⟨found, givenFound, instances, remembered⟩ := agree.of_ok
      have expandingListed : listed.expanding = id :: path := by
        rw [followsListed.expanding, follows.expanding, expanding]
      have cutsListed : listed.cuts = session.cuts := by
        rw [followsListed.cuts, follows.cuts]
      have inherited := runs_inheritedAll constructed inside fresh unknown collects
        collectingListed expandingListed expands upward remembered givenFound instances
      refine inherited.bind ?_ ?_
      · rintro last cause _ ⟨agree, _⟩
        have failed : env.entriesAlong env.follow path id = .error cause := by
          rw [entriesAlong_of_found inside fresh givenOwn givenFound, agree.of_error]
          rfl
        rw [failed]
        exact ⟨.fault cause, by simp⟩
      · rintro last lists collectingLast onward ⟨agree, counts⟩
        obtain ⟨inheritedEntries, givenInherited, shownInherited⟩ := agree.of_ok
        have whole : env.entriesAlong env.follow path id =
            .ok (ownEntries ++ inheritedEntries.flatten) := by
          rw [entriesAlong_of_found inside fresh givenOwn givenFound, givenInherited]
          rfl
        have shownAll : List.Forall₂ (Shows env low last) (ownEntries ++ inheritedEntries.flatten)
            (ownFields ++ lists.flatten) :=
          List.rel_append (shownOwn.imp fun _ _ one => (one.mono
            (followsListed.toGrows.trans onward.toGrows).cells).shows unknown)
            (List.rel_flatten shownInherited)
        have counted := counts lists rfl
        rw [cutsListed] at counted
        rw [whole]
        exact runs_remembering collectingLast concerned inside expands whole shownAll counted

/-- Cutting the collection at an item that is being expanded. -/
theorem runs_cutFields (collecting : Collecting env low session) {id : Nat}
    (inside : id < env.tree.size) (visited : id ∈ session.expanding)
    (expands : Expanding env session.expanding id) :
    Query.Runs (Collecting env low) (Gathers env concerns) session (env.cutFields id)
      (Collected env low session id) := by
  have cyclic : env.ReachesCycle id := ⟨id, .refl, (expands.leads id visited).2⟩
  unfold cutFields
  have cut : Query.Runs (Collecting env low) (Gathers env concerns) session
      (Query.update fun session => { session with cuts := session.cuts + 1 })
      fun after outcome => outcome = .ok () ∧ after.cuts = session.cuts + 1 :=
    Query.runs_update (collecting.congr rfl rfl rfl)
      ⟨⟨grows_of_same rfl rfl, rfl, Nat.le_succ _⟩, fun _ unset set => absurd unset set,
        fun _ unknown => unknown, fun _ unknown known => absurd unknown known⟩ ⟨rfl, rfl⟩
  refine cut.bind ?_ ?_
  · rintro after cause _ ⟨failed, _⟩
    cases failed
  · rintro after _ collectingAfter _ ⟨_, counted⟩
    have reported := runs_quietly concerns collectingAfter (Query.leavesCells_ofTraced _)
      (Query.runs_lift collectingAfter.sound
        (Traced.report (.hierarchyCycle (env.tree.qualifiedName id)))).follows_of_defers
    refine reported.bind ?_ ?_
    · rintro last cause _ ⟨_, _, failed⟩
      cases failed
    · rintro last _ collectingLast _ ⟨follows, _⟩
      have declared := runs_quietly concerns collectingLast (env.leavesCells_declaredFields id)
        (runs_declaredFields collectingLast.sound inside).follows_of_defers
      refine declared.mono ?_
      rintro final outcome collectingFinal _ ⟨followsFinal, agree⟩
      rw [Collected, entriesAlong_of_mem visited]
      refine ⟨agree.mono fun _ _ shown => shown.imp fun _ _ one =>
        one.shows (collecting.unknown_of_cyclic cyclic), ?_⟩
      intro fields _
      have more : final.cuts = session.cuts + 1 := by
        rw [followsFinal.cuts, follows.cuts, counted]
      refine ⟨iff_of_false (by omega) (fun acyclic => acyclic cyclic),
        iff_of_false ?_ (fun acyclic => acyclic cyclic)⟩
      intro isSome
      obtain ⟨remembered, found⟩ := Option.isSome_iff_exists.mp isSome
      exact (collectingFinal.fields id remembered found).acyclic cyclic

/-- Collecting the fields of an item to a depth that makes up, with the items
being expanded, for all items of the tree. -/
theorem runs_collectFields (constructed : env.Constructed) (low : Session)
    (upward : ∀ lower upper, concerns lower → env.Inherits lower upper → concerns upper)
    (depth : Nat) :
    ∀ (session : Session) (id : Nat), Collecting env low session → id < env.tree.size →
      Expanding env session.expanding id → concerns id →
      env.tree.size + 2 ≤ depth + session.expanding.length →
      Query.Runs (Collecting env low) (Gathers env concerns) session (env.collectFields depth id)
        (Collected env low session id) := by
  induction depth with
  | zero =>
      intro session id _ _ expands _ enough
      have short := expands.length_le
      omega
  | succ depth ih =>
      intro session id collecting inside expands concerned enough
      unfold collectFields
      refine Query.Runs.bind_current ?_
      cases remembered : session.fields.lookup id with
      | some fields =>
          have remembers := collecting.fields id fields remembered
          obtain ⟨entries, given, shown⟩ := remembers.shown
          rw [← expands.entriesAlong_eq remembers.acyclic] at given
          refine Query.runs_pure collecting ⟨given ▸ .value shown, ?_⟩
          intro others _
          exact ⟨iff_of_true rfl remembers.acyclic,
            iff_of_true (by rw [remembered]; rfl) remembers.acyclic⟩
      | none =>
          by_cases visited : id ∈ session.expanding
          · have contained : session.expanding.contains id = true := by simpa using visited
            simp only [contained, if_true]
            exact runs_cutFields collecting inside visited expands
          · have absent : ¬ session.expanding.contains id = true := by simpa using visited
            simp only [absent]
            have collects : CollectsAt env low (id :: session.expanding)
                (env.collectFields depth) concerns := by
              intro other upper collectingOther same upperInside expandsUpper concernedUpper
              rw [← same] at expandsUpper
              refine ih other upper collectingOther upperInside expandsUpper concernedUpper ?_
              rw [same, List.length_cons]
              omega
            have started : Collecting env low
                { session with expanding := id :: session.expanding } :=
              collecting.congr rfl rfl rfl
            have expanded := runs_expandFields constructed inside visited
              (collecting.kept id remembered) collects started rfl expands concerned
              fun upper => upward id upper concerned
            refine (runs_whileExpanding id expanded).mono ?_
            rintro after outcome _ _ ⟨expanding, agree, facts⟩
            have same : Session.Grows { after with expanding := expanding } after :=
              grows_of_same rfl rfl
            exact ⟨agree.mono fun _ _ shown => shown.imp fun _ _ one => one.mono same, facts⟩

end Environment

end JavaSymbols

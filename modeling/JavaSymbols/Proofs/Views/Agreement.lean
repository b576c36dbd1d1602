import JavaSymbols.Proofs.Resolution.SelfContained
import JavaSymbols.Proofs.Session.Questions
import JavaSymbols.Proofs.Views.Climbing

/-!
# Inherited types agree

The type of an inherited field, the return type of an inherited method and the
view of an ancestor that lists all ancestors are found by three different
traversals.  In an acyclic hierarchy whose type arguments all resolve, the three
come to the declaring item along the same chain, and show the same type.
-/

namespace JavaSymbols

open Relation Session

namespace Environment

variable {env : Environment}

/-! ## Members that are the only ones of their names -/

/-- An item with a field and a method, and no other member of any item has the
name of either.  The method has no parameters and no type parameters. -/
structure SoleMembers (env : Environment) (owner : ItemId) (position : Nat) (field : FieldDecl)
    (index : Nat) (method : MethodDecl) : Prop where
  isField : (env.tree.decl owner).fields[position]? = some field
  isMethod : (env.tree.decl owner).methods[index]? = some method
  typeParams : method.typeParams = []
  params : method.params = []
  fields : ∀ id < env.tree.size, ∀ other ∈ (env.tree.decl id).fields.zipIdx,
    other.1.name = field.name → id = owner ∧ other.2 = position
  methods : ∀ id < env.tree.size, ∀ other ∈ (env.tree.decl id).methods.zipIdx,
    other.1.name = method.name → id = owner ∧ other.2 = index
  components : ∀ id < env.tree.size, ∀ component ∈ (env.tree.decl id).components,
    component.name ≠ field.name ∧ component.name ≠ method.name
  constants : ∀ id < env.tree.size, ∀ constant ∈ (env.tree.decl id).constants,
    constant ≠ field.name

/-- The member that a field of the body of an item gives rise to. -/
def bodyMember (env : Environment) (id : ItemId) (field : FieldDecl) : FieldMember :=
  field.member (env.tree.isInterface (.item id))

/-- The members of an item that give rise to fields are those of constants and
components and then those of the body. -/
theorem fieldMembers_eq (env : Environment) (id : ItemId) : ∃ derived,
    env.tree.fieldMembers id = derived ++ (env.tree.decl id).fields.map (env.bodyMember id) ∧
      ∀ member ∈ derived, member.name ∈ (env.tree.decl id).constants ∨
        ∃ component ∈ (env.tree.decl id).components, component.name = member.name := by
  have body : ∀ inInterface, env.tree.isInterface (.item id) = inInterface →
      env.bodyMember id = FieldDecl.member inInterface := by
    rintro _ rfl
    rfl
  cases kind : (env.tree.decl id).kind with
  | classType =>
      refine ⟨[], ?_, by simp⟩
      rw [body false (by simp [DeclTree.isInterface, DeclTree.kindOf?, kind])]
      simp [DeclTree.fieldMembers, kind]
  | interfaceType =>
      refine ⟨[], ?_, by simp⟩
      rw [body true (by simp [DeclTree.isInterface, DeclTree.kindOf?, kind])]
      simp [DeclTree.fieldMembers, kind]
  | annotationType =>
      refine ⟨[], ?_, by simp⟩
      rw [body true (by simp [DeclTree.isInterface, DeclTree.kindOf?, kind])]
      simp [DeclTree.fieldMembers, kind]
  | enumType =>
      refine ⟨(env.tree.decl id).constants.map FieldMember.ofConstant, ?_, ?_⟩
      · rw [body false (by simp [DeclTree.isInterface, DeclTree.kindOf?, kind])]
        simp [DeclTree.fieldMembers, kind]
      · intro member isMember
        obtain ⟨name, listed, rfl⟩ := List.mem_map.mp isMember
        exact .inl listed
  | recordType =>
      refine ⟨(env.tree.decl id).components.map Component.member, ?_, ?_⟩
      · rw [body false (by simp [DeclTree.isInterface, DeclTree.kindOf?, kind])]
        simp [DeclTree.fieldMembers, kind]
      · intro member isMember
        obtain ⟨component, listed, rfl⟩ := List.mem_map.mp isMember
        exact .inr ⟨component, listed, rfl⟩

namespace SoleMembers

variable {owner : ItemId} {position index : Nat} {field : FieldDecl} {method : MethodDecl}

/-- No constant or component has the name of the field. -/
theorem derived_ne (sole : env.SoleMembers owner position field index method) {id : Nat}
    (inside : id < env.tree.size) {member : FieldMember}
    (derived : member.name ∈ (env.tree.decl id).constants ∨
      ∃ component ∈ (env.tree.decl id).components, component.name = member.name) :
    member.name ≠ field.name := by
  rcases derived with constant | ⟨component, listed, same⟩
  · exact sole.constants id inside _ constant
  · rw [← same]
    exact (sole.components id inside component listed).1

/-- The field is the only one with its name. -/
theorem soleField (sole : env.SoleMembers owner position field index method)
    (inside : owner < env.tree.size) :
    env.SoleField field.name owner (env.bodyMember owner field) := by
  constructor
  · obtain ⟨derived, members, fromDerived⟩ := fieldMembers_eq env owner
    have missed : derived.find? (fun one => one.name == field.name) = none := by
      rw [List.find?_eq_none]
      intro member isDerived named
      exact sole.derived_ne inside (fromDerived member isDerived) (by simpa using named)
    obtain ⟨bound, atPosition⟩ := List.getElem?_eq_some_iff.mp sole.isField
    have found : (env.tree.decl owner).fields.find? (fun one => one.name == field.name) =
        some field := by
      rw [List.find?_eq_some_iff_getElem]
      refine ⟨by simp, position, bound, atPosition, ?_⟩
      intro spot early
      have listed : ((env.tree.decl owner).fields[spot], spot) ∈
          (env.tree.decl owner).fields.zipIdx :=
        List.mem_zipIdx_iff_getElem?.mpr (List.getElem?_eq_getElem (early.trans bound))
      have other : (env.tree.decl owner).fields[spot].name ≠ field.name := by
        intro named
        exact early.ne (sole.fields owner inside _ listed named).2
      simpa using other
    rw [members, List.find?_append, missed, List.find?_map]
    change ((env.tree.decl owner).fields.find? fun one => one.name == field.name).map _ = _
    rw [found]
    rfl
  · intro id idInside other member isMember
    obtain ⟨derived, members, fromDerived⟩ := fieldMembers_eq env id
    rw [members] at isMember
    rcases List.mem_append.mp isMember with isDerived | inBody
    · exact sole.derived_ne idInside (fromDerived member isDerived)
    · obtain ⟨one, listed, rfl⟩ := List.mem_map.mp inBody
      obtain ⟨spot, bound, rfl⟩ := List.getElem_of_mem listed
      have zipped : ((env.tree.decl id).fields[spot], spot) ∈ (env.tree.decl id).fields.zipIdx :=
        List.mem_zipIdx_iff_getElem?.mpr (List.getElem?_eq_getElem bound)
      intro named
      exact other (sole.fields id idInside _ zipped named).1

end SoleMembers

/-! ## The searches as climbs -/

/-- The search for a method as a climb. -/
def methodClimb : Climb MethodAscent where
  place := MethodAscent.mk
  item := MethodAscent.item
  view := MethodAscent.view
  item_place _ _ := rfl
  view_place _ _ := rfl

/-- The search for all ancestors as a climb. -/
def ancestorClimb : Climb Ascent where
  place id view := ⟨.item id, view⟩
  item ascent := ascent.decl.site
  view := Ascent.view
  item_place _ _ := rfl
  view_place _ _ := rfl

theorem climbs_methodSearch (call : Call) : methodClimb.Climbs env (env.methodSearch call) where
  edges _ _ := rfl
  enter _ _ _ := rfl

theorem climbs_ancestorSearch : ancestorClimb.Climbs env (env.ancestorSearch true) where
  edges _ _ := rfl
  enter _ _ _ := rfl

/-! ## The search for the method -/

/-- The call of a method without arguments. -/
def callOf (method : MethodDecl) : Call :=
  ⟨method.name, [], false⟩

/-- Of a list with one entry that passes, the passing entries. -/
theorem filterMap_eq_singleton {α β : Type} {pass : α → Option β} {entries : List α} :
    ∀ {position : Nat} {entry : α} {value : β}, entries[position]? = some entry →
      pass entry = some value →
      (∀ spot other, entries[spot]? = some other → spot ≠ position → pass other = none) →
      entries.filterMap pass = [value] := by
  induction entries with
  | nil =>
      intro position entry value listed
      cases listed
  | cons first rest ih =>
      intro position entry value listed hit misses
      cases position with
      | zero =>
          cases listed
          have silent : rest.filterMap pass = [] := by
            rw [List.filterMap_eq_nil_iff]
            intro other member
            obtain ⟨spot, bound, rfl⟩ := List.getElem_of_mem member
            exact misses (spot + 1) _ (List.getElem?_eq_getElem bound) (Nat.succ_ne_zero spot)
          rw [List.filterMap_cons_some hit, silent]
      | succ position =>
          have missed : pass first = none := misses 0 first rfl (Nat.succ_ne_zero position).symm
          rw [List.filterMap_cons_none missed]
          apply ih listed hit
          intro spot other isOther apart
          exact misses (spot + 1) other isOther (by omega)

namespace SoleMembers

variable {owner : ItemId} {position index : Nat} {field : FieldDecl} {method : MethodDecl}

theorem methodsWhere_owner (sole : env.SoleMembers owner position field index method)
    (inside : owner < env.tree.size) :
    (env.tree.decl owner).methodsWhere (callOf method).fits = [(index, method)] := by
  have listed : (env.tree.decl owner).methods.zipIdx[index]? = some (method, index) := by
    rw [List.getElem?_zipIdx, sole.isMethod]
    simp
  apply filterMap_eq_singleton listed
  · simp [callOf, Call.fits, sole.params]
  · rintro spot ⟨other, _⟩ isOther apart
    have unnamed : other.name ≠ method.name := by
      intro named
      obtain ⟨_, rfl⟩ := sole.methods owner inside _ (List.mem_of_getElem? isOther) named
      rw [List.getElem?_zipIdx] at isOther
      obtain ⟨one, _, same⟩ := Option.map_eq_some_iff.mp isOther
      cases same
      exact apart (Nat.zero_add spot).symm
    simp [callOf, Call.fits, unnamed]

theorem methodsWhere_other (sole : env.SoleMembers owner position field index method) {id : Nat}
    (inside : id < env.tree.size) (other : id ≠ owner) :
    (env.tree.decl id).methodsWhere (callOf method).fits = [] := by
  rw [TypeDecl.methodsWhere, List.filterMap_eq_nil_iff]
  rintro ⟨one, spot⟩ member
  have unnamed : one.name ≠ method.name := by
    intro named
    exact other (sole.methods id inside _ member named).1
  simp [callOf, Call.fits, unnamed]

/-- No record has an accessor with the name of the method. -/
theorem implicitAccessor?_eq (sole : env.SoleMembers owner position field index method) {id : Nat}
    (inside : id < env.tree.size) : env.implicitAccessor? (callOf method) id = none := by
  have missing : (env.tree.decl id).components.findIdx?
      (fun component => component.name == method.name) = none := by
    rw [List.findIdx?_eq_none_iff]
    intro component listed
    simpa using (sole.components id inside component listed).2
  simp [implicitAccessor?, DeclTree.accessorNamed?, callOf, missing]

theorem paramTypes_eq (sole : env.SoleMembers owner position field index method) :
    env.paramTypes ⟨owner, .declared index⟩ = pure [] := by
  simp [paramTypes, DeclTree.methodDecl?, sole.isMethod, sole.params]

theorem applicable?_eq (sole : env.SoleMembers owner position field index method)
    (view : Option Reference) :
    env.applicable? (callOf method) owner view (index, method) =
      pure (some ⟨⟨owner, .declared index⟩, []⟩) := by
  have params : (env.paramTypes ⟨owner, .declared index⟩ : Query (List Ty)) = pure [] := by
    rw [sole.paramTypes_eq]
    exact Query.ofTraced_pure []
  unfold applicable?
  dsimp only
  rw [params]
  rfl

/-- What the search for the method answers at an item. -/
def answer (owner : ItemId) (index : Nat) (ascent : MethodAscent) : Option MethodMatch :=
  if ascent.item = owner then some ⟨⟨owner, .declared index⟩, ascent.view⟩ else none

theorem visit_eq (sole : env.SoleMembers owner position field index method)
    {ascent : MethodAscent} (inside : ascent.item < env.tree.size) :
    (env.methodSearch (callOf method)).visit ascent = pure (answer owner index ascent) := by
  rcases ascent with ⟨id, view⟩
  change (env.applicables (callOf method) id view >>= fun all => env.mostSpecific all >>=
    fun found => pure (found.map fun method => MethodMatch.mk method view)) = _
  rw [applicables, sole.implicitAccessor?_eq inside]
  by_cases same : id = owner
  · subst same
    rw [sole.methodsWhere_owner inside, List.mapM_cons, sole.applicable?_eq, answer, if_pos rfl]
    rfl
  · rw [sole.methodsWhere_other inside same, answer, if_neg same]
    rfl

theorem charts_methodSearch (sole : env.SoleMembers owner position field index method)
    (plain : env.PlainArguments) (constructed : env.Constructed) (inTree : env.InTree) :
    Search.Charts (env.methodSearch (callOf method)) (Sound env) Follows (answer owner index)
      (methodClimb.above env) (methodClimb.Within env) (methodClimb.LeadsTo env) := by
  apply (climbs_methodSearch (callOf method)).charts (plain.converting constructed) constructed
    inTree
  intro session ascent sound within
  rw [sole.visit_eq within.inside]
  exact Query.runs_pure sound rfl

theorem directed_methodSearch (plain : env.PlainArguments) (constructed : env.Constructed)
    (acyclic : env.Acyclic) :
    Search.Directed MethodAscent.item (answer owner index) (methodClimb.above env)
      (methodClimb.Within env) env.tree.ids (methodClimb.At owner) := by
  apply Climb.directed (plain.converting constructed) constructed acyclic
  · intro ascent within
    exact List.mem_range.mpr within.inside
  · intro ascent twin _ _ same
    exact same
  · intro ascent missed
    exact if_neg missed

/-- The search comes to the method along the first chain. -/
theorem runs_findMethod (sole : env.SoleMembers owner position field index method)
    (plain : env.PlainArguments) (constructed : env.Constructed) (inTree : env.InTree)
    (acyclic : env.Acyclic) {session : Session} (sound : session.Sound env) {id : Nat}
    (inside : id < env.tree.size) {chain : List (ItemId × Supertype)}
    (first : FirstChain env owner id chain) :
    Query.Runs (Sound env) Follows session (env.findMethod (callOf method) id) fun _ outcome =>
      outcome = .ok (some ⟨⟨owner, .declared index⟩, env.composedView chain none⟩) := by
  have within : methodClimb.Within env ⟨id, none⟩ := Climb.within_start inside
  have enough : env.tree.ids.length ≤ env.searchDepth := by simp [DeclTree.ids, searchDepth]
  have directed : Search.Directed MethodAscent.item (answer owner index) (methodClimb.above env)
      (methodClimb.Within env) env.tree.ids (methodClimb.At owner) :=
    directed_methodSearch plain constructed acyclic
  have came := directed.run_first within enough
    (Climb.first_of_firstChain (plain.converting constructed) constructed first none within)
  have answered : answer owner index ⟨owner, env.composedView chain none⟩ =
      some ⟨⟨owner, .declared index⟩, env.composedView chain none⟩ := if_pos rfl
  have found := came.2 _ answered
  have charts := sole.charts_methodSearch plain constructed inTree
  apply (charts.runs_run env.searchDepth sound within).bind
  · intro after cause _ failed
    cases failed
  · intro after result soundAfter _ same
    cases same
    apply Query.runs_pure soundAfter
    exact congrArg Except.ok found

/-- The return type of the method is converted in the body of its item. -/
theorem returnType_eq (sole : env.SoleMembers owner position field index method) {type : Ty}
    (converts : (env.convert owner method.returns).outcome = .ok type) :
    (env.returnType ⟨owner, .declared index⟩).outcome = .ok type := by
  have outside := outsideGenericMethods_method sole.isMethod sole.typeParams
  have written : env.tree.methodDecl? ⟨owner, .declared index⟩ = some method := sole.isMethod
  simp only [returnType, written, Method.typeSite]
  rw [convertAt_eq_convert outside]
  exact converts

/-- The found method as seen through the reference that led to it. -/
theorem runs_usageOf (sole : env.SoleMembers owner position field index method)
    {session : Session} (sound : session.Sound env) {type : Ty}
    (converts : (env.convert owner method.returns).outcome = .ok type) (view : Option Reference) :
    Query.Runs (Sound env) Defers session (env.usageOf ⟨⟨owner, .declared index⟩, view⟩)
      fun _ outcome => ∃ cells,
        outcome = .ok ⟨⟨owner, .declared index⟩, [], type.seenThrough view cells⟩ := by
  have params : (env.paramTypes ⟨owner, .declared index⟩ : Query (List Ty)) = pure [] := by
    rw [sole.paramTypes_eq]
    exact Query.ofTraced_pure []
  unfold usageOf
  rw [params, pure_bind]
  apply Query.Runs.bind_cells
  apply (Query.runs_lift sound (env.returnType _)).bind
  · rintro after cause _ ⟨_, failed⟩
    rw [sole.returnType_eq converts] at failed
    cases failed
  · rintro after returns soundAfter _ ⟨_, same⟩
    rw [sole.returnType_eq converts] at same
    cases same
    exact Query.runs_pure soundAfter ⟨session.cells, rfl⟩

/-- The call of the method from an item means the method, with its return type
seen along the first chain. -/
theorem runs_lookupUsage (sole : env.SoleMembers owner position field index method)
    (plain : env.PlainArguments) (constructed : env.Constructed) (inTree : env.InTree)
    (acyclic : env.Acyclic) {session : Session} (sound : session.Sound env) {id : Nat}
    (inside : id < env.tree.size) {chain : List (ItemId × Supertype)}
    (first : FirstChain env owner id chain) {type : Ty}
    (converts : (env.convert owner method.returns).outcome = .ok type) (eager : type.isEager = true)
    (owned : type.VarsIn (OwnedBy owner)) :
    Query.Runs (Sound env) Follows session (env.lookupUsage (.body id) method.name [])
      fun _ outcome => outcome = .ok (some
        ⟨⟨owner, .declared index⟩, [], env.inheritedType chain type⟩) := by
  apply (Query.runs_known sound inside).follows_of_defers.bind
  · rintro after cause _ ⟨_, failed⟩
    cases failed
  · intro after _ soundAfter _ _
    rw [DeclTree.chain, usageOutward]
    apply (sole.runs_findMethod plain constructed inTree acyclic soundAfter inside first).bind
    · intro last cause _ failed
      cases failed
    · intro last found soundLast _ same
      cases same
      apply (sole.runs_usageOf soundLast converts _).follows_of_defers.bind
      · rintro final cause _ ⟨_, failed⟩
        cases failed
      · rintro final usage soundFinal _ ⟨cells, same⟩
        cases same
        apply Query.runs_pure soundFinal
        rw [seenThrough_composedView plain constructed acyclic eager owned first cells inside none
          (by simp)]
        rfl

end SoleMembers

/-! ## The search for all ancestors -/

theorem charts_ancestorSearch (plain : env.PlainArguments) (constructed : env.Constructed)
    (inTree : env.InTree) :
    Search.Charts (env.ancestorSearch true) (Sound env) Follows (fun _ => none)
      (ancestorClimb.above env) (ancestorClimb.Within env) (ancestorClimb.LeadsTo env) := by
  apply climbs_ancestorSearch.charts (plain.converting constructed) constructed inTree
  intro session ascent sound _
  exact Query.runs_pure sound rfl

/-- The names of nodes tell their items apart. -/
theorem item_eq_of_name_eq (distinct : env.tree.DistinctItems) {ascent twin : Ascent}
    (within : ancestorClimb.Within env ascent) (twinWithin : ancestorClimb.Within env twin)
    (same : env.tree.qualifiedNameOf ascent.decl = env.tree.qualifiedNameOf twin.decl) :
    ancestorClimb.item ascent = ancestorClimb.item twin := by
  have named : ∀ one, ancestorClimb.Within env one →
      env.tree.qualifiedNameOf one.decl = env.tree.qualifiedName (ancestorClimb.item one) := by
    intro one oneWithin
    rw [← oneWithin.placed]
    rfl
  rw [named ascent within, named twin twinWithin] at same
  exact distinct _ _ within.inside twinWithin.inside same

theorem directed_ancestorSearch (plain : env.PlainArguments) (constructed : env.Constructed)
    (distinct : env.tree.DistinctItems) (acyclic : env.Acyclic) (owner : Nat) :
    Search.Directed (fun ascent : Ascent => env.tree.qualifiedNameOf ascent.decl)
      (fun _ => (none : Option Empty)) (ancestorClimb.above env) (ancestorClimb.Within env)
      (env.tree.ids.map env.tree.qualifiedName) (ancestorClimb.At owner) := by
  apply Climb.directed (plain.converting constructed) constructed acyclic
  · intro ascent within
    rw [← within.placed]
    exact List.mem_map_of_mem (List.mem_range.mpr within.inside)
  · intro ascent twin within twinWithin same
    exact item_eq_of_name_eq distinct within twinWithin same
  · intro ascent _
    rfl

/-- A view composed along a chain that leads anywhere is a reference. -/
theorem exists_composedView (chain : List (ItemId × Supertype)) :
    ∀ reference : Reference, ∃ view, env.composedView chain (some reference) = some view := by
  induction chain with
  | nil =>
      intro reference
      exact ⟨reference, rfl⟩
  | cons link rest ih =>
      intro reference
      exact ih ((env.converted link).seenThrough (some reference) .empty)

/-- Among all ancestors there is one view of each, the view composed along the
first chain. -/
theorem runs_allAncestors (plain : env.PlainArguments) (constructed : env.Constructed)
    (inTree : env.InTree) (distinct : env.tree.DistinctItems) (acyclic : env.Acyclic)
    {session : Session} (sound : session.Sound env) {owner id : Nat}
    (inside : id < env.tree.size) (other : id ≠ owner) {chain : List (ItemId × Supertype)}
    (first : FirstChain env owner id chain) :
    Query.Runs (Sound env) Follows session (env.allAncestorsOf (.item id) true) fun _ outcome =>
      ∃ references view, outcome = .ok references ∧ env.composedView chain none = some view ∧
        view ∈ references ∧ view.item = owner ∧
        ∀ reference ∈ references, reference.item = owner → reference = view := by
  have within : ancestorClimb.Within env ⟨.item id, none⟩ := Climb.within_start inside
  have enough : (env.tree.ids.map env.tree.qualifiedName).length ≤ env.searchDepth := by
    simp [DeclTree.ids, searchDepth]
  have directed := directed_ancestorSearch plain constructed distinct acyclic owner
  have came := (directed.run_first within enough
    (Climb.first_of_firstChain (plain.converting constructed) constructed first none within)).1
  have added := directed.run_adds within enough
  obtain ⟨view, isView⟩ : ∃ view, env.composedView chain none = some view := by
    cases first with
    | here => exact absurd rfl other
    | step => exact exists_composedView _ _
  rw [isView] at came
  have charts := charts_ancestorSearch plain constructed inTree
  apply (charts.runs_run env.searchDepth sound within).bind
  · intro after cause _ failed
    cases failed
  · intro after result soundAfter _ same
    cases same
    apply Query.runs_pure soundAfter
    have finalWithin := added.within _ came
    refine ⟨_, view, rfl, isView, List.mem_filterMap.mpr ⟨_, came, rfl⟩,
      (finalWithin.viewed view rfl).1, ?_⟩
    intro reference listed isOwner
    obtain ⟨ascent, isSeen, viewed⟩ := List.mem_filterMap.mp listed
    have ascentWithin := added.within ascent isSeen
    have named : ∀ one, ancestorClimb.Within env one → ancestorClimb.item one = owner →
        env.tree.qualifiedNameOf one.decl = env.tree.qualifiedName owner := by
      rintro one oneWithin rfl
      rw [← oneWithin.placed]
      rfl
    have ascentName := named ascent ascentWithin
      ((ascentWithin.viewed reference viewed).1.symm.trans isOwner)
    have same := List.inj_on_of_nodup_map added.fresh isSeen came
      (ascentName.trans (named _ finalWithin rfl).symm)
    subst same
    cases viewed
    rfl

/-! ## The field -/

/-- The field of a name that one field has is found with its type seen along the
first chain. -/
theorem SoleField.fieldOf?_eq {name : String} {owner : ItemId} {member : FieldMember}
    (sole : env.SoleField name owner member) (plain : env.PlainArguments)
    (constructed : env.Constructed) (inTree : env.InTree) (acyclic : env.Acyclic)
    {session : Session} (reached : session.Reached env) {id : Nat} (inside : id < env.tree.size)
    {chain : List (ItemId × Supertype)} (first : FirstChain env owner id chain)
    {source : TypeExpr} (written : member.type = some source) {type : Ty}
    (converts : (env.convert owner source).outcome = .ok type) (eager : type.isEager = true)
    (owned : type.VarsIn (OwnedBy owner)) :
    ∃ field, (env.fieldOf? (.item id) name session).1 = .ok (some field) ∧
      field.declaring = owner ∧ field.type = env.inheritedType chain type := by
  obtain ⟨collecting, idle⟩ := collecting_of_reached constructed reached
  obtain ⟨entries, given, found⟩ := sole.find_entriesAlong constructed inTree acyclic first inside
    [] (by simp)
  obtain ⟨field, after, answered, shows⟩ :=
    exists_fieldOf?_of_first constructed collecting idle inside given found
  rw [answered]
  exact ⟨field, rfl, congrArg FieldFacts.declaring shows.facts,
    type_of_seen plain constructed written converts eager owned first inside shows.type⟩

/-! ## The three ways agree -/

/-- In an acyclic hierarchy of distinctly named items whose type arguments
resolve without parameters of enclosing items, a type of an ancestor is the same
whether it is seen as the type of an inherited field, as the return type of an
inherited method or through the ancestor's entry among all ancestors, in every
session. -/
theorem inheritedTypes_agree (constructed : env.Constructed) (inTree : env.InTree)
    (distinct : env.tree.DistinctItems) (acyclic : env.Acyclic) (plain : env.PlainArguments)
    {owner id : Nat} {position index : Nat} {field : FieldDecl} {method : MethodDecl}
    (sole : env.SoleMembers owner position field index method) {type : Ty}
    (fieldConverts : (env.convert owner field.type).outcome = .ok type)
    (methodConverts : (env.convert owner method.returns).outcome = .ok type)
    (owned : type.VarsIn (OwnedBy owner)) (inside : id < env.tree.size)
    (leads : ReflTransGen env.Inherits id owner) :
    ∃ seen : Ty, ∀ session, session.Reached env →
      (∃ found, (env.fieldOf? (.item id) field.name session).1 = .ok (some found) ∧
        found.declaring = owner ∧ found.type = seen) ∧
      (∃ usage, (env.lookupUsage (.body id) method.name [] session).1 = .ok (some usage) ∧
        usage.method = ⟨owner, .declared index⟩ ∧ usage.returns = seen) ∧
      (id ≠ owner → ∃ references view,
        (env.allAncestorsOf (.item id) true session).1 = .ok references ∧
        view ∈ references ∧ view.item = owner ∧ (∀ cells, view.apply cells type = seen) ∧
        ∀ reference ∈ references, reference.item = owner → reference = view) := by
  have ownerInside := lt_of_leads constructed inside leads
  have eager := isEager_of_convert constructed.wellFormed ownerInside fieldConverts
  obtain ⟨chain, first⟩ := exists_firstChain constructed acyclic inside leads
  refine ⟨env.inheritedType chain type, ?_⟩
  intro session reached
  have sound := (collecting_of_reached constructed reached).1.sound
  constructor
  · exact (sole.soleField ownerInside).fieldOf?_eq plain constructed inTree acyclic reached inside
      first rfl fieldConverts eager owned
  constructor
  · exact ⟨_, (sole.runs_lookupUsage plain constructed inTree acyclic sound inside first
      methodConverts eager owned).good, rfl, rfl⟩
  · intro other
    obtain ⟨references, view, answered, isView, listed, ofOwner, unique⟩ :=
      (runs_allAncestors plain constructed inTree distinct acyclic sound inside other first).good
    refine ⟨references, view, answered, listed, ofOwner, ?_, unique⟩
    intro cells
    have composed := seenThrough_composedView plain constructed acyclic eager owned first cells
      inside none (by simp)
    rw [isView] at composed
    exact composed

/-! ## Hierarchies that can be checked -/

/-- Type arguments that resolve in a tree without member types mention no type
parameter of an enclosing item. -/
theorem plainArguments_of_topLevel
    (topLevel : ∀ id < env.tree.size, (env.tree.item id).enclosing = [])
    (resolves : ∀ id < env.tree.size, ∀ supertype ∈ Climb.supertypes env id,
      ∀ arg ∈ supertype.args, (env.convertArg id arg).toBool = true) : env.PlainArguments := by
  intro id inside found given supertype member source isArgument
  rw [← Climb.supertypes_of_given given] at member
  have resolved := resolves id inside supertype member _ isArgument
  cases converts : (env.convert id source).outcome with
  | error fault =>
      change (env.convert id source).outcome.toBool = true at resolved
      rw [converts] at resolved
      cases resolved
  | ok type =>
      refine ⟨type, rfl, ?_⟩
      apply Ty.VarsIn.mono _ type
        (varsIn_convertAt (outsideGenericMethods_body env id) source type converts)
      intro var _ outer isOuter
      rw [topLevel id inside] at isOuter
      cases isOuter

/-- A hierarchy is acyclic if the listed supertypes rank below their items. -/
theorem acyclic_of_ranked (constructed : env.Constructed) (rank : Nat → Nat)
    (ranked : ∀ id < env.tree.size, ∀ supertype ∈ Climb.supertypes env id,
      rank supertype.item < rank id) : env.Acyclic := by
  apply acyclic_of_descends constructed rank
  intro lower inside upper inherits
  obtain ⟨supertype, member, rfl⟩ := Climb.inherits_iff_mem.mp inherits
  exact ranked lower inside supertype member

/-- A class with a type parameter, a field and a method, and classes that extend
it with type arguments. -/
def extendedClasses : DeclTree :=
  .libraryWith "demo"
    [{ TypeDecl.empty .classType "Base" with
        typeParams := [⟨"X", []⟩]
        fields := [⟨"content", .named (.simple "X" none), .packageAccess, false, false⟩]
        methods := [⟨"take", [], [], .named (.simple "X" none), .publicAccess, false⟩] },
      { TypeDecl.empty .classType "Middle" with
        typeParams := [⟨"Y", []⟩]
        extended := [.simple "Base" (some [.array (.named (.simple "Y" none))])] },
      { TypeDecl.empty .classType "Leaf" with
        extended := [.simple "Middle" (some [.named (.simple "String" none)])] }]

theorem inheritedTypes_of_extendedClasses :
    (∃ found, ((selfContained extendedClasses).fieldOf? (.item 12) "content" .start).1 =
      .ok (some found) ∧ found.type.same (.array textType) = true) ∧
    (∃ usage, ((selfContained extendedClasses).lookupUsage (.body 12) "take" [] .start).1 =
      .ok (some usage) ∧ usage.returns.same (.array textType) = true) ∧
    ∃ references view,
      ((selfContained extendedClasses).allAncestorsOf (.item 12) true .start).1 = .ok references ∧
      view ∈ references ∧ view.item = 10 ∧
      (view.apply .empty (.typeVar ⟨.type 10, 0, "X"⟩)).same (.array textType) = true := by
  have constructed : (selfContained extendedClasses).Constructed :=
    constructed_libraryWith _ _
  have distinct : extendedClasses.DistinctItems := by decide +kernel
  have acyclic : (selfContained extendedClasses).Acyclic :=
    acyclic_of_ranked constructed libraryRank (by decide +kernel)
  have plain : (selfContained extendedClasses).PlainArguments :=
    plainArguments_of_topLevel (by decide +kernel) (by decide +kernel)
  have sole : (selfContained extendedClasses).SoleMembers 10 0
      ⟨"content", .named (.simple "X" none), .packageAccess, false, false⟩ 0
      ⟨"take", [], [], .named (.simple "X" none), .publicAccess, false⟩ := by
    constructor <;> decide +kernel
  have converts : ((selfContained extendedClasses).convert 10
      (.named (.simple "X" none))).outcome = .ok (.typeVar ⟨.type 10, 0, "X"⟩) := by
    rfl
  have lower : (selfContained extendedClasses).Inherits 12 11 :=
    Climb.inherits_iff_mem.mpr (by decide +kernel)
  have upper : (selfContained extendedClasses).Inherits 11 10 :=
    Climb.inherits_iff_mem.mpr (by decide +kernel)
  have evaluated : ((selfContained extendedClasses).fieldOf? (.item 12) "content" .start).1.map
      (Option.map fun field => field.type.same (.array textType)) = .ok (some true) := by
    decide +kernel
  obtain ⟨seen, agrees⟩ := inheritedTypes_agree constructed (inTree_selfContained _) distinct
    acyclic plain sole converts converts rfl (by decide +kernel) (.head lower (.single upper))
  obtain ⟨⟨field, isField, _, rfl⟩, ⟨usage, isUsage, _, returns⟩, views⟩ := agrees .start .start
  obtain ⟨references, view, given, listed, ofBase, applied, _⟩ := views (by decide)
  have isText : field.type.same (.array textType) = true := by
    rw [isField] at evaluated
    simpa [Except.map] using evaluated
  exact ⟨⟨field, isField, isText⟩, ⟨usage, isUsage, returns ▸ isText⟩,
    ⟨references, view, given, listed, ofBase, applied .empty ▸ isText⟩⟩

/-- A class with a field and a method, and a class that extends it, has a type
parameter bounded by it, and declares a field whose type the source of names
places outside the tree. -/
def boundedBox : Environment :=
  let tree := DeclTree.libraryWith "demo"
    [{ TypeDecl.empty .classType "Base" with
        fields := [⟨"content", .named (.simple "String" none), .packageAccess, false, false⟩]
        methods := [⟨"take", [], [], .named (.simple "String" none), .publicAccess, false⟩] },
      { TypeDecl.empty .classType "Box" with
        typeParams := [⟨"P", [.simple "Base" none]⟩]
        extended := [.simple "Base" none]
        fields := [⟨"lid", .named (.simple "Stray" none), .packageAccess, false, false⟩] }]
  straying tree "demo.Stray" 99

/-- A type parameter has the ancestors of its bound and no fields; and an item has
no fields at all when the type of one leads out of the tree. -/
theorem inheritedTypes_of_boundedBox :
    boundedBox.Constructed ∧ boundedBox.tree.DistinctItems ∧ boundedBox.Acyclic ∧
    boundedBox.PlainArguments ∧
    boundedBox.SoleMembers 10 0
      ⟨"content", .named (.simple "String" none), .packageAccess, false, false⟩ 0
      ⟨"take", [], [], .named (.simple "String" none), .publicAccess, false⟩ ∧
    (boundedBox.convert 10 (.named (.simple "String" none))).outcome = .ok textType ∧
    boundedBox.Inherits 11 10 ∧
    (boundedBox.allAncestorsOf (.parameter ⟨.type 11, 0⟩) true .start).1.map
      (List.map Reference.item) = .ok [10, 0] ∧
    (boundedBox.fieldOf? (.parameter ⟨.type 11, 0⟩) "content" .start).1.map
      (Option.map Field.facts) = .ok none ∧
    (boundedBox.fieldOf? (.item 11) "content" .start).1.map (Option.map Field.facts) =
      .error (.inconsistent (.unknownItem 99)) := by
  have constructed : boundedBox.Constructed :=
    constructed_straying (DeclTree.grownFrom_libraryWith _ _) _ _
  refine ⟨constructed, ?_, ?_, ?_, ?_, rfl, ?_, ?_, ?_, ?_⟩
  · decide +kernel
  · exact acyclic_of_ranked constructed libraryRank (by decide +kernel)
  · exact plainArguments_of_topLevel (by decide +kernel) (by decide +kernel)
  · constructor <;> decide +kernel
  · exact Climb.inherits_iff_mem.mpr (by decide +kernel)
  · decide +kernel
  · decide +kernel
  · decide +kernel

end Environment

end JavaSymbols

import JavaSymbols.Proofs.Fields.Answers
import JavaSymbols.Proofs.Methods.Choice
import JavaSymbols.Proofs.Methods.Told
import JavaSymbols.Proofs.Session.Memos

/-!
# Record components

A record component gives rise to a private field and, unless a method without
parameters is written under its name, to an accessor.  Fields are collected from
all supertypes and may have been remembered long ago, with a type that is deferred
when it does not resolve; accessors are candidates of the search for a method, and
their type is converted on the spot.  For one name the two come from the same
component, and their types have the same outcome.
-/

namespace JavaSymbols

open Session

namespace Environment

variable {env : Environment} {session : Session} {id : Nat} {name : String}

/-! ## Own fields -/

/-- The first field of an item with a name is its own, if it declares one. -/
theorem find?_entriesOf (constructed : env.Constructed) (inTree : env.InTree)
    (inside : id < env.tree.size) {member : FieldMember}
    (found : (env.tree.fieldMembers id).find? (fun one => one.name == name) = some member) :
    ∃ entries, env.entriesOf id = .ok entries ∧
      entries.find? (fun entry => entry.member.name == name) = some ⟨id, member, []⟩ := by
  cases given : env.entriesOf id with
  | error fault =>
      exact absurd (stray_of_entriesAlong constructed inside given) (inTree.not_stray fault)
  | ok entries =>
      rw [entriesOf, entriesAlong_of_fresh inside List.not_mem_nil,
        ownEntries_eq constructed inTree inside] at given
      obtain ⟨own, isOwn, given⟩ := Except.bind_eq_ok given
      obtain ⟨_, _, given⟩ := Except.bind_eq_ok given
      obtain ⟨inherited, _, given⟩ := Except.bind_eq_ok given
      cases isOwn
      cases given
      refine ⟨_, rfl, ?_⟩
      have own : ((env.tree.fieldMembers id).map fun member => Entry.mk id member []).find?
          (fun entry => entry.member.name == name) = some ⟨id, member, []⟩ := by
        rw [List.find?_map]
        exact congrArg (Option.map fun member => Entry.mk id member []) found
      rw [List.find?_append, own]
      rfl

/-- The type of an own field is that of its declaration. -/
theorem ownType_of_seen {member : FieldMember} {type : Ty}
    (seen : Seen env Session.start session ⟨id, member, []⟩ type) :
    OwnType env session.cells id member type := by
  cases seen with
  | remembered kept => exact absurd kept (Session.not_keeps_start _ _)
  | own _ declared => exact declared

/-- The type of a written field can be forced, which converts what is written. -/
theorem forced_of_ownType (wellFormed : env.tree.WellFormed) (inside : id < env.tree.size)
    {cells : Cells} {member : FieldMember} {source : TypeExpr} {type : Ty}
    (own : OwnType env cells id member type) (written : member.type = some source) :
    type.Fits cells ∧ env.forced type = (env.convert id source).outcome := by
  cases own with
  | constant untyped =>
      rw [untyped] at written
      cases written
  | converted sameSource converts =>
      rw [sameSource] at written
      cases written
      have eager := isEager_of_convert wellFormed inside converts
      exact ⟨Ty.fits_of_isEager cells type eager,
        (forced_of_isEager type eager).trans converts.symm⟩
  | deferred sameSource _ _ held =>
      rw [sameSource] at written
      cases written
      exact ⟨held, rfl⟩

/-- The first field of an item with a name, when it is the item's own: whatever is
asked later, its type resolves as it is written. -/
theorem exists_fieldOf? (constructed : env.Constructed) (inTree : env.InTree)
    (reached : session.Reached env) (inside : id < env.tree.size) {member : FieldMember}
    (found : (env.tree.fieldMembers id).find? (fun one => one.name == name) = some member)
    {source : TypeExpr} (written : member.type = some source) :
    ∃ field, (env.fieldOf? (.item id) name session).1 = .ok (some field) ∧
      field.declaring = id ∧ field.isDerived = member.isDerived ∧
      ∀ later, LeadsTo env (env.fieldOf? (.item id) name session).2 later →
        (env.resolvedType field later).1 = (env.convert id source).outcome := by
  obtain ⟨collecting, idle⟩ := collecting_of_reached constructed reached
  obtain ⟨entries, given, first⟩ := find?_entriesOf constructed inTree inside found
  obtain ⟨field, after, answered, shows⟩ :=
    exists_fieldOf?_of_first constructed collecting idle inside given first
  have asked : after.Reached env :=
    reached.answered (.field (.item id) name) inside rfl answered
  rcases forced_of_ownType constructed.wellFormed inside (ownType_of_seen shows.type) written
    with ⟨fits, forces⟩
  rw [answered]
  refine ⟨field, rfl, congrArg FieldFacts.declaring shows.facts,
    congrArg FieldFacts.isDerived shows.facts, ?_⟩
  intro later onward
  -- the cells that the type is read in are still there later, with what they held
  have kept := extends_of_leadsTo constructed asked onward
  rw [resolvedType, force_of_reached constructed (asked.leadsTo onward) (fits.mono kept), forces]

/-! ## Calls without arguments -/

/-- The methods of an item that a call can mean as far as arguments do not matter:
those written that it fits, and then the implicit accessor. -/
def fitting (env : Environment) (call : Call) (id : ItemId) : List Method :=
  ((env.tree.decl id).methodsWhere call.fits).map (fun overload => ⟨id, .declared overload.1⟩) ++
    (env.implicitAccessor? call id).toList

variable {call : Call}

/-- Without arguments a method that fits is applicable. -/
theorem applicable?_of_noArgs (noArgs : call.args = []) {overload : Nat × MethodDecl}
    (listed : overload ∈ (env.tree.decl id).methodsWhere call.fits) (view : Option Reference) :
    env.applicable? call id view overload = pure (some ⟨⟨id, .declared overload.1⟩, []⟩) := by
  rcases mem_methodsWhere_iff.mp listed with ⟨stands, fits⟩
  have noParams : overload.2.params = [] := by
    simp only [Call.fits, noArgs, Bool.and_eq_true, beq_iff_eq, List.length_nil] at fits
    exact List.length_eq_zero_iff.mp fits.1.2
  have params : (env.paramTypes ⟨id, .declared overload.1⟩ : Query (List Ty)) = pure [] := by
    have written : env.tree.methodDecl? ⟨id, .declared overload.1⟩ = some overload.2 := stands
    rw [paramTypes, written]
    simp only [noParams, List.mapM_nil]
    exact Query.ofTraced_pure []
  unfold applicable?
  dsimp only
  rw [params, noArgs]
  rfl

/-- Without arguments all that fits is applicable, with no parameters. -/
theorem applicables_of_noArgs (noArgs : call.args = []) (view : Option Reference) :
    env.applicables call id view =
      pure ((env.fitting call id).map fun method => Applicable.mk method []) := by
  have written : ((env.tree.decl id).methodsWhere call.fits).mapM (env.applicable? call id view) =
      pure (((env.tree.decl id).methodsWhere call.fits).map fun overload =>
        some ⟨⟨id, .declared overload.1⟩, []⟩) := by
    rw [← List.mapM_pure]
    apply mapM_congr_of_mem
    intro overload listed
    exact applicable?_of_noArgs noArgs listed view
  rw [applicables, written, pure_bind]
  simp [fitting, Option.toList_map, Function.comp_def]

/-- A method without parameters is passed on to others without parameters. -/
theorem passesToAll_of_noParams (method : Method) (methods : List Method) :
    env.passesToAll ⟨method, []⟩ (methods.map fun method => Applicable.mk method []) =
      pure true := by
  induction methods with
  | nil => rfl
  | cons other rest ih =>
      rw [List.map_cons, passesToAll]
      exact ih

/-- Of several methods without parameters the first is taken. -/
theorem mostSpecific_of_noParams (methods : List Method) :
    env.mostSpecific (methods.map fun method => Applicable.mk method []) = pure methods.head? := by
  rcases methods with _ | ⟨first, _ | ⟨second, rest⟩⟩
  · rfl
  · rfl
  · have passes : env.passesToAll ⟨first, []⟩
        ((first :: second :: rest).map fun method => Applicable.mk method []) = pure true :=
      passesToAll_of_noParams first _
    change (env.firstPassingToAll _ _ >>= fun found =>
      pure (some (found.getD first))) = _
    rw [List.map_cons] at passes ⊢
    rw [firstPassingToAll, passes]
    rfl

/-- A call without arguments means the first method of an item that fits. -/
theorem findMethod_of_noArgs (noArgs : call.args = []) {method : Method}
    (first : (env.fitting call id).head? = some method) :
    env.findMethod call id = pure (some ⟨method, none⟩) := by
  have visited : (env.methodSearch call).visit ⟨id, none⟩ = pure (some ⟨method, none⟩) := by
    change (env.applicables call id none >>= fun all => env.mostSpecific all >>=
      fun found => pure (found.map fun method => MethodMatch.mk method none)) = _
    rw [applicables_of_noArgs noArgs, pure_bind, mostSpecific_of_noParams, pure_bind, first]
    rfl
  -- the search ends at its first key, so supertypes are never asked for
  have searched : (env.methodSearch call).run env.searchDepth ⟨id, none⟩ =
      pure ([⟨id, none⟩], some ⟨method, none⟩) := by
    change (env.methodSearch call).explore (env.tree.size + 1 + 1) [] ⟨id, none⟩ = _
    rw [Search.explore, if_neg (by simp [Search.isSeen]), visited, pure_bind]
    rfl
  rw [findMethod, searched, pure_bind]

/-- In the body of an item too. -/
theorem lookupMethod_of_noArgs (inside : id < env.tree.size) (noArgs : call.args = [])
    {method : Method} (first : (env.fitting call id).head? = some method) :
    env.lookupMethod (.body id) call = pure (some method) := by
  rw [lookupMethod, known_then inside, DeclTree.chain, methodOutward,
    findMethod_of_noArgs noArgs first, pure_bind]

/-! ## Accessors -/

/-- The accessor of a component, the first of its name, has the type of the
component. -/
theorem returnType_accessor {index : Nat} (isFirst : (env.tree.decl id).components.findIdx?
      (fun component => component.name == name) = some index) :
    ∃ component,
      (env.tree.decl id).components.find? (fun one => one.name == name) = some component ∧
      env.returnType ⟨id, .accessor index⟩ = env.convert id component.type := by
  rcases List.findIdx?_eq_some_iff_getElem.mp isFirst with ⟨bound, named, before⟩
  have accessed : env.tree.accessedComponent? ⟨id, .accessor index⟩ =
      some (env.tree.decl id).components[index] := List.getElem?_eq_getElem bound
  refine ⟨(env.tree.decl id).components[index], ?_, ?_⟩
  · rw [List.find?_eq_some_iff_getElem]
    refine ⟨named, index, bound, rfl, ?_⟩
    intro earlier isEarlier
    simpa using before earlier isEarlier
  · rw [returnType, accessed]
    rfl

/-- A record has the accessor of a component unless a method without parameters is
written under its name. -/
theorem implicitAccessor?_of_component (isRecord : (env.tree.decl id).kind = .recordType)
    (isComponent : env.hasComponent id name = true)
    (unwritten : ∀ written ∈ (env.tree.decl id).methods,
      written.name = name → written.params ≠ []) :
    ∃ index, env.implicitAccessor? ⟨name, [], false⟩ id = some ⟨id, .accessor index⟩ ∧
      (env.tree.decl id).components.findIdx? (fun component => component.name == name) =
        some index := by
  have noMethod : (env.tree.decl id).methods.any
      (fun method => method.name == name && method.params.isEmpty) = false := by
    rw [List.any_eq_false]
    intro written isWritten fits
    rw [Bool.and_eq_true, beq_iff_eq, List.isEmpty_iff] at fits
    exact unwritten written isWritten fits.1 fits.2
  cases isFirst : (env.tree.decl id).components.findIdx?
      (fun component => component.name == name) with
  | none =>
      rw [hasComponent, List.any_eq_true] at isComponent
      rcases isComponent with ⟨component, listed, named⟩
      rw [List.findIdx?_eq_none_iff] at isFirst
      rw [isFirst component listed] at named
      cases named
  | some index =>
      refine ⟨index, ?_, rfl⟩
      simp [implicitAccessor?, isRecord, DeclTree.accessorNamed?, noMethod, isFirst]

/-- A record answers a call of the name of one of its components itself: with the
first method without parameters that is written under the name, or else with the
accessor of the first component of the name. -/
theorem exists_component_method (isRecord : (env.tree.decl id).kind = .recordType)
    (isComponent : env.hasComponent id name = true) :
    ∃ method, (env.fitting ⟨name, [], false⟩ id).head? = some method ∧ method.owner = id ∧
      (method.isAccessor = true ↔
        ∀ written ∈ (env.tree.decl id).methods, written.name = name → written.params ≠ []) ∧
      (method.isAccessor = true → ∃ component,
        (env.tree.decl id).components.find? (fun one => one.name == name) = some component ∧
        env.returnType method = env.convert id component.type) := by
  cases listed : (env.tree.decl id).methodsWhere (Call.fits ⟨name, [], false⟩) with
  | cons overload rest =>
      have isMethod : overload ∈ (env.tree.decl id).methodsWhere (Call.fits ⟨name, [], false⟩) :=
        listed ▸ List.mem_cons_self
      rcases mem_methodsWhere_iff.mp isMethod with ⟨stands, fits⟩
      simp only [Call.fits, Bool.and_eq_true, beq_iff_eq, List.length_nil] at fits
      refine ⟨⟨id, .declared overload.1⟩, ?_, rfl, ?_, ?_⟩
      · rw [fitting, listed]
        rfl
      · constructor
        · intro isAccessor
          cases isAccessor
        · intro none
          exact absurd (List.length_eq_zero_iff.mp fits.1.2)
            (none overload.2 (List.mem_of_getElem? stands) fits.1.1)
      · intro isAccessor
        cases isAccessor
  | nil =>
      have unwritten : ∀ written ∈ (env.tree.decl id).methods,
          written.name = name → written.params ≠ [] := by
        intro written isWritten named noParams
        obtain ⟨index, stands⟩ := List.getElem?_of_mem isWritten
        have fits : Call.fits ⟨name, [], false⟩ written = true := by
          simp [Call.fits, named, noParams]
        have isMethod := mem_methodsWhere_iff.mpr ⟨stands, fits⟩
        rw [listed] at isMethod
        cases isMethod
      obtain ⟨index, found, isFirst⟩ :=
        implicitAccessor?_of_component isRecord isComponent unwritten
      refine ⟨⟨id, .accessor index⟩, ?_, rfl, ?_, fun _ => returnType_accessor isFirst⟩
      · rw [fitting, listed, found]
        rfl
      · exact ⟨fun _ => unwritten, fun _ => rfl⟩

/-! ## Records -/

/-- The fields of a record stand for its components and for the fields of its body. -/
theorem fieldMembers_of_record (isRecord : (env.tree.decl id).kind = .recordType) :
    env.tree.fieldMembers id = (env.tree.decl id).components.map Component.member ++
      (env.tree.decl id).fields.map (FieldDecl.member false) := by
  simp [DeclTree.fieldMembers, isRecord]

/-- The first field of a record with the name of a component stands for the first
such component. -/
theorem find?_fieldMembers_of_component (isRecord : (env.tree.decl id).kind = .recordType)
    {component : Component}
    (first : (env.tree.decl id).components.find? (fun one => one.name == name) =
      some component) :
    (env.tree.fieldMembers id).find? (fun one => one.name == name) = some component.member := by
  have components : ((env.tree.decl id).components.map Component.member).find?
      (fun one => one.name == name) = some component.member := by
    rw [List.find?_map]
    exact congrArg (Option.map Component.member) first
  rw [fieldMembers_of_record isRecord, List.find?_append, components]
  rfl

/-- The fields, accessors and components of a record go together.  It declares a
private derived field for every component, in order, and then the fields of its body.
A call of the name of a component finds a method of the record, the accessor just
when no method without parameters is written under the name; and then the type of
the accessor has the same outcome as that of the field with the name, whatever is
asked before and between.  A call for static methods never finds an accessor. -/
theorem components_agree (constructed : env.Constructed) (inTree : env.InTree)
    (reached : session.Reached env) (inside : id < env.tree.size)
    (isRecord : (env.tree.decl id).kind = .recordType) :
    (env.declaredFields id session).1.map (List.map Field.facts) =
      .ok (((env.tree.decl id).components.map fun component =>
          ⟨component.name, id, .privateAccess, false, false, true⟩) ++
        (env.tree.decl id).fields.map fun field =>
          ⟨field.name, id, field.access, field.isStatic, field.isVolatile, false⟩) ∧
    (∀ name, env.hasComponent id name = true → ∃ method,
      (env.lookupMethod (.body id) ⟨name, [], false⟩ session).1 = .ok (some method) ∧
      method.owner = id ∧
      (method.isAccessor = true ↔
        ∀ written ∈ (env.tree.decl id).methods, written.name = name → written.params ≠ []) ∧
      (method.isAccessor = true → ∃ field,
        (env.fieldOf? (.item id) name session).1 = .ok (some field) ∧
        field.declaring = id ∧ field.isDerived = true ∧
        ∀ later, LeadsTo env (env.fieldOf? (.item id) name session).2 later →
          (env.resolvedType field later).1 = (env.returnType method).outcome)) ∧
    ∀ scope call method, call.staticOnly = true →
      (env.lookupMethod scope call session).1 = .ok (some method) →
        method.isAccessor = false := by
  have sound := (collecting_of_reached constructed reached).1.sound
  constructor
  · rw [facts_declaredFields sound inside, ownEntries_eq constructed inTree inside,
      fieldMembers_of_record isRecord]
    simp [Except.map, Function.comp_def, Entry.facts, Component.member, FieldDecl.member]
  constructor
  · intro name isComponent
    obtain ⟨method, first, ofRecord, isAccessor_iff, accessed⟩ :=
      exists_component_method isRecord isComponent
    refine ⟨method, ?_, ofRecord, isAccessor_iff, ?_⟩
    · rw [lookupMethod_of_noArgs inside rfl first]
      rfl
    · intro isAccessor
      obtain ⟨component, firstComponent, returns⟩ := accessed isAccessor
      obtain ⟨field, isField, declaring, derived, resolves⟩ := exists_fieldOf? constructed inTree
        reached inside (find?_fieldMembers_of_component isRecord firstComponent) rfl
      refine ⟨field, isField, declaring, derived, ?_⟩
      intro later onward
      rw [resolves later onward, returns]
  · intro scope call method staticOnly found
    exact ((finds_lookupMethod scope call).of_eq found method rfl).isAccessor_eq_false staticOnly

/-- A record with two components of one name, a component of a type that does not
exist, a written accessor and a static method. -/
def sharedComponents : Environment :=
  selfContained (DeclTree.libraryWith "demo"
    [{ TypeDecl.empty .recordType "Span" with
        components := [⟨"bound", .primitive .int⟩, ⟨"bound", .ofDotted "String"⟩,
          ⟨"lost", .ofDotted "Gone"⟩, ⟨"size", .primitive .int⟩]
        fields := [⟨"ORIGIN", .primitive .int, .packageAccess, true, false⟩]
        methods := [⟨"size", [], [], .primitive .int, .publicAccess, false⟩,
          ⟨"origin", [], [], .ofDotted "Span", .publicAccess, true⟩] }])

/-- The session in which the fields of the record have been asked for. -/
def spanAsked : Session :=
  ((Question.allFields (.item 10)).ask sharedComponents .start).2

/-- The accessor of the lost component and the field resolve to the same failure, and
the written accessor is found instead of the implicit one. -/
theorem components_agree_sharedComponents :
    sharedComponents.Constructed ∧ sharedComponents.InTree ∧
    spanAsked.Reached sharedComponents ∧ 10 < sharedComponents.tree.size ∧
    (sharedComponents.tree.decl 10).kind = .recordType ∧
    (sharedComponents.declaredFields 10 spanAsked).1.map (List.map Field.facts) =
      .ok [⟨"bound", 10, .privateAccess, false, false, true⟩,
        ⟨"bound", 10, .privateAccess, false, false, true⟩,
        ⟨"lost", 10, .privateAccess, false, false, true⟩,
        ⟨"size", 10, .privateAccess, false, false, true⟩,
        ⟨"ORIGIN", 10, .packageAccess, true, false, false⟩] ∧
    (∃ field, (sharedComponents.fieldOf? (.item 10) "lost" spanAsked).1 = .ok (some field) ∧
      (sharedComponents.resolvedType field
        (sharedComponents.fieldOf? (.item 10) "lost" spanAsked).2).1 =
          .error (.unresolvedSymbol "Gone")) ∧
    (∃ method, (sharedComponents.lookupMethod (.body 10) ⟨"size", [], false⟩ spanAsked).1 =
      .ok (some method) ∧ method.isAccessor = false) ∧
    ∃ method, (sharedComponents.lookupMethod (.body 10) ⟨"origin", [], true⟩ spanAsked).1 =
      .ok (some method) ∧ method.isAccessor = false := by
  have constructed : sharedComponents.Constructed := constructed_libraryWith _ _
  have inTree : sharedComponents.InTree := inTree_selfContained _
  have inside : 10 < sharedComponents.tree.size := by decide +kernel
  have reached : spanAsked.Reached sharedComponents := .asked .start (.allFields (.item 10)) inside
  have isRecord : (sharedComponents.tree.decl 10).kind = .recordType := by decide +kernel
  have agrees := components_agree constructed inTree reached inside isRecord
  have isStatic : (sharedComponents.lookupMethod (.body 10) ⟨"origin", [], true⟩ spanAsked).1 =
      .ok (some ⟨10, .declared 1⟩) := by decide +kernel
  refine ⟨constructed, inTree, reached, inside, isRecord, agrees.1, ?_, ?_,
    _, isStatic, agrees.2.2 _ _ _ rfl isStatic⟩
  · obtain ⟨method, found, _, isAccessor_iff, accessed⟩ :=
      agrees.2.1 "lost" (by decide +kernel)
    obtain ⟨field, isField, _, _, resolves⟩ :=
      accessed (isAccessor_iff.mpr (by decide +kernel))
    refine ⟨field, isField, (resolves _ .refl).trans ?_⟩
    have isSearched : (sharedComponents.lookupMethod (.body 10) ⟨"lost", [], false⟩ spanAsked).1 =
        .ok (some ⟨10, .accessor 2⟩) := by decide +kernel
    cases found.symm.trans isSearched
    rfl
  · obtain ⟨method, found, _, isAccessor_iff, _⟩ := agrees.2.1 "size" (by decide +kernel)
    refine ⟨method, found, ?_⟩
    cases isAccessor : method.isAccessor with
    | false => rfl
    | true => exact absurd (isAccessor_iff.mp isAccessor) (by decide +kernel)

end Environment

end JavaSymbols

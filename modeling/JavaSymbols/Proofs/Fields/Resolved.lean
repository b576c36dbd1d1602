import JavaSymbols.Proofs.Fields.History
import JavaSymbols.Proofs.Resolution.SelfContained
import JavaSymbols.Proofs.Views.Substitution

/-!
# Resolved types of fields

Asking for the fields of an item and then for their resolved types gives, for each
entry, what forcing its type under some schedule gives.  When all schedules that
can come about lead to the same resolved type, the answer does not depend on the
questions asked before.  That is so when the supertypes above the item convert.
-/

namespace JavaSymbols.Environment

open Session

variable {env : Environment} {session : Session}

/-! ## Supertypes that convert -/

/-- Nothing is seen by looking through a type. -/
def Unseen (env : Environment) (type : Ty) : Prop :=
  ∀ look, env.lookThrough look type = type

mutual

theorem unseen_of_isEager : (type : Ty) → type.isEager = true → env.Unseen type
  | .reference item name args, eager => fun look =>
      congrArg (Ty.reference item name) (lookThroughAll_of_allEager args eager look)
  | .array component, eager => fun look =>
      congrArg Ty.array (unseen_of_isEager component eager look)
  | .upperBounded bound, eager => fun look =>
      congrArg Ty.upperBounded (unseen_of_isEager bound eager look)
  | .lowerBounded bound, eager => fun look =>
      congrArg Ty.lowerBounded (unseen_of_isEager bound eager look)
  | .deferred .., eager => by simp [Ty.isEager] at eager
  | .primitive _, _ => fun _ => rfl
  | .void, _ => fun _ => rfl
  | .null, _ => fun _ => rfl
  | .typeVar _, _ => fun _ => rfl
  | .wildcard, _ => fun _ => rfl

theorem lookThroughAll_of_allEager : (types : List Ty) → Ty.allEager types = true →
    ∀ look, env.lookThroughAll look types = types
  | [], _, _ => rfl
  | type :: rest, eager, look => by
      obtain ⟨head, tail⟩ : type.isEager = true ∧ Ty.allEager rest = true := by
        simpa [Ty.allEager] using eager
      rw [lookThroughAll, unseen_of_isEager type head look,
        lookThroughAll_of_allEager rest tail look]

end

section

variable {bind : TypeVar → Option Ty}

mutual

/-- Nothing is seen after a substitution of types in which nothing is seen. -/
theorem Unseen.substitute (bound : ∀ var value, bind var = some value → env.Unseen value) :
    (type : Ty) → env.Unseen type → env.Unseen (type.substitute bind)
  | .reference item name args, unseen => fun look =>
      congrArg (Ty.reference item name) (lookThroughAll_substituteAll bound args
        (fun other => (Ty.reference.inj (unseen other)).2.2) look)
  | .array component, unseen => fun look =>
      congrArg Ty.array (Unseen.substitute bound component
        (fun other => Ty.array.inj (unseen other)) look)
  | .upperBounded component, unseen => fun look =>
      congrArg Ty.upperBounded (Unseen.substitute bound component
        (fun other => Ty.upperBounded.inj (unseen other)) look)
  | .lowerBounded component, unseen => fun look =>
      congrArg Ty.lowerBounded (Unseen.substitute bound component
        (fun other => Ty.lowerBounded.inj (unseen other)) look)
  | .typeVar var, unseen => by
      rw [Ty.substitute]
      cases given : bind var with
      | none => exact unseen
      | some value => exact bound var value given
  | .deferred .., unseen => unseen
  | .primitive _, unseen => unseen
  | .void, unseen => unseen
  | .null, unseen => unseen
  | .wildcard, unseen => unseen

theorem lookThroughAll_substituteAll
    (bound : ∀ var value, bind var = some value → env.Unseen value) :
    (types : List Ty) → (∀ look, env.lookThroughAll look types = types) →
      ∀ look, env.lookThroughAll look (Ty.substituteAll bind types) = Ty.substituteAll bind types
  | [], _, _ => rfl
  | type :: rest, unseen, look => by
      have head : env.Unseen type := fun other => (List.cons.inj (unseen other)).1
      have tail := fun other => (List.cons.inj (unseen other)).2
      rw [Ty.substituteAll, lookThroughAll, Unseen.substitute bound type head look,
        lookThroughAll_substituteAll bound rest tail look]

end

end

/-- Nothing is seen by looking through the type of a member where it is
declared: either it is converted, or it does not convert. -/
theorem unseen_memberTy (wellFormed : env.tree.WellFormed) {id : Nat} (inside : id < env.tree.size)
    (member : FieldMember) : env.Unseen (env.memberTy id member) := by
  unfold memberTy
  cases member.type with
  | none => exact unseen_of_isEager (env.rawReference id).toTy rfl
  | some source =>
      cases converts : (env.convert id source).outcome with
      | ok type =>
          simp only [converts]
          exact unseen_of_isEager type (isEager_of_convert wellFormed inside converts)
      | error fault =>
          intro look
          simp [lookThrough, looked, converts]

/-- What is seen through a supertype that converts does not depend on what is
looked through. -/
theorem seenBelow_of_unseen {view : Reference} {type : Ty} (unseen : env.Unseen type)
    (look other : Look) : env.seenBelow look view type = env.seenBelow other view type := by
  rw [seenBelow, seenBelow, unseen look, unseen other]

theorem unseen_seenBelow (wellFormed : env.tree.WellFormed) {link : ItemId × Supertype}
    (inside : link.1 < env.tree.size) (converts : ¬ env.Open link) {type : Ty}
    (unseen : env.Unseen type) (look : Look) :
    env.Unseen (env.seenBelow look (env.standing link) type) := by
  obtain ⟨values, given⟩ : ∃ values, env.convertArgs link.1 link.2 = .ok values := by
    cases given : env.convertArgs link.1 link.2 with
    | error fault => exact absurd ⟨fault, given⟩ converts
    | ok values => exact ⟨values, rfl⟩
  have eager := allEager_of_convertArgs wellFormed inside given
  rw [Ty.allEager_eq_all, List.all_eq_true] at eager
  unfold seenBelow
  split
  · exact unseen
  · rw [unseen look]
    apply Unseen.substitute _ type unseen
    intro var value bound
    have isArg := Reference.mem_args_of_binding bound
    simp only [standing, given] at isArg
    exact unseen_of_isEager value (eager value isArg)

/-- Along supertypes that convert, nothing depends on what is looked through. -/
theorem unseen_scheduled (constructed : env.Constructed) {target id : Nat}
    {chain : List (ItemId × Supertype)} (chained : env.Chained target id chain)
    (inside : id < env.tree.size) (converts : ∀ link ∈ chain, ¬ env.Open link)
    (member : FieldMember) (schedule other : Schedule) :
    env.Unseen (env.scheduled schedule chain (env.memberTy target member)) ∧
      env.scheduled schedule chain (env.memberTy target member) =
        env.scheduled other chain (env.memberTy target member) := by
  induction chained with
  | here => exact ⟨unseen_memberTy constructed.wellFormed inside member, rfl⟩
  | @step id supertype found rest given listed _ _ ih =>
      have above : supertype.item < env.tree.size :=
        (firm_supertypesOf constructed inside).good found given supertype listed
      obtain ⟨unseen, same⟩ :=
        ih above fun link isLink => converts link (List.mem_cons_of_mem _ isLink)
      have here := converts (id, supertype) List.mem_cons_self
      refine ⟨unseen_seenBelow constructed.wellFormed inside here unseen _, ?_⟩
      calc env.seenBelow (schedule id) (env.standing (id, supertype))
            (env.scheduled schedule rest (env.memberTy _ member))
          = env.seenBelow (other id) (env.standing (id, supertype))
              (env.scheduled schedule rest (env.memberTy _ member)) :=
            seenBelow_of_unseen unseen _ _
        _ = env.seenBelow (other id) (env.standing (id, supertype))
              (env.scheduled other rest (env.memberTy _ member)) := by rw [same]

/-- An entry is steady when the supertypes above the item that has it convert,
even if that item's own supertype does not. -/
theorem steady_of_converting (constructed : env.Constructed) {id : Nat}
    (inside : id < env.tree.size) {entry : Entry}
    (chained : env.Chained entry.declaring id entry.chain)
    (converts : ∀ link ∈ entry.chain.tail, ¬ env.Open link) : env.Steady entry := by
  intro first second _ _
  refine congrArg env.forced ?_
  unfold scheduledType
  generalize entry.chain = chain at chained converts
  cases chained with
  | here => rfl
  | @step _ supertype found rest given listed _ onward =>
      have above : supertype.item < env.tree.size :=
        (firm_supertypesOf constructed inside).good found given supertype listed
      obtain ⟨unseen, same⟩ := unseen_scheduled constructed onward above converts entry.member
        first second
      calc env.seenBelow (first id) (env.standing (id, supertype))
            (env.scheduled first rest (env.memberTy _ entry.member))
          = env.seenBelow (second id) (env.standing (id, supertype))
              (env.scheduled first rest (env.memberTy _ entry.member)) :=
            seenBelow_of_unseen unseen _ _
        _ = env.seenBelow (second id) (env.standing (id, supertype))
              (env.scheduled second rest (env.memberTy _ entry.member)) := by rw [same]

/-! ## Questions and answers -/

/-- A field by name, with the outcome of resolving its type. -/
def resolvedField (env : Environment) (field : Field) : Query (String × Except Fault Ty) := do
  let type ← (env.resolvedType field).attempt
  pure (field.name, type)

/-- The fields of an item by name, each with the outcome of resolving its type. -/
def resolvedFields (env : Environment) (id : ItemId) :
    Query (List (String × Except Fault Ty)) := do
  let fields ← env.allFields id
  fields.mapM env.resolvedField

/-- Resolving the types of fields, one after another. -/
theorem runs_resolvedFields (wellFormed : env.tree.WellFormed) {fields : List Field} :
    ∀ {session : Session}, session.Sound env → (∀ field ∈ fields, field.type.Fits session.cells) →
      Query.Runs (Sound env) Defers session (fields.mapM env.resolvedField) fun _ outcome =>
        outcome = .ok (fields.map fun field => (field.name, env.forced field.type)) := by
  induction fields with
  | nil =>
      intro session sound _
      exact Query.runs_pure sound rfl
  | cons field rest ih =>
      intro session sound fit
      rw [List.mapM_cons]
      have here : Query.Runs (Sound env) Defers session (env.resolvedField field) fun _ outcome =>
          outcome = .ok (field.name, env.forced field.type) := by
        apply (runs_force wellFormed sound field.type (fit field List.mem_cons_self)).attempt.bind
        · rintro after cause _ ⟨_, same, _⟩
          cases same
        · rintro after outcome soundAfter _ ⟨inner, same, forcing, _⟩
          cases same
          rw [forcing]
          exact Query.runs_pure soundAfter rfl
      apply here.bind
      · intro after cause _ failed
        cases failed
      · intro after value soundAfter defers given
        cases given
        have fitRest : ∀ other ∈ rest, other.type.Fits after.cells := by
          intro other member
          exact Ty.Fits.mono defers.cells _ (fit other (List.mem_cons_of_mem field member))
        apply (ih soundAfter fitRest).bind
        · intro last cause _ failed
          cases failed
        · intro last values soundLast _ given
          cases given
          exact Query.runs_pure soundLast rfl

/-- The answer to a question for fields: each shows an entry, with a type that has
a schedule. -/
theorem accounted_allFields (constructed : env.Constructed) (reached : session.Reached env)
    {id : Nat} (inside : id < env.tree.size) :
    Agree (List.Forall₂ fun entry field => field.facts = entry.facts ∧
      ∃ schedule choice,
        env.Accounted (env.allFields id session).2 schedule choice entry field.type)
      (env.entriesOf id) (env.allFields id session).1 := by
  obtain ⟨collecting, idle⟩ := collecting_of_reached constructed reached
  have runs := runs_allFields constructed collecting.restart idle inside (fun _ => True) trivial
    fun _ _ _ _ => trivial
  apply runs.good.1.refine
  intro entries fields given _ shown
  apply List.forall₂_iff_get.mpr
  refine ⟨shown.length_eq, ?_⟩
  intro index bound boundFields
  have shows' := List.Forall₂.get shown bound boundFields
  have chained := (chained_of_entriesAlong given (List.get_mem entries ⟨index, bound⟩)).1
  obtain ⟨schedule, choice, accounted, _⟩ := exists_accounted constructed runs.follows
    collecting.sound runs.invariant.sound
    (fun _ reaches => collecting.restart.unknown_of_cyclic reaches)
    (accounted_of_reached constructed reached) shows'.type (.refl _) chained inside
  exact ⟨shows'.facts, schedule, choice, accounted⟩

/-- Looking through everything that converts is among the schedules that can come
about. -/
theorem admissible_everything (chain : List (ItemId × Supertype)) :
    env.Admissible (fun _ _ _ => true) chain := by
  induction chain with
  | nil => trivial
  | cons lower rest ih =>
      cases rest with
      | nil => trivial
      | cons upper rest =>
          exact ⟨⟨fun _ _ _ _ _ => rfl, fun _ _ _ => rfl, fun _ _ _ _ _ _ => rfl⟩, ih⟩

/-- The name of an entry's field, with the outcome of resolving its type under a
schedule. -/
def resolvedUnder (env : Environment) (schedule : Schedule) (entry : Entry) :
    String × Except Fault Ty :=
  (entry.member.name, env.forced (env.scheduledType schedule entry))

/-- What is answered for the fields of an item and their resolved types. -/
theorem resolvedFields_eq (constructed : env.Constructed) (reached : session.Reached env)
    {id : Nat} (inside : id < env.tree.size) :
    (env.resolvedFields id session).1 = (env.allFields id session).1.map
      (List.map fun field => (field.name, env.forced field.type)) := by
  obtain ⟨collecting, idle⟩ := collecting_of_reached constructed reached
  have runs := runs_allFields constructed collecting idle inside (fun _ => True) trivial
    fun _ _ _ _ => trivial
  have sound := runs.invariant.sound
  have agree := accounted_allFields constructed reached inside
  unfold resolvedFields
  rw [Query.bind_apply]
  rcases ran : env.allFields id session with ⟨fault | fields, after⟩
  · rfl
  · rw [ran] at sound agree
    obtain ⟨entries, _, shown⟩ := agree.of_ok
    have fit : ∀ field ∈ fields, field.type.Fits after.cells := by
      intro field member
      obtain ⟨index, bound, rfl⟩ := List.getElem_of_mem member
      have boundEntries : index < entries.length := shown.length_eq ▸ bound
      obtain ⟨_, _, _, accounted⟩ := List.Forall₂.get shown boundEntries bound
      exact accounted.fits
    exact (runs_resolvedFields constructed.wellFormed sound fit).good

/-- When all schedules of every entry lead to the same resolved type, the answer
is the same in every session that questions lead to. -/
theorem resolvedFields_of_steady (constructed : env.Constructed) (reached : session.Reached env)
    {id : Nat} (inside : id < env.tree.size)
    (steady : ∀ entries, env.entriesOf id = .ok entries → ∀ entry ∈ entries, env.Steady entry) :
    (env.resolvedFields id session).1 =
      (env.entriesOf id).map (List.map (env.resolvedUnder fun _ _ _ => true)) := by
  rw [resolvedFields_eq constructed reached inside]
  have agree := accounted_allFields constructed reached inside
  generalize (env.allFields id session).1 = outcome at agree
  generalize (env.allFields id session).2 = after at agree
  cases given : env.entriesOf id with
  | error fault =>
      rw [given] at agree
      cases agree
      rfl
  | ok entries =>
      rw [given] at agree
      cases agree with
      | value shown =>
          have each : ∀ entry ∈ entries, env.Steady entry := steady entries given
          clear given steady
          refine congrArg Except.ok ?_
          induction shown with
          | nil => rfl
          | @cons entry field entries fields head _ ih =>
              obtain ⟨facts, schedule, choice, accounted⟩ := head
              have sameName : field.name = entry.member.name := congrArg FieldFacts.name facts
              have sameType := each entry List.mem_cons_self schedule (fun _ _ _ => true)
                accounted.admissible (admissible_everything entry.chain)
              rw [List.map_cons, List.map_cons, ih fun other member =>
                each other (List.mem_cons_of_mem entry member), sameName, accounted.forced_eq,
                sameType]
              rfl

/-! ## Type arguments that do not resolve -/

/-- Three classes in a chain: the first has two fields of the types of its type
parameters, and the second extends it with the given type arguments. -/
def threeClasses (args : List TypeExpr) : DeclTree :=
  .libraryWith "demo"
    [{ TypeDecl.empty .classType "A" with
        typeParams := [⟨"X", []⟩, ⟨"Y", []⟩]
        fields := [⟨"first", .named (.simple "X" none), .packageAccess, false, false⟩,
          ⟨"second", .named (.simple "Y" none), .packageAccess, false, false⟩] },
      { TypeDecl.empty .classType "B" with
        typeParams := [⟨"P", []⟩]
        extended := [.simple "A" (some args)] },
      { TypeDecl.empty .classType "C" with
        extended := [.simple "B" (some [.named (.simple "String" none)])] }]

/-- The type arguments of the second class, the one that does not resolve last. -/
def knownFirst : List TypeExpr :=
  [.named (.simple "P" none), .named (.simple "Nope" none)]

/-- The type arguments of the second class, the one that does not resolve first. -/
def unknownFirst : List TypeExpr :=
  [.named (.simple "Nope" none), .named (.simple "P" none)]

/-- The chain of supertypes from the last of the three classes to the first. -/
def chainToFirst (args : List TypeExpr) : List (ItemId × Supertype) :=
  [(12, ⟨11, "demo.B", [.written (.named (.simple "String" none))]⟩),
    (11, ⟨10, "demo.A", args.map .written⟩)]

/-- A field of the first class, typed by one of its type parameters, as the last
class inherits it. -/
def inheritedField (name param : String) (args : List TypeExpr) : Entry where
  declaring := 10
  member := ⟨name, some (.named (.simple param none)), .packageAccess, false, false, false⟩
  chain := chainToFirst args

theorem entriesOf_threeClasses :
    (selfContained (threeClasses knownFirst)).entriesOf 12 = .ok
      [inheritedField "first" "X" knownFirst, inheritedField "second" "Y" knownFirst] := by
  have inside : ∀ id : Nat, id ≤ 12 → id < (selfContained (threeClasses knownFirst)).tree.size := by
    decide +kernel
  have objectOwn : (selfContained (threeClasses knownFirst)).ownEntries 0 = .ok [] := by
    decide +kernel
  have objectAbove : ((selfContained (threeClasses knownFirst)).supertypesOf 0 true).outcome =
      .ok [] := by decide +kernel
  have firstOwn : (selfContained (threeClasses knownFirst)).ownEntries 10 =
      .ok [{ inheritedField "first" "X" [] with chain := [] },
        { inheritedField "second" "Y" [] with chain := [] }] := by
    decide +kernel
  have firstAbove : ((selfContained (threeClasses knownFirst)).supertypesOf 10 true).outcome =
      .ok [⟨0, "java.lang.Object", []⟩] := by decide +kernel
  have middleOwn : (selfContained (threeClasses knownFirst)).ownEntries 11 = .ok [] := by
    decide +kernel
  have middleAbove : ((selfContained (threeClasses knownFirst)).supertypesOf 11 true).outcome =
      .ok [⟨10, "demo.A", knownFirst.map .written⟩] := by decide +kernel
  have lastOwn : (selfContained (threeClasses knownFirst)).ownEntries 12 = .ok [] := by
    decide +kernel
  have lastAbove : ((selfContained (threeClasses knownFirst)).supertypesOf 12 true).outcome =
      .ok [⟨11, "demo.B", [.written (.named (.simple "String" none))]⟩] := by decide +kernel
  rw [entriesOf, entriesAlong_of_found (inside 12 (by decide)) (by decide) lastOwn lastAbove,
    List.mapM_cons, entriesBelow,
    entriesAlong_of_found (inside 11 (by decide)) (by decide) middleOwn middleAbove,
    List.mapM_cons, entriesBelow,
    entriesAlong_of_found (inside 10 (by decide)) (by decide) firstOwn firstAbove,
    List.mapM_cons, entriesBelow,
    entriesAlong_of_found (inside 0 (by decide)) (by decide) objectOwn objectAbove]
  rfl

/-- The session in which the fields of the second class have been asked for. -/
def afterSecondClassOf (args : List TypeExpr) : Session :=
  ((Question.allFields (.item 11)).ask (selfContained (threeClasses args)) .start).2

/-- Fields of the first class as the second and the last one see them. -/
theorem scheduledType_knownFirst (schedule : Schedule) :
    (selfContained (threeClasses knownFirst)).scheduledType schedule
        (inheritedField "first" "X" knownFirst) =
      (selfContained (threeClasses knownFirst)).seenBelow (schedule 12)
        ⟨11, "demo.B", [textType]⟩ (.deferred 0 (.named (.simple "P" none)) 11) ∧
    (selfContained (threeClasses knownFirst)).scheduledType schedule
        (inheritedField "second" "Y" knownFirst) =
      (selfContained (threeClasses knownFirst)).seenBelow (schedule 12)
        ⟨11, "demo.B", [textType]⟩ (.deferred 1 (.named (.simple "Nope" none)) 11) := by
  have first : (selfContained (threeClasses knownFirst)).memberTy 10
      (inheritedField "first" "X" knownFirst).member = .typeVar ⟨.type 10, 0, "X"⟩ := rfl
  have second : (selfContained (threeClasses knownFirst)).memberTy 10
      (inheritedField "second" "Y" knownFirst).member = .typeVar ⟨.type 10, 1, "Y"⟩ := rfl
  have upper : (selfContained (threeClasses knownFirst)).standing
      (11, ⟨10, "demo.A", knownFirst.map .written⟩) =
        ⟨10, "demo.A", [.deferred 0 (.named (.simple "P" none)) 11,
          .deferred 1 (.named (.simple "Nope" none)) 11]⟩ := rfl
  have lower : (selfContained (threeClasses knownFirst)).standing
      (12, ⟨11, "demo.B", [.written (.named (.simple "String" none))]⟩) =
        ⟨11, "demo.B", [textType]⟩ := rfl
  simp only [inheritedField] at first second
  constructor
  · simp only [scheduledType, scheduled, inheritedField, chainToFirst, List.foldr, first, upper,
      lower]
    rfl
  · simp only [scheduledType, scheduled, inheritedField, chainToFirst, List.foldr, second, upper,
      lower]
    rfl

/-- An argument that resolves has been looked through by the time that one further
on is found not to resolve, so both answers are settled. -/
theorem resolvedFields_of_knownFirst :
    ((selfContained (threeClasses knownFirst)).resolvedFields 12
      (afterSecondClassOf knownFirst)).1 =
        .ok [("first", .ok textType), ("second", .error (.unresolvedSymbol "Nope"))] := by
  have constructed : (selfContained (threeClasses knownFirst)).Constructed :=
    constructed_libraryWith _ _
  have inside : ∀ id : Nat, id ≤ 12 → id < (selfContained (threeClasses knownFirst)).tree.size := by
    decide +kernel
  have asked : 11 < (selfContained (threeClasses knownFirst)).tree.size := inside 11 (by decide)
  have reached :
      (afterSecondClassOf knownFirst).Reached (selfContained (threeClasses knownFirst)) :=
    .asked .start (.allFields (.item 11)) asked
  have looks : ∀ schedule : Schedule,
      (selfContained (threeClasses knownFirst)).Admissible schedule (chainToFirst knownFirst) →
        schedule 12 11 0 = true := by
    intro schedule admissible
    exact admissible.1.ahead ⟨_, rfl⟩ 0 ⟨_, rfl⟩
  have steady : ∀ entry ∈
      [inheritedField "first" "X" knownFirst, inheritedField "second" "Y" knownFirst],
      (selfContained (threeClasses knownFirst)).Steady entry := by
    intro entry listed first second admissible other
    simp only [List.mem_cons, List.not_mem_nil, or_false] at listed
    rcases listed with rfl | rfl
    · rw [(scheduledType_knownFirst first).1, (scheduledType_knownFirst second).1, seenBelow,
        seenBelow, lookThrough, lookThrough, looked, looked, looks first admissible,
        looks second other]
    · rw [(scheduledType_knownFirst first).2, (scheduledType_knownFirst second).2, seenBelow,
        seenBelow, lookThrough, lookThrough, looked, looked]
      cases first 12 11 1 <;> cases second 12 11 1 <;> rfl
  rw [resolvedFields_of_steady constructed reached (inside 12 (by decide)) (by
    intro entries given
    cases entriesOf_threeClasses.symm.trans given
    exact steady), entriesOf_threeClasses]
  rfl

/-- The session in which the fields of the second class have been asked for, and
then the type of the one that is of its type parameter. -/
def afterSecondField : Session :=
  ((Question.force (.deferred 1 (.named (.simple "P" none)) 11)).ask
    (selfContained (threeClasses unknownFirst)) (afterSecondClassOf unknownFirst)).2

/-- The fields with resolved types, each compared with a type. -/
def areOf (type : Ty) (fields : List (String × Except Fault Ty)) :
    List (String × Except Fault Bool) :=
  fields.map fun field => (field.1, field.2.map type.same)

/-- An argument after one that does not resolve is looked through only if it was
asked for before.  The type of a field then depends on what was asked. -/
theorem resolvedFields_of_unknownFirst :
    (selfContained (threeClasses unknownFirst)).Constructed ∧
    (selfContained (threeClasses unknownFirst)).InTree ∧
    12 < (selfContained (threeClasses unknownFirst)).tree.size ∧
    Session.start.Reached (selfContained (threeClasses unknownFirst)) ∧
    afterSecondField.Reached (selfContained (threeClasses unknownFirst)) ∧
    ((selfContained (threeClasses unknownFirst)).resolvedFields 12 .start).1.map
      (areOf (.typeVar ⟨.type 11, 0, "P"⟩)) =
        .ok [("first", .error (.unresolvedSymbol "Nope")), ("second", .ok true)] ∧
    ((selfContained (threeClasses unknownFirst)).resolvedFields 12 afterSecondField).1.map
      (areOf textType) =
        .ok [("first", .error (.unresolvedSymbol "Nope")), ("second", .ok true)] := by
  have asked : 11 < (selfContained (threeClasses unknownFirst)).tree.size := by decide +kernel
  have held : ((afterSecondClassOf unknownFirst).cells.all[1]?).map
      (fun cell => (cell.source, cell.site)) = some (.named (.simple "P" none), 11) := by
    decide +kernel
  have holds : (afterSecondClassOf unknownFirst).cells.Holds 1 (.named (.simple "P" none)) 11 := by
    obtain ⟨⟨source, site, value⟩, found, same⟩ := Option.map_eq_some_iff.mp held
    cases same
    exact ⟨value, found⟩
  have reached : (afterSecondClassOf unknownFirst).Reached
      (selfContained (threeClasses unknownFirst)) :=
    .asked .start (.allFields (.item 11)) asked
  refine ⟨constructed_libraryWith _ _, inTree_selfContained _, ?_, .start,
    .asked reached (.force (.deferred 1 (.named (.simple "P" none)) 11)) holds, ?_, ?_⟩
  · decide +kernel
  · decide +kernel
  · decide +kernel

end JavaSymbols.Environment

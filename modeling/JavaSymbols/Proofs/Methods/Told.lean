import JavaSymbols.Methods
import JavaSymbols.Proofs.Search.Sessions

/-!
# Methods and constructors that are told

A tree tells of the methods of bodies and, on records alone, of accessors; it
tells of the constructors of everything but records.  A call can mean the methods
of bodies and the accessor that stands for its name.  Whatever the session is in
which it is asked, a query that answers with a method answers with one that the call
can mean, and so with one that the tree tells of.
-/

namespace JavaSymbols

namespace DeclTree

variable (tree : DeclTree)

/-- Only a record has accessors. -/
def TellsMethod (method : Method) : Prop :=
  method.isAccessor = true → (tree.decl method.owner).kind = .recordType

/-- The constructors of records are not told. -/
def TellsConstructor (constructor : Constructor) : Prop :=
  (tree.decl constructor.owner).kind ≠ .recordType

variable {tree}

theorem tellsMethod_of_mem_declaredMethodsOf {decl : Decl} {method : Method}
    (listed : method ∈ tree.declaredMethodsOf decl) : tree.TellsMethod method := by
  intro isAccessor
  cases decl with
  | parameter param => cases listed
  | item id =>
      rcases List.mem_map.mp listed with ⟨index, _, rfl⟩
      cases isAccessor

theorem tellsConstructor_of_mem_constructorsOf {decl : Decl} {constructor : Constructor}
    (listed : constructor ∈ tree.constructorsOf decl) : tree.TellsConstructor constructor := by
  cases decl with
  | parameter param => cases listed
  | item id =>
      rw [constructorsOf] at listed
      split at listed
      case isTrue => cases listed
      case isFalse isRecord =>
        rcases List.mem_map.mp listed with ⟨index, _, rfl⟩
        exact isRecord

end DeclTree

/-! ## Queries in any session -/

instance : IsPreorder Session fun _ _ => True where
  refl _ := trivial
  trans _ _ _ _ _ := trivial

namespace Query

variable {α β : Type} {good : α → Prop}

/-- Whatever the session is, a value of the query is as told. -/
abbrev Gives (query : Query α) (good : α → Prop) : Prop :=
  ∀ session, Runs (fun _ => True) (fun _ _ => True) session query (OnValue fun _ => good)

/-- Whatever the session is, what the query finds is as told. -/
abbrev Finds (query : Query (Option α)) (good : α → Prop) : Prop :=
  query.Gives fun found => ∀ value, found = some value → good value

theorem gives_anything (query : Query α) : query.Gives fun _ => True := by
  intro session
  constructor
  · trivial
  · trivial
  · exact anything _ _

theorem Gives.of_eq {query : Query α} (gives : query.Gives good) {session : Session} {value : α}
    (done : (query session).1 = .ok value) : good value :=
  (gives session).good value done

theorem Gives.mono {query : Query α} {fine : α → Prop} (gives : query.Gives good)
    (weaken : ∀ value, good value → fine value) : query.Gives fine := by
  intro session
  apply (gives session).mono
  intro after outcome _ _ holds value done
  exact weaken value (holds value done)

theorem gives_pure {value : α} (holds : good value) : Gives (pure value) good := by
  intro session
  apply runs_pure trivial
  rintro _ ⟨⟩
  exact holds

theorem finds_none : Finds (pure none) good := by
  apply gives_pure
  rintro value ⟨⟩

theorem finds_some {value : α} (holds : good value) : Finds (pure (some value)) good := by
  apply gives_pure
  rintro value ⟨⟩
  exact holds

theorem gives_fail (fault : Fault) : Gives (fail fault) good := by
  intro session
  apply runs_fail trivial
  rintro _ ⟨⟩

theorem Gives.bind {first : Query α} {next : α → Query β} {fine : β → Prop}
    (head : first.Gives good) (tail : ∀ value, good value → (next value).Gives fine) :
    (first >>= next).Gives fine := by
  intro session
  apply (head session).bind_value
  intro after value _ _ holds
  exact tail value holds after

/-- One query after another, when the first does not matter. -/
theorem gives_after {first : Query α} {next : α → Query β} {fine : β → Prop}
    (tail : ∀ value, (next value).Gives fine) : (first >>= next).Gives fine :=
  (gives_anything first).bind fun value _ => tail value

/-- What follows a query matters for the values it gives alone. -/
theorem Gives.bind_congr {first : Query α} {next other : α → Query β} (gives : first.Gives good)
    (same : ∀ value, good value → next value = other value) :
    first >>= next = first >>= other := by
  funext session
  rw [bind_apply, bind_apply]
  rcases ran : first session with ⟨fault | value, after⟩
  · rfl
  · have holds : good value := gives.of_eq (congrArg Prod.fst ran)
    exact congrFun (same value holds) after

/-- Values for each entry of a list. -/
theorem gives_mapM {query : β → Query α} (entries : List β)
    (each : ∀ entry, (query entry).Gives good) :
    (entries.mapM query).Gives fun values => ∀ value ∈ values, good value := by
  intro session
  have runs : Runs (fun _ => True) (fun _ _ => True) session (entries.mapM query)
      (Judged (fun _ => True) fun _ values => ∀ value ∈ values, good value) := by
    apply runs_mapM_judged trivial (fun _ _ _ _ holds => holds)
    intro entry _ after _ _
    exact (each entry after).mono fun _ _ _ _ holds => ⟨fun _ _ => trivial, holds⟩
  exact runs.mono fun _ _ _ _ judged => judged.value

end Query

namespace Environment

open Query

variable {env : Environment} {call : Call}

/-! ## Methods that a call can mean -/

/-- A call can mean a method as far as accessors go: only the one that stands for
its name. -/
def CanMean (env : Environment) (call : Call) (method : Method) : Prop :=
  method.isAccessor = true → env.implicitAccessor? call method.owner = some method

theorem canMean_of_implicitAccessor? {item : ItemId} {method : Method}
    (found : env.implicitAccessor? call item = some method) : env.CanMean call method := by
  intro _
  have owner : method.owner = item := by
    rw [implicitAccessor?] at found
    split at found
    case isFalse => cases found
    case isTrue =>
      rw [DeclTree.accessorNamed?] at found
      split at found
      · cases found
      · rcases Option.map_eq_some_iff.mp found with ⟨component, _, rfl⟩
        rfl
  rw [owner, found]

/-- An implicit accessor is that of a record. -/
theorem CanMean.tells {method : Method} (means : env.CanMean call method) :
    env.tree.TellsMethod method := by
  intro isAccessor
  have found := means isAccessor
  rw [implicitAccessor?] at found
  split at found
  case isFalse => cases found
  case isTrue asked =>
    simp only [Bool.and_eq_true, decide_eq_true_eq] at asked
    exact asked.1.1

/-- A call for static methods means no accessor. -/
theorem CanMean.isAccessor_eq_false {method : Method} (means : env.CanMean call method)
    (staticOnly : call.staticOnly = true) : method.isAccessor = false := by
  cases isAccessor : method.isAccessor with
  | false => rfl
  | true =>
      have found := means isAccessor
      simp [implicitAccessor?, staticOnly] at found

/-! ## Choosing a method -/

theorem finds_applicable? (item : ItemId) (view : Option Reference)
    (overload : Nat × MethodDecl) :
    (env.applicable? call item view overload).Finds fun found =>
      env.CanMean call found.method := by
  apply gives_after
  intro outcome
  cases outcome with
  | error fault =>
      dsimp only
      split
      · exact gives_after fun _ => finds_none
      · exact gives_fail fault
  | ok params =>
      apply gives_after
      intro cells
      apply gives_after
      intro accepted
      apply gives_pure
      intro method found
      split at found
      · cases found
        rintro ⟨⟩
      · cases found

theorem gives_applicables (item : ItemId) (view : Option Reference) :
    (env.applicables call item view).Gives fun all =>
      ∀ method ∈ all, env.CanMean call method.method := by
  rw [applicables]
  apply (gives_mapM _ (finds_applicable? item view)).bind
  intro written each
  apply gives_pure
  intro method member
  rcases List.mem_append.mp member with isWritten | isAccessor
  · rcases List.mem_filterMap.mp isWritten with ⟨found, listed, rfl⟩
    exact each (some method) listed method rfl
  · simp only [Option.mem_toList, Option.map_eq_some_iff] at isAccessor
    rcases isAccessor with ⟨accessor, found, rfl⟩
    exact canMean_of_implicitAccessor? found

theorem finds_firstPassingToAll (all methods : List Applicable) :
    (env.firstPassingToAll all methods).Finds fun method =>
      ∃ among ∈ methods, among.method = method := by
  induction methods with
  | nil => exact finds_none
  | cons first rest ih =>
      rw [firstPassingToAll]
      apply gives_after
      intro passes
      split
      · exact finds_some ⟨first, List.mem_cons_self, rfl⟩
      · apply ih.mono
        intro found among method same
        rcases among method same with ⟨other, member, rfl⟩
        exact ⟨other, List.mem_cons_of_mem first member, rfl⟩

/-- The most specific of several methods is one of them. -/
theorem finds_mostSpecific (all : List Applicable) :
    (env.mostSpecific all).Finds fun method => ∃ among ∈ all, among.method = method := by
  rcases all with _ | ⟨first, _ | ⟨second, rest⟩⟩
  · exact finds_none
  · exact finds_some ⟨first, List.mem_singleton_self first, rfl⟩
  · apply (finds_firstPassingToAll _ _).bind
    intro found among
    apply finds_some
    cases found with
    | none => exact ⟨first, List.mem_cons_self, rfl⟩
    | some method => exact among method rfl

/-! ## Searching for a method -/

theorem finds_visit (call : Call) (ascent : MethodAscent) :
    ((env.methodSearch call).visit ascent).Finds fun found =>
      env.CanMean call found.method := by
  apply (gives_applicables ascent.item ascent.view).bind
  intro all each
  apply (finds_mostSpecific all).bind
  intro found among
  apply gives_pure
  intro result same
  rcases Option.map_eq_some_iff.mp same with ⟨method, isFound, rfl⟩
  rcases among method isFound with ⟨other, member, rfl⟩
  exact each other member

/-- A search for a method finds what the call can mean. -/
theorem steps_methodSearch_canMean (call : Call) :
    Search.Steps (fun _ => True) (env.methodSearch call) (fun _ => True) (fun _ _ => True)
      (fun _ _ => True) (fun _ _ _ => True)
      (fun _ found => env.CanMean call found.method) where
  visit session ascent _ _ :=
    (finds_visit call ascent session).mono fun _ _ _ _ holds => ⟨fun _ _ => trivial, holds⟩
  edges _ _ _ _ := ⟨trivial, trivial, fun _ _ => trivial, fun _ _ _ _ => trivial⟩
  enter _ _ _ _ _ _ := ⟨trivial, trivial, fun _ _ => trivial, fun _ _ _ _ => trivial⟩
  nodeLasts _ _ _ _ _ := trivial
  edgeLasts _ _ _ _ _ _ := trivial

theorem finds_findMethod (call : Call) (item : ItemId) :
    (env.findMethod call item).Finds fun found => env.CanMean call found.method := by
  have searched : ((env.methodSearch call).run env.searchDepth ⟨item, none⟩).Gives fun result =>
      ∀ found, result.2 = some found → env.CanMean call found.method := by
    intro session
    apply (Search.runs_run (steps_methodSearch_canMean call) env.searchDepth trivial trivial).mono
    intro after outcome _ _ judged value done
    exact (judged.value value done).2
  apply searched.bind
  intro result holds
  exact gives_pure holds

/-! ## Methods in scope -/

theorem finds_methodOutward (call : Call) (items : List ItemId) :
    (env.methodOutward call items).Finds (env.CanMean call) := by
  induction items with
  | nil => exact finds_none
  | cons item outer ih =>
      rw [methodOutward]
      apply (finds_findMethod call item).bind
      rintro (_ | found) means
      · exact gives_after fun _ => ih
      · exact finds_some (means found rfl)

/-- A method that is looked up is one that the call can mean. -/
theorem finds_lookupMethod (scope : Scope) (call : Call) :
    (env.lookupMethod scope call).Finds (env.CanMean call) := by
  cases scope with
  | unit id => exact finds_none
  | body item => exact gives_after fun _ => finds_methodOutward call _

theorem gives_usageOf (found : MethodMatch) :
    (env.usageOf found).Gives fun usage => usage.method = found.method := by
  rw [usageOf]
  apply gives_after
  intro params
  apply gives_after
  intro cells
  apply gives_after
  intro returns
  exact gives_pure rfl

theorem finds_usageOutward (call : Call) (items : List ItemId) :
    (env.usageOutward call items).Finds fun usage => env.CanMean call usage.method := by
  induction items with
  | nil => exact finds_none
  | cons item outer ih =>
      rw [usageOutward]
      apply (finds_findMethod call item).bind
      rintro (_ | found) means
      · exact ih
      · apply (gives_usageOf found).bind
        intro usage same
        apply finds_some
        rw [same]
        exact means found rfl

/-- The method of a usage is one that the call can mean. -/
theorem finds_lookupUsage (scope : Scope) (name : String) (args : List Ty) :
    (env.lookupUsage scope name args).Finds fun usage =>
      env.CanMean ⟨name, args, false⟩ usage.method := by
  cases scope with
  | unit id => exact finds_none
  | body item => exact gives_after fun _ => finds_usageOutward _ _

end Environment

end JavaSymbols

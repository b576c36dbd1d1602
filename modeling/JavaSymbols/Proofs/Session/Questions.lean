import JavaSymbols.Proofs.Fields.Chains
import JavaSymbols.Proofs.Fields.Collection
import JavaSymbols.Proofs.Session.Lookups

/-!
# Sessions that questions lead to

A session starts empty and is changed by the questions put to it, whether they
are answered or end with a fault.  Questions deal with declarations of the tree
and with types whose deferred parts the session knows.  In every session that
questions lead to, what is remembered is right and no item is being expanded.
-/

namespace JavaSymbols

open Session

namespace Environment

variable {env : Environment} {session low : Session}

/-! ## Questions about fields -/

theorem expanding_nil (id : Nat) : Expanding env [] id where
  nodup := List.nodup_nil
  leads := by simp

/-- Collecting the fields of an item while nothing is being expanded. -/
theorem runs_allFields (constructed : env.Constructed) (collecting : Collecting env low session)
    (idle : session.expanding = []) {id : Nat} (inside : id < env.tree.size)
    (concerns : ItemId → Prop) (concerned : concerns id)
    (upward : ∀ lower upper, concerns lower → env.Inherits lower upper → concerns upper) :
    Query.Runs (Collecting env low) (Gathers env concerns) session (env.allFields id)
      fun after outcome => Agree (List.Forall₂ (Shows env low after)) (env.entriesOf id) outcome ∧
        ∀ fields, outcome = .ok fields →
          ((after.fields.lookup id).isSome = true ↔ ¬ env.ReachesCycle id) := by
  have enough : env.tree.size + 2 ≤ env.searchDepth + session.expanding.length := by
    rw [idle]
    exact Nat.le_refl _
  have collected := runs_collectFields constructed low upward env.searchDepth session id
    collecting inside (idle ▸ expanding_nil id) concerned enough
  refine collected.mono ?_
  rintro after outcome _ _ ⟨agree, facts⟩
  rw [idle] at agree
  exact ⟨agree, fun fields same => (facts fields same).2⟩

/-- Items of the tree declare the fields. -/
def DeclaredWithin (env : Environment) (fields : List Field) : Prop :=
  ∀ field ∈ fields, field.declaring < env.tree.size

theorem declaredWithin_of_facts {related : Entry → Field → Prop} {entries : List Entry}
    {fields : List Field} (pairs : List.Forall₂ related entries fields)
    (facts : ∀ entry field, related entry field → field.facts = entry.facts)
    (inside : ∀ entry ∈ entries, entry.declaring < env.tree.size) : env.DeclaredWithin fields := by
  intro field member
  obtain ⟨index, isField⟩ := List.mem_iff_getElem?.mp member
  obtain ⟨entry, isEntry, shown⟩ := exists_of_forall₂_getElem? pairs isField
  have same : field.declaring = entry.declaring :=
    congrArg FieldFacts.declaring (facts entry field shown)
  rw [same]
  exact inside entry (List.mem_of_getElem? isEntry)

/-- The fields of an item have a value unless the source of names strays from the
tree. -/
theorem runs_allFields_judged (constructed : env.Constructed)
    (collecting : Collecting env low session) (idle : session.expanding = []) {id : Nat}
    (inside : id < env.tree.size) :
    Query.Runs (Collecting env low) (Gathers env fun _ => True) session (env.allFields id)
      (Query.Judged env.Stray fun _ => env.DeclaredWithin) := by
  have collected := runs_allFields constructed collecting idle inside (fun _ => True) trivial
    fun _ _ _ _ => trivial
  refine collected.mono ?_
  rintro after outcome _ _ ⟨agree, _⟩
  constructor
  · rintro fault rfl
    exact stray_of_entriesAlong constructed inside agree.of_error
  · rintro fields rfl
    obtain ⟨entries, given, pairs⟩ := agree.of_ok
    apply declaredWithin_of_facts pairs fun _ _ shown => shown.facts
    intro entry member
    exact lt_of_leads constructed inside (chained_of_entriesAlong given member).1.leads

theorem runs_allFieldsOf (constructed : env.Constructed) (collecting : Collecting env low session)
    (idle : session.expanding = []) {decl : Decl} (inside : decl.site < env.tree.size) :
    Query.Runs (Collecting env low) (Gathers env fun _ => True) session (env.allFieldsOf decl)
      (Query.Judged env.Stray fun _ => env.DeclaredWithin) := by
  cases decl with
  | item id => exact runs_allFields_judged constructed collecting idle inside
  | parameter param => exact Query.runs_pure collecting (Query.judged_ok nofun)

/-- The first entry of an item with a name is shown by the field that is found. -/
theorem exists_fieldOf?_of_first (constructed : env.Constructed)
    (collecting : Collecting env low session) (idle : session.expanding = []) {id : Nat}
    (inside : id < env.tree.size) {entries : List Entry} (given : env.entriesOf id = .ok entries)
    {name : String} {entry : Entry}
    (first : entries.find? (fun entry => entry.member.name == name) = some entry) :
    ∃ field after, env.fieldOf? (.item id) name session = (.ok (some field), after) ∧
      Shows env low after entry field := by
  have agree := (runs_allFields constructed collecting idle inside (fun _ => True) trivial
    fun _ _ _ _ => trivial).good.1
  rw [given] at agree
  rcases ran : env.allFields id session with ⟨outcome, after⟩
  rw [ran] at agree
  cases agree with
  | @value _ fields shown =>
      have passes : ∀ entry field, Shows env low after entry field →
          (entry.member.name == name) = (field.name == name) := by
        intro entry field shows
        have sameName : field.name = entry.member.name := congrArg FieldFacts.name shows.facts
        rw [sameName]
      obtain ⟨field, isFound, shows⟩ := exists_find?_of_forall₂ passes shown first
      refine ⟨field, after, ?_, shows⟩
      change (env.allFields id >>= fun fields =>
        pure (fields.find? fun one => one.name == name)) session = _
      rw [Query.bind_apply, ran]
      exact congrArg (fun found => (Except.ok found, after)) isFound

theorem runs_fieldOf? (constructed : env.Constructed) (collecting : Collecting env low session)
    (idle : session.expanding = []) {decl : Decl} (inside : decl.site < env.tree.size)
    (name : String) :
    Query.Runs (Collecting env low) (Gathers env fun _ => True) session (env.fieldOf? decl name)
      Query.Anything := by
  unfold fieldOf?
  refine (Query.Runs.anything (runs_allFieldsOf constructed collecting idle inside)).bind_value ?_
  intro after _ collectingAfter _ _
  exact Query.runs_pure collectingAfter (Query.anything _ _)

theorem runs_declaredFieldsOf (wellFormed : env.tree.WellFormed) (sound : session.Sound env)
    {decl : Decl} (inside : decl.site < env.tree.size) :
    Query.Runs (Sound env) Defers session (env.declaredFieldsOf decl)
      (Query.Judged env.Stray fun _ => env.DeclaredWithin) := by
  cases decl with
  | parameter param => exact Query.runs_pure sound (Query.judged_ok nofun)
  | item id =>
      refine (runs_declaredFields sound inside).mono ?_
      intro after outcome _ _ agree
      constructor
      · rintro fault rfl
        exact stray_of_ownEntries wellFormed inside agree.of_error
      · rintro fields rfl
        obtain ⟨own, given, pairs⟩ := agree.of_ok
        apply declaredWithin_of_facts pairs fun _ _ declares => declares.facts
        intro entry member
        rw [(own_of_ownEntries given member).1]
        exact inside

/-- The declaring item of a symbol, if there is one, is an item of the tree. -/
def SymbolWithin (env : Environment) (found : Option Field) : Prop :=
  ∀ field, found = some field → field.declaring < env.tree.size

theorem runs_symbolOutward (constructed : env.Constructed) (name : String) (items : List ItemId) :
    ∀ {session : Session}, Collecting env low session → session.expanding = [] →
      (∀ item ∈ items, item < env.tree.size) →
      Query.Runs (Collecting env low) (Gathers env fun _ => True) session
        (env.symbolOutward name items) (Query.Judged env.Stray fun _ => env.SymbolWithin) := by
  induction items with
  | nil =>
      intro session collecting _ _
      exact Query.runs_pure collecting (Query.judged_ok nofun)
  | cons item outer ih =>
      intro session collecting idle inside
      rw [symbolOutward]
      have itemInside := inside item List.mem_cons_self
      refine (runs_allFields_judged constructed collecting idle itemInside).bind_judged ?_
      intro after fields collectingAfter onward within
      cases found : fields.find? fun field => field.name == name with
      | some field =>
          refine Query.runs_pure collectingAfter (Query.judged_ok ?_)
          rintro other ⟨⟩
          exact within field (List.mem_of_find?_eq_some found)
      | none =>
          exact ih collectingAfter (onward.expanding.trans idle)
            fun other member => inside other (List.mem_cons_of_mem item member)

/-- A symbol is looked up with an answer unless the source of names strays from the
tree, or the scope is no scope of the tree. -/
theorem runs_lookupSymbol (constructed : env.Constructed) (collecting : Collecting env low session)
    (idle : session.expanding = []) (scope : Scope) (name : String) :
    Query.Runs (Collecting env low) (Gathers env fun _ => True) session
      (env.lookupSymbol scope name)
      (Query.Judged (fun fault => env.Stray fault ∨
        ∃ item, scope = .body item ∧ ¬ item < env.tree.size) fun _ => env.SymbolWithin) := by
  cases scope with
  | unit id => exact Query.runs_pure collecting (Query.judged_ok nofun)
  | body item =>
      have known := runs_quietly (fun _ => True) collecting (Query.leavesCells_ofTraced _)
        (Query.runs_lift collecting.sound (env.known item)).follows_of_defers
      refine known.bind ?_ ?_
      · rintro after cause _ ⟨_, _, failed⟩
        exact ⟨fun _ _ => .inr ⟨item, rfl, (outside_of_known failed.symm).2⟩, nofun⟩
      · rintro after _ collectingAfter _ ⟨_, defers, checked⟩
        have outward := runs_symbolOutward constructed name (env.tree.chain item) collectingAfter
          (defers.expanding.trans idle)
          fun link member => constructed.wellFormed.chain_lt (lt_of_known checked.symm) member
        exact outward.mono fun _ _ _ _ judged =>
          ⟨fun fault failed => .inl (judged.fault fault failed), judged.value⟩

end Environment

/-! ## Questions -/

/-- A question that can be put to a session. -/
inductive Question where
  | superclass (decl : Decl)
  | interfaces (decl : Decl)
  | ancestors (decl : Decl) (lenient : Bool)
  | allAncestors (decl : Decl) (lenient : Bool)
  | declaredFields (decl : Decl)
  | allFields (decl : Decl)
  | field (decl : Decl) (name : String)
  | symbol (scope : Scope) (name : String)
  | method (scope : Scope) (call : Environment.Call)
  | usage (scope : Scope) (name : String) (args : List Ty)
  | accepts (decl other : Decl)
  | acceptsType (decl : Decl) (type : Ty)
  | assignable (source target : Ty)
  | force (type : Ty)
  /-- A supertype clause as a reference. -/
  | clause (item : ItemId) (written : ClassExpr)
  /-- A new deferred type. -/
  | postpone (source : TypeExpr) (item : ItemId)
  /-- What depends on the tree alone. -/
  | traced (run : Traced Unit)

namespace Question

/-- Put a question; only its effects matter. -/
def ask (env : Environment) : Question → Query Unit
  | superclass decl => discard (env.superclassOf decl)
  | interfaces decl => discard (env.interfacesOf decl)
  | ancestors decl lenient => discard (env.ancestorsOf decl lenient)
  | allAncestors decl lenient => discard (env.allAncestorsOf decl lenient)
  | declaredFields decl => discard (env.declaredFieldsOf decl)
  | allFields decl => discard (env.allFieldsOf decl)
  | field decl name => discard (env.fieldOf? decl name)
  | symbol scope name => discard (env.lookupSymbol scope name)
  | method scope call => discard (env.lookupMethod scope call)
  | usage scope name args => discard (env.lookupUsage scope name args)
  | accepts decl other => discard (env.declAccepts decl other)
  | acceptsType decl type => discard (env.declAcceptsType decl type)
  | assignable source target => discard (env.isAssignable source target)
  | force type => discard (env.force type)
  | clause item written => discard (env.clauseReference item written)
  | postpone source item => discard (Query.postpone source item)
  | traced run => run

/-- The declarations of a question are those of the tree, and the session knows
the deferred parts of its types. -/
def Allowed (env : Environment) (session : Session) : Question → Prop
  | superclass decl => decl.site < env.tree.size
  | interfaces decl => decl.site < env.tree.size
  | ancestors decl _ => decl.site < env.tree.size
  | allAncestors decl _ => decl.site < env.tree.size
  | declaredFields decl => decl.site < env.tree.size
  | allFields decl => decl.site < env.tree.size
  | field decl _ => decl.site < env.tree.size
  | symbol _ _ => True
  | method _ call => Ty.AllFit session.cells call.args
  | usage _ _ args => Ty.AllFit session.cells args
  | accepts _ other => other.site < env.tree.size
  | acceptsType _ type => type.Fits session.cells
  | assignable source target => source.Fits session.cells ∧ target.Fits session.cells
  | force type => type.Fits session.cells
  | clause item _ => item < env.tree.size
  | postpone _ item => item < env.tree.size
  | traced _ => True

end Question

/-- Forgetting the value of a query keeps what the query does. -/
theorem Query.discard_apply {α : Type} (query : Query α) (session : Session) :
    (Functor.discard query session).2 = (query session).2 := by
  change ((query >>= fun _ => pure ()) session).2 = _
  rw [bind_apply]
  rcases query session with ⟨fault | value, after⟩ <;> rfl

/-- What a question does to a session: either it remembers no fields, or it sets
cells as the collection of fields does. -/
def Session.Asked (env : Environment) (old new : Session) : Prop :=
  old.Follows new ∨ old.Gathers env (fun _ => True) new

theorem Session.Asked.collects {env : Environment} {old new : Session}
    (asked : old.Asked env new) : old.Collects new := by
  rcases asked with follows | gathers
  · exact follows.collects
  · exact gathers.toCollects

/-- The sessions that questions lead to. -/
inductive Session.Reached (env : Environment) : Session → Prop where
  | start : Reached env .start
  | asked {session : Session} (reached : Reached env session) (question : Question)
      (allowed : question.Allowed env session) : Reached env (question.ask env session).2

/-- The query that answers a question leads on too. -/
theorem Session.Reached.answered {env : Environment} {α : Type} {session after : Session}
    (reached : session.Reached env) (question : Question) (allowed : question.Allowed env session)
    {query : Query α} {outcome : Except Fault α} (asks : question.ask env = Functor.discard query)
    (ran : query session = (outcome, after)) : after.Reached env := by
  have asked := reached.asked question allowed
  rwa [asks, Query.discard_apply, ran] at asked

namespace Environment

variable {env : Environment} {session low : Session}

/-- A question about anything but fields. -/
theorem runs_ask_other {α : Type} {query : Query α} (collecting : Collecting env low session)
    (runs : Query.Runs (Sound env) Follows session query Query.Anything) :
    Query.Runs (Collecting env low) (Asked env) session (Functor.discard query)
      Query.Anything := by
  have asked := runs.discard
  exact ⟨collecting.onward asked.invariant asked.follows, .inl asked.follows, asked.good⟩

/-- A question about fields. -/
theorem runs_ask_fields {α : Type} {query : Query α}
    (runs : Query.Runs (Collecting env low) (Gathers env fun _ => True) session query
      Query.Anything) :
    Query.Runs (Collecting env low) (Asked env) session (Functor.discard query)
      Query.Anything := by
  have asked := runs.discard
  exact ⟨asked.invariant, .inr asked.follows, asked.good⟩

/-- A question keeps what is collected right. -/
theorem runs_ask (constructed : env.Constructed) (collecting : Collecting env low session)
    (idle : session.expanding = []) {question : Question}
    (allowed : question.Allowed env session) :
    Query.Runs (Collecting env low) (Asked env) session (question.ask env) Query.Anything := by
  have sound := collecting.sound
  have wellFormed := constructed.wellFormed
  cases question with
  | superclass decl =>
      exact runs_ask_other collecting (runs_superclassOf sound allowed).follows_of_defers
  | interfaces decl =>
      exact runs_ask_other collecting (runs_interfacesOf sound allowed).follows_of_defers
  | ancestors decl lenient =>
      exact runs_ask_other collecting
        (Query.Runs.anything (runs_ancestorsOf sound allowed lenient))
  | allAncestors decl lenient =>
      exact runs_ask_other collecting
        (Query.Runs.anything (runs_allAncestorsOf constructed sound allowed lenient))
  | declaredFields decl =>
      exact runs_ask_other collecting
        (Query.Runs.anything (runs_declaredFieldsOf wellFormed sound allowed)).follows_of_defers
  | allFields decl =>
      exact runs_ask_fields
        (Query.Runs.anything (runs_allFieldsOf constructed collecting idle allowed))
  | field decl name =>
      exact runs_ask_fields (runs_fieldOf? constructed collecting idle allowed name)
  | symbol scope name =>
      exact runs_ask_fields
        (Query.Runs.anything (runs_lookupSymbol constructed collecting idle scope name))
  | method scope call =>
      exact runs_ask_other collecting (runs_lookupMethod constructed sound scope allowed)
  | usage scope name args =>
      exact runs_ask_other collecting (runs_lookupUsage constructed sound scope name allowed)
  | accepts decl other =>
      exact runs_ask_other collecting (runs_declAccepts constructed sound decl allowed)
  | acceptsType decl type =>
      exact runs_ask_other collecting (runs_declAcceptsType constructed sound decl allowed)
  | assignable source target =>
      have answered := runs_isAssignable constructed False.elim sound ⟨allowed.1, False.elim⟩
        ⟨allowed.2, False.elim⟩
      exact runs_ask_other collecting (Query.Runs.anything answered).follows_of_defers
  | force type =>
      exact runs_ask_other collecting
        (Query.Runs.anything (runs_force wellFormed sound type allowed)).follows_of_defers
  | clause item written =>
      exact runs_ask_other collecting
        (Query.Runs.anything (runs_clauseReference sound allowed written)).follows_of_defers
  | postpone source item =>
      exact runs_ask_other collecting
        (Query.runs_postpone sound source allowed fun _ _ _ => Query.anything _ _).follows_of_defers
  | traced run =>
      have asked := (Query.runs_lift sound run).follows_of_defers
      exact ⟨collecting.onward asked.invariant asked.follows, .inl asked.follows,
        Query.anything _ _⟩

/-- In every session that questions lead to, what is remembered is right, and no
item is being expanded. -/
theorem collecting_of_reached (constructed : env.Constructed) (reached : session.Reached env) :
    Collecting env Session.start session ∧ session.expanding = [] := by
  induction reached with
  | start => exact ⟨⟨sound_start env, .refl _, by simp, by simp [Session.start]⟩, rfl⟩
  | asked _ question allowed ih =>
      have runs := runs_ask constructed ih.1 ih.2 allowed
      exact ⟨runs.invariant, runs.follows.collects.expanding.trans ih.2⟩

end Environment

end JavaSymbols

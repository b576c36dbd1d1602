import JavaSymbols.Proofs.Fields.Answers
import JavaSymbols.Proofs.Session.Unswayed

/-!
# Best-effort queries

Best-effort queries pass over names that denote nothing, so they end with no
fault of that kind.  The ids that they use come from the tree or have been
validated: the only fault left is that the source of names answers an id outside
the tree.  It is excluded when the source keeps to the tree.  It is never passed
over either: no value of a query depends on an answer outside the tree.
-/

namespace JavaSymbols

/-! ## Searches that do not give up -/

namespace Search

open Environment

variable {Node Key Edge Answer : Type} {env : Environment}
variable {search : Search Traced Node Key Edge Answer} {node : Node → Prop} {edge : Edge → Prop}

/-- The steps of a search do not give up for want of a name, and lead from nodes
of a kind to nodes of that kind. -/
structure FirmSteps (env : Environment) (search : Search Traced Node Key Edge Answer)
    (node : Node → Prop) (edge : Edge → Prop) : Prop where
  visit : ∀ start, node start → Firm env (fun _ => True) (search.visit start)
  edges : ∀ start, node start → Firm env (fun listed => ∀ one ∈ listed, edge one)
    (search.edges start)
  enter : ∀ start one, node start → edge one →
    Firm env (fun next => ∀ entered, next = some entered → node entered) (search.enter start one)

theorem FirmSteps.firm_follow (steps : FirmSteps env search node edge)
    {explore : List Node → Node → Traced (List Node × Option Answer)}
    (each : ∀ seen start, node start → Firm env (fun _ => True) (explore seen start))
    {start : Node} (here : node start) (edges : List Edge) :
    ∀ seen, (∀ one ∈ edges, edge one) →
      Firm env (fun _ => True) (search.follow explore start seen edges) := by
  induction edges with
  | nil =>
      intro seen _
      exact firm_pure trivial
  | cons one rest ih =>
      intro seen listed
      obtain ⟨first, others⟩ := List.forall_mem_cons.mp listed
      rw [follow]
      apply (steps.enter start one here first).bind
      intro next isNode
      cases next with
      | none => exact ih seen others
      | some next =>
          apply (each seen next (isNode next rfl)).bind
          rintro ⟨after, answer⟩ _
          cases answer with
          | some answer => exact firm_pure trivial
          | none => exact ih after others

variable [DecidableEq Key]

theorem FirmSteps.firm_explore (steps : FirmSteps env search node edge) (depth : Nat) :
    ∀ seen start, node start → Firm env (fun _ => True) (search.explore depth seen start) := by
  induction depth with
  | zero =>
      intro seen start _
      exact firm_pure trivial
  | succ depth ih =>
      intro seen start here
      rw [explore]
      split
      · exact firm_pure trivial
      · apply (steps.visit start here).bind
        intro found _
        cases found with
        | some answer => exact firm_pure trivial
        | none =>
            apply (steps.edges start here).bind
            intro edges listed
            exact steps.firm_follow ih here edges _ listed

end Search

namespace Environment

open Session

variable {env : Environment} {session low : Session}

/-! ## Names and annotations -/

/-- The scopes of a tree: its units, and the bodies of its items. -/
def HasScope (env : Environment) : Scope → Prop
  | .unit id => id < env.tree.units.size
  | .body item => item < env.tree.size

theorem firm_lookup_hasScope (wellFormed : env.tree.WellFormed) {scope : Scope}
    (within : env.HasScope scope) (name : String) :
    Firm env env.Denotes (env.lookup scope name) := by
  cases scope with
  | unit id => exact firm_lookupInUnit wellFormed id (Dotted.split name)
  | body item => exact firm_lookup wellFormed within name

theorem firm_lookupAround (wellFormed : env.tree.WellFormed) (item : ItemId) (name : String) :
    Firm env env.Denotes (env.lookupAround item name) := by
  unfold lookupAround Item.parent
  cases enclosing : (env.tree.item item).enclosing with
  | nil => exact firm_lookupInUnit wellFormed _ (Dotted.split name)
  | cons outer rest =>
      have member : outer ∈ (env.tree.item item).enclosing := enclosing ▸ List.mem_cons_self
      exact firm_lookup wellFormed (wellFormed.enclosing_lt item outer member).2 name

/-- The annotation types that uses denote are items of the tree. -/
def UsesWithin (env : Environment) (uses : List AnnotationUse) : Prop :=
  ∀ use ∈ uses, ∀ id, use.declaration = some id → id < env.tree.size

theorem lt_of_annotationType? {found : Option Decl} (denotes : env.Denotes found) {id : ItemId}
    (isType : env.annotationType? found = some id) : id < env.tree.size := by
  unfold annotationType? at isType
  split at isType
  · next other =>
      split at isType
      · cases isType
        exact denotes (.item id) rfl
      · cases isType
  · cases isType

theorem firm_annotationsOf (wellFormed : env.tree.WellFormed) (decl : Decl) :
    Firm env env.UsesWithin (env.annotationsOf decl) := by
  cases decl with
  | parameter param => exact firm_pure nofun
  | item id =>
      apply firm_mapM
      intro name _
      apply (firm_lookupAround wellFormed id name.dotted).bind
      intro found denotes
      exact firm_pure fun other isType => lt_of_annotationType? denotes isType

/-! ## Subtyping -/

/-- An outcome with a value of a kind, or with a fault that is passed over unless
the source of names strays from the tree. -/
structure Warranted {α : Type} (env : Environment) (good : α → Prop) (outcome : Except Fault α) :
    Prop where
  good : ∀ value, outcome = .ok value → good value
  fault : ∀ fault, outcome = .error fault → fault.isUnresolved = true ∨ env.Stray fault

theorem Soft.warranted_map {α β : Type} {good : α → Prop} {fine : β → Prop} {run : Traced α}
    (soft : Soft env good run) {change : α → β} (kept : ∀ value, good value → fine (change value)) :
    env.Warranted fine (run.outcome.map change) := by
  cases ran : run.outcome with
  | ok value =>
      constructor
      · rintro _ ⟨⟩
        exact kept value (soft.good value ran)
      · exact nofun
  | error fault =>
      constructor
      · exact nofun
      · rintro _ ⟨⟩
        exact soft.warranted fault ran

/-- The positions of a declaration lead to items of the tree. -/
theorem firm_positionTargets (constructed : env.Constructed) {decl : Decl}
    (inside : decl.site < env.tree.size) :
    Firm env (fun outcomes => ∀ outcome ∈ outcomes,
      env.Warranted (fun targets => ∀ target ∈ targets, target < env.tree.size) outcome)
      (env.positionTargets false decl) := by
  cases decl with
  | item id =>
      apply firm_mapM
      intro position listed
      apply (firm_attempt position).bind
      rintro outcome rfl
      apply firm_pure
      apply (soft_position constructed inside listed).warranted_map
      intro found within
      exact List.forall_mem_map.mpr within
  | parameter param =>
      apply (firm_attempt _).bind
      rintro outcome rfl
      apply firm_pure
      rintro outcome isOutcome
      cases List.mem_singleton.mp isOutcome
      apply (firm_supertypesOfParameter constructed inside).toSoft.warranted_map
      intro found within
      exact List.forall_mem_map.mpr within

theorem warranted_of_mem_positionEdges {outcomes : List (Except Fault (List ItemId))}
    (warranted : ∀ outcome ∈ outcomes,
      env.Warranted (fun targets => ∀ target ∈ targets, target < env.tree.size) outcome)
    {edge : Except Fault ItemId} (member : edge ∈ positionEdges outcomes) :
    env.Warranted (fun target => target < env.tree.size) edge := by
  obtain ⟨outcome, isOutcome, fromOutcome⟩ := List.mem_flatMap.mp member
  have known := warranted outcome isOutcome
  cases outcome with
  | ok targets =>
      obtain ⟨target, isTarget, rfl⟩ := List.mem_map.mp fromOutcome
      constructor
      · rintro _ ⟨⟩
        exact known.good targets rfl target isTarget
      · exact nofun
  | error fault =>
      cases List.mem_singleton.mp fromOutcome
      constructor
      · exact nofun
      · rintro _ ⟨⟩
        exact known.fault fault rfl

/-- The best-effort search passes over positions that do not resolve. -/
theorem firmSteps_supertypeSearch (constructed : env.Constructed) (target : String) :
    Search.FirmSteps env (env.supertypeSearch target false)
      (fun decl => decl.site < env.tree.size) (env.Warranted fun target => target < env.tree.size)
      where
  visit _ _ := firm_pure trivial
  edges decl inside := by
    apply (firm_positionTargets constructed inside).bind
    intro outcomes warranted
    exact firm_pure fun edge member => warranted_of_mem_positionEdges warranted member
  enter decl edge _ warranted := by
    cases edge with
    | ok id =>
        have inside : id < env.tree.size := warranted.good id rfl
        change Firm env _ (do
          env.known id
          pure (some (Decl.item id)))
        rw [known_of_lt inside, pure_bind]
        apply firm_pure
        rintro _ ⟨⟩
        exact inside
    | error fault =>
        change Firm env _ (if fault.isUnresolved then pure none else .fail fault)
        cases unresolved : fault.isUnresolved with
        | true => exact firm_pure nofun
        | false =>
            apply firm_fail
            apply (warranted.fault fault rfl).resolve_left
            simp [unresolved]

theorem firm_canBeAssignedTo (constructed : env.Constructed) {decl : Decl}
    (inside : decl.site < env.tree.size) (other : Decl) :
    Firm env (fun _ => True) (env.canBeAssignedTo decl other) := by
  apply ((firmSteps_supertypeSearch constructed _).firm_explore env.searchDepth [] decl inside).bind
  intro result _
  exact firm_pure trivial

/-! ## Ancestors -/

/-- A reference that a lenient walk goes on to: it refers to an item of the tree,
and its arguments are kept unless the source of names strays from the tree. -/
structure LeadsOn (env : Environment) (session : Session) (ancestor : Reference) : Prop where
  inside : ancestor.item < env.tree.size
  fits : ancestor.Fits session.cells
  warranted : ∀ fault, env.forcedAll ancestor.args = .error fault →
    fault.isUnresolved = true ∨ env.Stray fault

theorem runs_ancestors_leadOn (constructed : env.Constructed) (sound : session.Sound env)
    {decl : Decl} (inside : decl.site < env.tree.size) :
    Query.Runs (Sound env) Follows session (env.ancestorsOf decl true)
      (Query.Judged env.Stray fun after references =>
        ∀ reference ∈ references, env.LeadsOn after reference) := by
  cases decl with
  | item id =>
      have firm := firm_supertypesOf constructed inside
      refine (runs_itemAncestors sound inside true).mono ?_
      intro after outcome _ _ agree
      constructor
      · rintro fault rfl
        exact firm.stray fault agree.of_error
      · rintro references rfl reference member
        obtain ⟨found, given, instances, _⟩ := agree.of_ok
        obtain ⟨index, isReference⟩ := List.mem_iff_getElem?.mp member
        obtain ⟨supertype, listed, isInstance⟩ := exists_of_forall₂_getElem? instances isReference
        constructor
        · rw [isInstance.item]
          exact firm.good found given supertype (List.mem_of_getElem? listed)
        · exact isInstance.fits
        · intro fault failed
          rw [forcedAll_instance isInstance] at failed
          exact warranted_of_convertArgs constructed.wellFormed inside failed
  | parameter param =>
      have firm := firm_supertypesOfParameter constructed inside
      refine (Query.runs_lift sound
        (env.supertypesOfParameter param true)).follows_of_defers.mono ?_
      rintro after outcome _ _ ⟨_, rfl⟩
      refine ⟨firm.stray, ?_⟩
      intro references given reference member
      have eager := env.eager_supertypesOfParameter param true references given reference member
      constructor
      · exact firm.good references given reference member
      · exact Ty.allFit_of_allEager _ _ eager
      · intro fault failed
        rw [forcedAll_of_allEager _ eager] at failed
        cases failed

/-- The lenient walk comes to items of the tree, and passes over missing names. -/
theorem steps_lenientSearch (constructed : env.Constructed) :
    Search.Steps env.Stray (env.ancestorSearch true) (Sound env) Follows
      (fun session ascent => AscentKnown env session ascent ∧
        ∀ view, ascent.view = some view → view.item < env.tree.size)
      (fun session _ ancestor => env.LeadsOn session ancestor) (fun _ _ => True) where
  visit session start sound _ := Query.runs_pure sound (Query.judged_ok fun _ _ => trivial)
  edges session start sound known := runs_ancestors_leadOn constructed sound known.1.1
  enter session start ancestor sound known leads := by
    have wellFormed := constructed.wellFormed
    have stepped : Query.Runs (Sound env) Defers session (env.forceEdge ancestor)
        (Query.Judged env.Stray (env.Enterable env.Stray)) := by
      refine (runs_forceEdge_judged wellFormed sound leads.fits leads.warranted).mono ?_
      intro after outcome _ _ judged
      refine ⟨judged.fault, ?_⟩
      intro edge same
      obtain ⟨item, _, fits⟩ := judged.value edge same
      exact ⟨fits, .inr (item ▸ leads.inside)⟩
    refine runs_enter wellFormed (fun edge => Ascent.mk (.item edge.item) (some edge))
      (fun session ascent => AscentKnown env session ascent ∧
        ∀ view, ascent.view = some view → view.item < env.tree.size) stepped known.1.2 ?_
    intro after edge inside edgeFits
    refine ⟨⟨inside, ?_⟩, ?_⟩
    · rintro view ⟨⟩
      exact edgeFits
    · rintro view ⟨⟩
      exact inside
  nodeLasts old new start later known :=
    ⟨⟨known.1.1, fun view same => (known.1.2 view same).mono later.cells⟩, known.2⟩
  edgeLasts old new start ancestor later leads := { leads with fits := leads.fits.mono later.cells }

/-- The references refer to items of the tree. -/
def RefersWithin (env : Environment) (references : List Reference) : Prop :=
  ∀ reference ∈ references, reference.item < env.tree.size

theorem runs_allAncestors_judged (constructed : env.Constructed) (sound : session.Sound env)
    {decl : Decl} (inside : decl.site < env.tree.size) :
    Query.Runs (Sound env) Follows session (env.allAncestorsOf decl true)
      (Query.Judged env.Stray fun _ => env.RefersWithin) := by
  have start : AscentKnown env session ⟨decl, none⟩ := ⟨inside, nofun⟩
  have walked := Search.runs_run (steps_lenientSearch constructed) env.searchDepth sound
    ⟨start, nofun⟩
  refine walked.bind_judged ?_
  rintro after ⟨seen, found⟩ soundAfter _ result
  refine Query.runs_pure soundAfter (Query.judged_ok ?_)
  intro reference member
  obtain ⟨ascent, isSeen, isView⟩ := List.mem_filterMap.mp member
  exact (result.1 ascent isSeen).2 reference isView

/-! ## What becomes of a best-effort query -/

/-- An outcome is a value of a kind, or else the fault that the source of names
answered an id outside the tree.  It is a value when the source keeps to the
tree. -/
structure Settles {α : Type} (env : Environment) (good : α → Prop) (outcome : Except Fault α) :
    Prop where
  good : ∀ value, outcome = .ok value → good value
  stray : ∀ fault, outcome = .error fault → env.Stray fault
  total : env.InTree → ∃ value, outcome = .ok value

theorem settles_of_stray {α : Type} {good : α → Prop} {outcome : Except Fault α}
    (isGood : ∀ value, outcome = .ok value → good value)
    (stray : ∀ fault, outcome = .error fault → env.Stray fault) : env.Settles good outcome where
  good := isGood
  stray := stray
  total inTree := by
    cases outcome with
    | ok value => exact ⟨value, rfl⟩
    | error fault => exact absurd (stray fault rfl) (inTree.not_stray fault)

theorem Firm.settles {α : Type} {good : α → Prop} {run : Traced α} (firm : Firm env good run) :
    env.Settles good run.outcome :=
  settles_of_stray firm.good firm.stray

theorem settles_of_judged {α : Type} {good : α → Prop} {outcome : Except Fault α}
    (judged : Query.Judged env.Stray (fun _ => good) session outcome) : env.Settles good outcome :=
  settles_of_stray judged.value judged.fault

/-- The best-effort queries about the declarations and scopes of a tree, each with
what its values refer to.  A query is put to an environment. -/
inductive BestEffort (env : Environment) :
    {α : Type} → (Environment → Query α) → (α → Prop) → Prop where
  | typeNamed {scope : Scope} (within : env.HasScope scope) (name : String) :
      BestEffort env (fun env => Query.ofTraced (env.lookup scope name)) env.Denotes
  | qualified (name : String) :
      BestEffort env (fun env => Query.ofTraced (env.solveQualified name)) env.Denotes
  | annotations {decl : Decl} (declares : env.tree.Declares decl) :
      BestEffort env (fun env => Query.ofTraced (env.annotationsOf decl)) env.UsesWithin
  | declaredFields {decl : Decl} (declares : env.tree.Declares decl) :
      BestEffort env (fun env => env.declaredFieldsOf decl) env.DeclaredWithin
  | allFields {decl : Decl} (declares : env.tree.Declares decl) :
      BestEffort env (fun env => env.allFieldsOf decl) env.DeclaredWithin
  | symbol {scope : Scope} (within : env.HasScope scope) (name : String) :
      BestEffort env (fun env => env.lookupSymbol scope name) env.SymbolWithin
  | ancestors {decl : Decl} (declares : env.tree.Declares decl) :
      BestEffort env (fun env => env.ancestorsOf decl true) env.RefersWithin
  | allAncestors {decl : Decl} (declares : env.tree.Declares decl) :
      BestEffort env (fun env => env.allAncestorsOf decl true) env.RefersWithin
  | assignment {decl : Decl} (declares : env.tree.Declares decl) (other : Decl) :
      BestEffort env (fun env => Query.ofTraced (env.canBeAssignedTo decl other)) fun _ => True

theorem settles_of_bestEffort (constructed : env.Constructed) (reached : session.Reached env)
    {α : Type} {query : Environment → Query α} {good : α → Prop}
    (asked : env.BestEffort query good) : env.Settles good (query env session).1 := by
  have wellFormed := constructed.wellFormed
  obtain ⟨collecting, idle⟩ := collecting_of_reached constructed reached
  have sound := collecting.sound
  cases asked with
  | typeNamed within name => exact (firm_lookup_hasScope wellFormed within name).settles
  | qualified name => exact (firm_solveQualified wellFormed name).settles
  | annotations declares => exact (firm_annotationsOf wellFormed _).settles
  | declaredFields declares =>
      exact settles_of_judged (runs_declaredFieldsOf wellFormed sound declares.site_lt).good
  | allFields declares =>
      exact settles_of_judged (runs_allFieldsOf constructed collecting idle declares.site_lt).good
  | @symbol scope within name =>
      have looked := (runs_lookupSymbol constructed collecting idle scope name).good
      apply settles_of_stray looked.value
      intro fault failed
      apply (looked.fault fault failed).resolve_right
      rintro ⟨item, rfl, outside⟩
      exact outside within
  | ancestors declares =>
      have listed := (runs_ancestors_leadOn constructed sound declares.site_lt).good
      apply settles_of_stray ?_ listed.fault
      intro references given reference member
      exact (listed.value references given reference member).inside
  | allAncestors declares =>
      exact settles_of_judged (runs_allAncestors_judged constructed sound declares.site_lt).good
  | assignment declares other =>
      exact (firm_canBeAssignedTo constructed declares.site_lt other).settles

/-- Whatever the session holds, a best-effort query ends because the source of
names strayed, or its outcome is the one with any source that agrees within the
tree. -/
theorem sameUnlessAstray_of_bestEffort {solve : String → Option ItemId}
    (agrees : env.AgreesInTree solve) {α : Type} {query : Environment → Query α}
    {good : α → Prop} (asked : env.BestEffort query good) (session : Session) :
    env.SameUnlessAstray (query env session).1 (query (env.withSource solve) session).1 := by
  cases asked with
  | @typeNamed scope _ name => exact (unswayed_lookup agrees scope name).outcome
  | qualified name => exact (unswayed_solveQualified agrees name).outcome
  | annotations _ => exact (unswayed_annotationsOf agrees _).outcome
  | declaredFields _ => exact (unswayed_declaredFieldsOf agrees _).outcome session
  | allFields _ => exact (unswayed_allFieldsOf agrees _).outcome session
  | @symbol scope _ name => exact (unswayed_lookupSymbol agrees scope name).outcome session
  | ancestors _ => exact (unswayed_ancestorsOf agrees _ true).outcome session
  | allAncestors _ => exact (unswayed_allAncestorsOf agrees _).outcome session
  | assignment _ other => exact sameUnlessAstray_canBeAssignedTo agrees _ other

/-- In every session that questions lead to, a best-effort query has a value that
refers to the tree, or it ends with the fault that the source of names answered
an id outside the tree: with no missing name, and with no id that was used before
it was validated.  When the source keeps to the tree, there is a value.

An answer outside the tree is not passed over: unless the query ends with that
fault, it has the outcome that it has with any other source of names that agrees
within the tree. -/
theorem bestEffort_settles (constructed : env.Constructed) (reached : session.Reached env)
    {α : Type} {query : Environment → Query α} {good : α → Prop}
    (asked : env.BestEffort query good) :
    env.Settles good (query env session).1 ∧
      ∀ solve, env.AgreesInTree solve →
        env.SameUnlessAstray (query env session).1 (query (env.withSource solve) session).1 :=
  ⟨settles_of_bestEffort constructed reached asked,
    fun _ agrees => sameUnlessAstray_of_bestEffort agrees asked session⟩

/-- A tree as its own source of names agrees with a source that answers one more
name with an id outside the tree. -/
theorem agreesInTree_straying {tree : DeclTree} {stray : String} {id : ItemId}
    (outside : tree.size ≤ id) : (straying tree stray id).AgreesInTree tree.firstNamed? := by
  intro name
  have answer : (straying tree stray id).solve name =
    (tree.firstNamed? name).or (if name = stray then some id else none) := rfl
  rw [answer]
  cases tree.firstNamed? name with
  | some known => exact .inl rfl
  | none =>
      by_cases isStray : name = stray
      · exact .inr ⟨id, if_pos isStray, outside⟩
      · exact .inl (if_neg isStray).symm

/-- A type argument outside the tree is no obstacle to the supertypes of the class
that gives it, which are the same with the names of the tree alone.  It ends the
collection of the fields of that class. -/
theorem bestEffort_of_strayArgument :
    (∃ references, (strayArgument.ancestorsOf (.item 11) true .start).1 = .ok references ∧
      strayArgument.RefersWithin references ∧
      ((strayArgument.withSource strayArgument.tree.firstNamed?).ancestorsOf
        (.item 11) true .start).1 = .ok references) ∧
    (∃ fault, (strayArgument.allFieldsOf (.item 11) .start).1 = .error fault ∧
      strayArgument.Stray fault) ∧
    ∃ fields, ((selfContained mutualClasses).allFieldsOf (.item 10) afterSecondClass).1 =
      .ok fields := by
  have strayConstructed : strayArgument.Constructed :=
    constructed_straying (DeclTree.grownFrom_libraryWith _ _) _ _
  have inside : 11 < strayArgument.tree.size := by decide +kernel
  have lower : strayArgument.tree.Declares (.item 11) := inside
  have agrees : strayArgument.AgreesInTree strayArgument.tree.firstNamed? :=
    agreesInTree_straying (by decide +kernel)
  have supertypes := bestEffort_settles strayConstructed .start (.ancestors lower)
  have fields := bestEffort_settles strayConstructed .start (.allFields lower)
  refine ⟨?_, ?_, ?_⟩
  · have done : (strayArgument.ancestorsOf (.item 11) true .start).1.toBool = true := by
      decide +kernel
    obtain ⟨references, given⟩ := Except.exists_of_toBool done
    refine ⟨references, given, supertypes.1.good references given, ?_⟩
    rcases supertypes.2 _ agrees with ⟨fault, failed, _⟩ | same
    · rw [given] at failed
      cases failed
    · exact same.trans given
  · have fails : (strayArgument.allFieldsOf (.item 11) .start).1.toBool = false := by decide +kernel
    cases given : (strayArgument.allFieldsOf (.item 11) .start).1 with
    | ok others =>
        rw [given] at fails
        cases fails
    | error fault => exact ⟨fault, rfl, fields.1.stray fault given⟩
  · have constructed : (selfContained mutualClasses).Constructed :=
      constructed_libraryWith _ _
    have asked : 11 < (selfContained mutualClasses).tree.size := by decide +kernel
    have inside : 10 < (selfContained mutualClasses).tree.size := by decide +kernel
    have declares : (selfContained mutualClasses).tree.Declares (.item 10) := inside
    have reached : afterSecondClass.Reached (selfContained mutualClasses) := .asked .start _ asked
    exact (bestEffort_settles constructed reached (.allFields declares)).1.total
      (inTree_selfContained _)

end Environment

end JavaSymbols

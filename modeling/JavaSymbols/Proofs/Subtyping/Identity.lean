import JavaSymbols.Proofs.DeclTree.Clashes
import JavaSymbols.Proofs.Methods.Choice
import JavaSymbols.Proofs.Search.Keys
import JavaSymbols.Proofs.Subtyping.Agreement

/-!
# Names in place of declarations

Searches through supertypes keep the names of the declarations that they have
seen, and compare names where declarations are meant.  That makes no difference
to declarations that clash with none that they could be mistaken for.
-/

namespace JavaSymbols

namespace DeclTree

/-- No item has the qualified name of a declaration other than the item itself. -/
def Recognizable (tree : DeclTree) (decl : Decl) : Prop :=
  ∀ id : Nat, id < tree.size → ¬ tree.Confusable decl (.item id)

/-- Items do not clash with each other. -/
theorem recognizable_item (tree : DeclTree) (id : ItemId) : tree.Recognizable (.item id) := by
  intro other _
  rintro (clash | clash)
  · cases clash
  · cases clash

end DeclTree

namespace Environment

open Session

/-! ## Searches that compare declarations -/

section

variable (env : Environment)

/-- The search for a declaration among the supertypes of another, by the
declarations themselves. -/
def identitySearch (target : Decl) (strict : Bool) :
    Search Traced Decl Decl (Except Fault ItemId) Unit where
  key := id
  visit decl := pure (if decl = target then some () else none)
  edges := (env.supertypeSearch (env.tree.qualifiedNameOf target) strict).edges
  enter := (env.supertypeSearch (env.tree.qualifiedNameOf target) strict).enter

/-- Whether a value of one declared type can be assigned to another, by the
declarations themselves. -/
def assignableToSame (decl other : Decl) (strict : Bool) : Traced Bool := do
  let result ← (env.identitySearch other strict).run env.searchDepth decl
  pure result.2.isSome

/-- Every ancestor of a declaration, by the declarations themselves. -/
def allAncestorsSame (decl : Decl) (lenient : Bool) : Query (List Reference) := do
  let search := (env.ancestorSearch lenient).keyedBy Ascent.decl
  let (seen, _) ← search.run env.searchDepth ⟨decl, none⟩
  pure (seen.filterMap Ascent.view)

/-- Whether a value of a declared type can be assigned to a declaration, by the
declarations themselves. -/
def declAcceptsSame (decl other : Decl) : Query Bool :=
  match decl with
  | .parameter _ => Query.fail (.unsupported .assignmentToTypeParameter)
  | .item id => do
      if id = env.object then pure true
      else if other = .item id then pure true
      else do
        let ancestors ← env.allAncestorsSame other false
        pure (ancestors.any fun ancestor => ancestor.item == id)

end

variable {env : Environment} {session : Session}

/-- Names tell apart what a search from a declaration meets, unless an item is
mistaken for the declaration. -/
theorem Meets.sameName_iff (built : env.tree.Built) (named : env.tree.WellNamed)
    {start first second : Decl} (declares : env.tree.Declares start)
    (recognizable : env.tree.Recognizable start) (meetsFirst : env.Meets start first)
    (meetsSecond : env.Meets start second) :
    env.tree.qualifiedNameOf first = env.tree.qualifiedNameOf second ↔ first = second := by
  rw [named.sameName_iff built.wellFormed built.nested (meetsFirst.declares declares)
    (meetsSecond.declares declares), or_iff_left]
  rcases meetsFirst with rfl | ⟨id, inside, rfl⟩
  · rcases meetsSecond with rfl | ⟨other, otherInside, rfl⟩
    · exact fun confusable => confusable.elim (fun clash => clash.ne rfl) fun clash => clash.ne rfl
    · exact recognizable other otherInside
  · rcases meetsSecond with rfl | ⟨other, otherInside, rfl⟩
    · exact fun confusable => recognizable id inside confusable.symm
    · exact env.tree.recognizable_item id other otherInside

/-! ## The search through supertypes -/

/-- The search through supertypes, over the declarations that it meets. -/
def metSearch (env : Environment) (start : Decl) (target : String) (strict : Bool) :
    Search Traced { decl : Decl // env.Meets start decl } String (Except Fault ItemId) Unit where
  key node := env.tree.qualifiedNameOf node.1
  visit node := (env.supertypeSearch target strict).visit node.1
  edges node := (env.supertypeSearch target strict).edges node.1
  enter _ edge :=
    match edge with
    | .ok id =>
        if inside : id < env.tree.size then pure (some ⟨.item id, .inr ⟨id, inside, rfl⟩⟩)
        else .fail (.outsideTree id)
    | .error fault => if !strict && fault.isUnresolved then pure none else .fail fault

theorem embeds_metSearch (env : Environment) (start : Decl) (target : String) (strict : Bool) :
    Search.Embeds Subtype.val (env.metSearch start target strict)
      (env.supertypeSearch target strict) where
  key _ := rfl
  visit _ := rfl
  edges _ := rfl
  enter node edge := by
    cases edge with
    | ok id =>
        by_cases inside : id < env.tree.size
        · simp [supertypeSearch, metSearch, known, inside]
        · simp only [supertypeSearch, metSearch, known, inside]
          rfl
    | error fault =>
        by_cases passed : (!strict && fault.isUnresolved) = true
        · simp only [supertypeSearch, metSearch, passed, if_true, map_pure, Option.map_none]
        · simp only [supertypeSearch, metSearch, passed]
          rfl

/-- Declarations that no item is mistaken for, nor one for the other, are compared
as if by themselves. -/
theorem assignableTo_eq_same (built : env.tree.Built) (named : env.tree.WellNamed)
    {decl other : Decl} (declares : env.tree.Declares decl)
    (declaresOther : env.tree.Declares other) (recognizable : env.tree.Recognizable decl)
    (recognizableOther : env.tree.Recognizable other)
    (apart : ¬ env.tree.Confusable decl other) (strict : Bool) :
    env.assignableTo decl other strict = env.assignableToSame decl other strict := by
  have sought : ∀ node : { node : Decl // env.Meets decl node },
      env.tree.qualifiedNameOf node.1 = env.tree.qualifiedNameOf other ↔ node.1 = other := by
    rintro ⟨node, meets⟩
    rw [named.sameName_iff built.wellFormed built.nested (meets.declares declares) declaresOther,
      or_iff_left]
    rcases meets with rfl | ⟨id, inside, rfl⟩
    · exact apart
    · exact fun confusable => recognizableOther id inside confusable.symm
  have embeds := embeds_metSearch env decl (env.tree.qualifiedNameOf other) strict
  have embedsTwin : Search.Embeds Subtype.val
      ((env.metSearch decl (env.tree.qualifiedNameOf other) strict).keyedBy Subtype.val)
      (env.identitySearch other strict) := by
    constructor
    · exact fun _ => rfl
    · intro node
      change pure _ = pure _
      rw [if_congr (sought node).symm rfl rfl]
    · exact fun _ => rfl
    · exact embeds.enter
  have ran := Search.run_eq_of_embeds embeds embedsTwin
    (fun node twin => (Meets.sameName_iff built named declares recognizable node.2 twin.2).symm)
    env.searchDepth ⟨decl, .inl rfl⟩
  rw [assignableTo, assignableToSame]
  exact congrArg (fun search => search >>= fun result => pure result.2.isSome) ran

/-! ## The search through ancestors -/

/-- Using an id outside the tree is a fault. -/
theorem known_then_of_not_lt {α : Type} {id : Nat} (outside : ¬ id < env.tree.size)
    (next : Query α) : (do
      env.known id
      next) = Query.fail (.outsideTree id) := by
  change (Query.ofTraced (env.known id) >>= fun _ => next) = _
  rw [known, if_neg outside]
  funext session
  rw [Query.bind_apply, Query.ofTraced_apply]
  simp [Traced.fail]

/-- Entering an ancestor, as an ascent that a search from a declaration meets. -/
def enterMet (env : Environment) (start : Decl) (view : Option Reference) (step : Query Reference) :
    Query (Option { ascent : Ascent // env.Meets start ascent.decl }) := do
  let edge ← step
  let edge := edge.seenThrough view (← Query.cells)
  if inside : edge.item < env.tree.size then
    pure (some ⟨⟨.item edge.item, some edge⟩, .inr ⟨edge.item, inside, rfl⟩⟩)
  else Query.fail (.outsideTree edge.item)

theorem map_enterMet (start : Decl) (view : Option Reference) (step : Query Reference) :
    Option.map Subtype.val <$> env.enterMet start view step = (do
      let edge ← step
      let edge := edge.seenThrough view (← Query.cells)
      env.known edge.item
      pure (some ⟨.item edge.item, some edge⟩) : Query (Option Ascent)) := by
  simp only [enterMet, map_bind]
  congr 1
  funext edge
  congr 1
  funext cells
  by_cases inside : (edge.seenThrough view cells).item < env.tree.size
  · rw [dif_pos inside, known_then inside, map_pure]
    rfl
  · rw [dif_neg inside, known_then_of_not_lt inside]
    rfl

/-- The search through ancestors, over the declarations that it meets. -/
def metAncestorSearch (env : Environment) (start : Decl) (lenient : Bool) :
    Search Query { ascent : Ascent // env.Meets start ascent.decl } String Reference Empty where
  key ascent := env.tree.qualifiedNameOf ascent.1.decl
  visit _ := pure none
  edges ascent := env.ancestorsOf ascent.1.decl lenient
  enter ascent ancestor :=
    env.enterMet start ascent.1.view
      (if lenient then env.forceEdge ancestor else env.forceReference ancestor)

theorem embeds_metAncestorSearch (env : Environment) (start : Decl) (lenient : Bool) :
    Search.Embeds Subtype.val (env.metAncestorSearch start lenient)
      (env.ancestorSearch lenient) where
  key _ := rfl
  visit _ := rfl
  edges _ := rfl
  enter ascent ancestor := by
    rw [metAncestorSearch, map_enterMet]
    cases lenient with
    | true => rfl
    | false => rfl

/-- All ancestors of a declaration that no item is mistaken for are collected as if
by themselves. -/
theorem allAncestorsOf_eq_same (built : env.tree.Built) (named : env.tree.WellNamed) {decl : Decl}
    (declares : env.tree.Declares decl) (recognizable : env.tree.Recognizable decl)
    (lenient : Bool) : env.allAncestorsOf decl lenient = env.allAncestorsSame decl lenient := by
  have embeds := embeds_metAncestorSearch env decl lenient
  have embedsTwin : Search.Embeds Subtype.val
      ((env.metAncestorSearch decl lenient).keyedBy fun ascent => ascent.1.decl)
      ((env.ancestorSearch lenient).keyedBy Ascent.decl) := by
    constructor
    · exact fun _ => rfl
    · exact embeds.visit
    · exact embeds.edges
    · exact embeds.enter
  have ran := Search.run_eq_of_embeds embeds embedsTwin
    (fun ascent twin =>
      (Meets.sameName_iff built named declares recognizable ascent.2 twin.2).symm)
    env.searchDepth ⟨⟨decl, none⟩, .inl rfl⟩
  rw [allAncestorsOf, allAncestorsSame]
  exact congrArg (fun search => search >>= fun result => pure (result.1.filterMap Ascent.view)) ran

/-! ## Names of ancestors -/

/-- A reference bears the qualified name of its item. -/
def Names (env : Environment) (reference : Reference) : Prop :=
  reference.name = env.tree.qualifiedName reference.item

/-- All supertypes of an item that a strict look gives bear their names. -/
theorem bears_of_supertypesOf_strict {id : ItemId} {found : List Supertype}
    (given : (env.supertypesOf id false).outcome = .ok found) {supertype : Supertype}
    (member : supertype ∈ found) : env.Bears supertype := by
  by_cases isObject : id = env.object
  · rw [supertypesOf, if_pos isObject] at given
    cases given
    cases member
  · rw [supertypesOf, if_neg isObject, outcome_admitSupertypes_strict, ← candidates_eq] at given
    cases resolved : (env.candidates id).mapM fun outcome => outcome with
    | error fault =>
        rw [resolved] at given
        cases given
    | ok all =>
        rw [resolved] at given
        cases given
        have listed : supertype ∈ all := (List.mem_filter.mp member).1
        have isCandidate : .ok supertype ∈ env.candidates id := by
          rw [eq_map_ok_of_mapM resolved]
          exact List.mem_map_of_mem listed
        exact bears_of_mem_candidates isCandidate

/-- All bounds of a type parameter that a strict look gives bear their names. -/
theorem names_of_supertypesOfParameter_strict {param : TypeParameter} {found : List Reference}
    (given : (env.supertypesOfParameter param false).outcome = .ok found) {reference : Reference}
    (member : reference ∈ found) : env.Names reference := by
  rw [supertypesOfParameter, Traced.outcome_bind, outcome_admitBounds_strict] at given
  obtain ⟨bounds, looked, same⟩ := Except.bind_eq_ok given
  cases same
  split at member
  · rw [List.mem_singleton.mp member]
    rfl
  · cases resolved : ((env.tree.param param).bounds.map fun bound =>
        (env.convertClassAt param.owner.typeSite bound).outcome).mapM fun outcome => outcome with
    | error fault =>
        rw [resolved] at looked
        cases looked
    | ok types =>
        rw [resolved] at looked
        cases looked
        obtain ⟨type, listed, refers⟩ := List.mem_filterMap.mp member
        have converted : .ok type ∈ (env.tree.param param).bounds.map fun bound =>
            (env.convertClassAt param.owner.typeSite bound).outcome := by
          rw [eq_map_ok_of_mapM resolved]
          exact List.mem_map_of_mem listed
        obtain ⟨bound, _, converts⟩ := List.mem_map.mp converted
        exact name_of_convertClassAt converts refers

theorem runs_ancestorsOf_names (sound : session.Sound env) {decl : Decl}
    (inside : decl.site < env.tree.size) :
    Query.Runs (Sound env) Follows session (env.ancestorsOf decl false)
      (Query.OnValue fun _ references => ∀ reference ∈ references, env.Names reference) := by
  cases decl with
  | item id =>
      apply (runs_itemAncestors sound inside false).mono
      rintro after outcome _ _ agree references rfl
      obtain ⟨found, given, instances, _⟩ := agree.of_ok
      intro reference member
      obtain ⟨index, isReference⟩ := List.mem_iff_getElem?.mp member
      obtain ⟨supertype, isSupertype, taken⟩ := exists_of_forall₂_getElem? instances isReference
      have bears := bears_of_supertypesOf_strict given (List.mem_of_getElem? isSupertype)
      rw [Names, taken.name, taken.item]
      exact bears
  | parameter param =>
      have listed := Query.runs_lift sound (env.supertypesOfParameter param false)
      apply listed.follows_of_defers.mono
      rintro after outcome _ _ ⟨_, same⟩ references rfl reference member
      exact names_of_supertypesOfParameter_strict same.symm member

/-- A reference as it is seen through another bears the name that it bore. -/
theorem Names.seenThrough {reference : Reference} (names : env.Names reference)
    (view : Option Reference) (cells : Cells) : env.Names (reference.seenThrough view cells) := by
  cases view with
  | none => exact names
  | some view => exact names

/-- A strict walk comes to items of the tree by references that bear their names. -/
theorem steps_strictSearch (constructed : env.Constructed) :
    Search.Steps (Query.NoneIf False) (env.ancestorSearch false) (Sound env) Follows
      (fun session ascent => AscentKnown env session ascent ∧
        ∀ view, ascent.view = some view → view.item < env.tree.size ∧ env.Names view)
      (fun session _ ancestor => ancestor.Fits session.cells ∧ env.Names ancestor)
      (fun _ _ => True) where
  visit session start sound _ := Query.runs_pure sound (Query.judged_ok fun _ _ => trivial)
  edges session start sound known := by
    have listed := (runs_ancestorsOf sound known.1.1 false).and
      (runs_ancestorsOf_names sound known.1.1)
    refine (listed.mono ?_).unsure
    intro after outcome _ _ both references same reference member
    exact ⟨both.1 references same reference member, both.2 references same reference member⟩
  enter session start ancestor sound known edge := by
    have wellFormed := constructed.wellFormed
    have forced := (runs_forceReference_fits wellFormed sound edge.1).and
      (runs_forceReference wellFormed sound edge.1)
    have stepped : Query.Runs (Sound env) Defers session (env.forceReference ancestor)
        (Query.Judged (Query.NoneIf False) fun after found =>
          env.Enterable (Query.NoneIf False) after found ∧ env.Names found) := by
      apply forced.mono
      rintro after outcome _ _ ⟨fits, same, _⟩
      constructor
      · exact fun _ _ => not_false
      · rintro found rfl
        obtain ⟨args, _, done⟩ := Except.bind_eq_ok same.symm
        cases done
        exact ⟨⟨fits _ rfl, .inl not_false⟩, edge.2⟩
    apply runs_enter_kept wellFormed (fun found => Ascent.mk (.item found.item) (some found))
      (fun session ascent => AscentKnown env session ascent ∧
        ∀ view, ascent.view = some view → view.item < env.tree.size ∧ env.Names view) stepped
      (fun _ view cells names => names.seenThrough view cells) known.1.2
    intro after found inside fits names
    constructor
    · refine ⟨inside, ?_⟩
      rintro view ⟨⟩
      exact fits
    · rintro view ⟨⟩
      exact ⟨inside, names⟩
  nodeLasts old new start later known :=
    ⟨⟨known.1.1, fun view same => (known.1.2 view same).mono later.cells⟩, known.2⟩
  edgeLasts old new start ancestor later edge := ⟨edge.1.mono later.cells, edge.2⟩

/-- The ancestors of a declaration, asked for strictly, are items of the tree and
bear their names. -/
theorem names_of_allAncestorsOf (constructed : env.Constructed) (sound : session.Sound env)
    {decl : Decl} (inside : decl.site < env.tree.size) {references : List Reference}
    (given : (env.allAncestorsOf decl false session).1 = .ok references) {reference : Reference}
    (member : reference ∈ references) : reference.item < env.tree.size ∧ env.Names reference := by
  have start : AscentKnown env session ⟨decl, none⟩ := ⟨inside, nofun⟩
  have walked := Search.runs_run (steps_strictSearch constructed) env.searchDepth sound
    ⟨start, nofun⟩
  have collected : Query.Runs (Sound env) Follows session (env.allAncestorsOf decl false)
      (Query.OnValue fun _ found => ∀ reference ∈ found,
        reference.item < env.tree.size ∧ env.Names reference) := by
    apply (walked.mono fun _ _ _ _ judged => judged.value).bind_value
    rintro after ⟨seen, found⟩ soundAfter _ result
    apply Query.runs_pure soundAfter
    rintro _ ⟨⟩ reference member
    obtain ⟨ascent, isSeen, isView⟩ := List.mem_filterMap.mp member
    exact (result.1 ascent isSeen).2 reference isView
  exact collected.good references given reference member

/-! ## From the side of the slot -/

/-- An item is among the ancestors just when its name is among theirs. -/
theorem any_name_eq_any_item (constructed : env.Constructed) (named : env.tree.WellNamed)
    (sound : session.Sound env) {decl : Decl} (inside : decl.site < env.tree.size) {item : Nat}
    (itemInside : item < env.tree.size) {references : List Reference}
    (given : (env.allAncestorsOf decl false session).1 = .ok references) :
    (references.any fun reference => reference.name == env.tree.qualifiedName item) =
      references.any fun reference => reference.item == item := by
  have byName : ∀ reference ∈ references,
      reference.name = env.tree.qualifiedName item ↔ reference.item = item := by
    intro reference member
    rcases names_of_allAncestorsOf constructed sound inside given member with ⟨within, names⟩
    rw [names]
    constructor
    · exact named.items reference.item item within itemInside
    · rintro rfl
      rfl
  rw [Bool.eq_iff_iff, List.any_eq_true, List.any_eq_true]
  simp only [beq_iff_eq]
  exact exists_congr fun reference => and_congr_right (byName reference)

/-- What a declaration accepts, it accepts as if declarations were compared by
themselves, as long as no item is mistaken for what is put to it. -/
theorem declAccepts_eq_same (constructed : env.Constructed) (named : env.tree.WellNamed)
    (reached : session.Reached env) {decl other : Decl} (declares : env.tree.Declares decl)
    (declaresOther : env.tree.Declares other) (recognizable : env.tree.Recognizable other) :
    env.declAccepts decl other session = env.declAcceptsSame decl other session := by
  cases decl with
  | parameter param => rfl
  | item id =>
      have sound := (collecting_of_reached constructed reached).1.sound
      have sameName : env.tree.qualifiedNameOf other = env.tree.qualifiedName id ↔
          other = .item id := by
        have compared := named.sameName_iff constructed.wellFormed constructed.built.nested
          declaresOther declares
        rw [or_iff_left (recognizable id declares)] at compared
        exact compared
      rw [declAccepts, itemAccepts, declAcceptsSame,
        ← allAncestorsOf_eq_same constructed.built named declaresOther recognizable]
      by_cases isObject : id = env.object
      · rw [if_pos isObject, if_pos isObject]
      rw [if_neg isObject, if_neg isObject]
      by_cases same : other = .item id
      · rw [if_pos (sameName.mpr same), if_pos same]
      rw [if_neg (mt sameName.mp same), if_neg same, Query.bind_apply, Query.bind_apply]
      cases answered : env.allAncestorsOf other false session with
      | mk outcome after =>
          cases outcome with
          | error fault => rfl
          | ok references =>
              have sameAnswer := any_name_eq_any_item constructed named sound declaresOther.site_lt
                declares (congrArg Prod.fst answered)
              exact congrArg (fun answer => (Except.ok answer, after)) sameAnswer

/-! ## Names stand for declarations -/

/-- In a tree that is written with plain names, two declarations share a qualified
name just when they clash.  Subtype tests and the collection of ancestors compare
declarations as if by themselves, unless they are about a declaration that an item
is mistaken for, or about two that are mistaken for each other. -/
theorem names_stand_for_declarations (constructed : env.Constructed)
    (named : env.tree.WellNamed) :
    (∀ decl other, env.tree.Declares decl → env.tree.Declares other →
      (env.tree.qualifiedNameOf decl = env.tree.qualifiedNameOf other ↔
        decl = other ∨ env.tree.Confusable decl other)) ∧
    (∀ decl other, env.tree.Declares decl → env.tree.Declares other →
      env.tree.Recognizable decl → env.tree.Recognizable other →
      ¬ env.tree.Confusable decl other →
      ∀ strict, env.assignableTo decl other strict = env.assignableToSame decl other strict) ∧
    (∀ decl, env.tree.Declares decl → env.tree.Recognizable decl →
      ∀ lenient, env.allAncestorsOf decl lenient = env.allAncestorsSame decl lenient) ∧
    ∀ decl other (session : Session), session.Reached env → env.tree.Declares decl →
      env.tree.Declares other → env.tree.Recognizable other →
      env.declAccepts decl other session = env.declAcceptsSame decl other session := by
  have built := constructed.built
  constructor
  · intro decl other declares declaresOther
    exact named.sameName_iff built.wellFormed built.nested declares declaresOther
  constructor
  · intro decl other declares declaresOther recognizable recognizableOther apart
    exact assignableTo_eq_same built named declares declaresOther recognizable recognizableOther
      apart
  constructor
  · intro decl declares recognizable
    exact allAncestorsOf_eq_same built named declares recognizable
  · intro decl other session reached declares declaresOther recognizable
    exact declAccepts_eq_same constructed named reached declares declaresOther recognizable

/-- A generic interface, and a class with a member type that implements it and
overloads a generic method, under different names of the type parameters. -/
def namedApart : DeclTree :=
  (DeclTree.libraryWith "demo"
    [{ TypeDecl.empty .interfaceType "Shape" with typeParams := [⟨"T", []⟩] },
      { TypeDecl.empty .classType "Box" with
        typeParams := [⟨"T", [.simple "Shape" none]⟩]
        implemented := [.simple "Shape" (some [.ofDotted "T"])]
        methods :=
          [⟨"put", [⟨"S", [.simple "Box" none]⟩], [], .void, .publicAccess, false⟩,
            ⟨"put", [⟨"U", []⟩], [⟨"item", .ofDotted "U"⟩], .void, .publicAccess,
              false⟩] }]).addMember 11 (TypeDecl.empty .classType "Slot")

theorem names_of_namedApart :
    namedApart.WellNamed ∧
    namedApart.qualifiedNameOf (.parameter ⟨.method 11 0, 0⟩) ≠
      namedApart.qualifiedNameOf (.parameter ⟨.method 11 1, 0⟩) ∧
    ((selfContained namedApart).assignableToSame (.parameter ⟨.method 11 0, 0⟩) (.item 10)
      true).outcome = .ok true ∧
    ((selfContained namedApart).allAncestorsSame (.parameter ⟨.method 11 0, 0⟩) false
      .start).1.map (List.map Reference.item) = .ok [11, 0, 10] ∧
    ((selfContained namedApart).declAcceptsSame (.item 10) (.parameter ⟨.method 11 0, 0⟩)
      .start).1 = .ok true := by
  have grown : DeclTree.GrownFrom .coreLibrary namedApart :=
    .addMember (DeclTree.grownFrom_libraryWith _ _) _ _ (by decide +kernel)
  have built := grown.built DeclTree.built_coreLibrary
  have constructed := constructed_selfContained grown
  have named : namedApart.WellNamed := by decide +kernel
  have distinct : namedApart.DistinctNames := by decide +kernel
  have notConfused : ∀ decl other, namedApart.Declares decl → namedApart.Declares other →
      ¬ namedApart.Confusable decl other :=
    fun decl other => distinct.not_confusable built.nested
  have recognizable : ∀ decl, namedApart.Declares decl → namedApart.Recognizable decl :=
    fun decl declares id inside => notConfused decl (.item id) declares inside
  have stand := names_stand_for_declarations constructed named
  have declares : namedApart.Declares (.parameter ⟨.method 11 0, 0⟩) :=
    DeclTree.mem_declarations.mp (by decide +kernel)
  have declaresTwin : namedApart.Declares (.parameter ⟨.method 11 1, 0⟩) :=
    DeclTree.mem_declarations.mp (by decide +kernel)
  have declaresShape : namedApart.Declares (.item 10) :=
    DeclTree.mem_declarations.mp (by decide +kernel)
  refine ⟨named, ?_, ?_, ?_, ?_⟩
  · intro shared
    rcases (stand.1 _ _ declares declaresTwin).mp shared with same | confused
    · cases same
    · exact notConfused _ _ declares declaresTwin confused
  · have tested := stand.2.1 _ _ declares declaresShape (recognizable _ declares)
      (recognizable _ declaresShape) (notConfused _ _ declares declaresShape) true
    exact (congrArg Traced.outcome tested).symm.trans (by decide +kernel)
  · have collected := stand.2.2.1 _ declares (recognizable _ declares) false
    have given : ((selfContained namedApart).allAncestorsOf (.parameter ⟨.method 11 0, 0⟩) false
        .start).1.map (List.map Reference.item) = .ok [11, 0, 10] := by decide +kernel
    exact collected ▸ given
  · have accepted := stand.2.2.2 _ _ .start .start declaresShape declares
      (recognizable _ declares)
    exact (congrArg Prod.fst accepted).symm.trans (by decide +kernel)

/-- A class with two generic methods of one name, whose type parameters have one
name as well. -/
def overloadedTwice : DeclTree :=
  .libraryWith "demo"
    [{ TypeDecl.empty .classType "A" with
        methods :=
          [⟨"m", [⟨"T", []⟩], [⟨"a", .ofDotted "T"⟩], .void, .publicAccess, false⟩,
            ⟨"m", [⟨"T", []⟩], [⟨"a", .ofDotted "T"⟩, ⟨"b", .ofDotted "T"⟩], .void, .publicAccess,
              false⟩] }]

/-- The type parameters of overloads are taken for one another. -/
theorem names_of_overloadedTwice :
    (selfContained overloadedTwice).Constructed ∧ overloadedTwice.WellNamed ∧
    overloadedTwice.Declares (.parameter ⟨.method 10 0, 0⟩) ∧
    overloadedTwice.Declares (.parameter ⟨.method 10 1, 0⟩) ∧
    overloadedTwice.qualifiedNameOf (.parameter ⟨.method 10 0, 0⟩) =
      overloadedTwice.qualifiedNameOf (.parameter ⟨.method 10 1, 0⟩) ∧
    ((selfContained overloadedTwice).canBeAssignedTo (.parameter ⟨.method 10 0, 0⟩)
      (.parameter ⟨.method 10 1, 0⟩)).outcome = .ok true ∧
    ((selfContained overloadedTwice).assignableToSame (.parameter ⟨.method 10 0, 0⟩)
      (.parameter ⟨.method 10 1, 0⟩) false).outcome = .ok false := by
  refine ⟨constructed_libraryWith _ _, by decide +kernel, ?_, ?_, ?_⟩
  · exact DeclTree.mem_declarations.mp (by decide +kernel)
  · exact DeclTree.mem_declarations.mp (by decide +kernel)
  · decide +kernel

end Environment

end JavaSymbols

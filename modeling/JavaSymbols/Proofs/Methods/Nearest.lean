import JavaSymbols.Proofs.Ancestors.Exact
import JavaSymbols.Proofs.Assignment.Preorder
import JavaSymbols.Proofs.Methods.Choice
import JavaSymbols.Proofs.Methods.Totality
import JavaSymbols.Proofs.Search.Answers
import JavaSymbols.Proofs.Views.Agreement

/-!
# The nearest method

The search for a method meets an ancestor once, through the references of the way
on which it is met first.  Where all ways up to an ancestor compose to the same
reference, nothing is lost by that: a method is found just when one applies
somewhere on the way up, and it is one of the first item, in depth-first order, on
which one applies.
-/

namespace JavaSymbols.Environment

open Session Relation

variable {env : Environment} {session : Session} {call : Call} {start : ItemId}

/-! ## Ways up -/

/-- A way up from an item along supertypes comes to an item, with the references on
the way composed to a view. -/
inductive ComesTo (env : Environment) (start : ItemId) : ItemId → Option Reference → Prop where
  | start : ComesTo env start start none
  | step {lower : ItemId} {view : Option Reference} {found : List Supertype}
      {supertype : Supertype} (below : ComesTo env start lower view)
      (given : (env.supertypesOf lower true).outcome = .ok found) (listed : supertype ∈ found) :
      ComesTo env start supertype.item
        (some ((env.converted (lower, supertype)).seenThrough view .empty))

/-- All ways up from an item to one and the same item compose to the same view. -/
def Coherent (env : Environment) (start : ItemId) : Prop :=
  ∀ item view other, env.ComesTo start item view → env.ComesTo start item other → view = other

/-- On an item above, a method applies to a call as a way up shows it. -/
def Offers (env : Environment) (call : Call) (start item : ItemId) : Prop :=
  ∃ view method, env.ComesTo start item view ∧ Applies env call item view method

theorem above_iff {lower upper : MethodAscent} : upper ∈ methodClimb.above env lower ↔
    ∃ supertype ∈ Climb.supertypes env lower.item, upper = ⟨supertype.item,
      some ((env.converted (lower.item, supertype)).seenThrough lower.view .empty)⟩ := by
  rw [Climb.above, List.mem_map]
  constructor
  · rintro ⟨supertype, member, rfl⟩
    exact ⟨supertype, member, rfl⟩
  · rintro ⟨supertype, member, rfl⟩
    exact ⟨supertype, member, rfl⟩

/-- The search climbs the ways up. -/
theorem leads_iff_comesTo {ascent : MethodAscent} :
    ReflTransGen (fun lower upper => upper ∈ methodClimb.above env lower) ⟨start, none⟩ ascent ↔
      env.ComesTo start ascent.item ascent.view := by
  constructor
  · intro path
    induction path with
    | refl => exact .start
    | tail _ member ih =>
        rcases above_iff.mp member with ⟨supertype, listed, rfl⟩
        exact .step ih (Climb.given_of_mem listed) listed
  · intro comes
    rcases ascent with ⟨item, view⟩
    change env.ComesTo start item view at comes
    induction comes with
    | start => exact .refl
    | step below given listed ih =>
        rw [← Climb.supertypes_of_given given] at listed
        exact ih.tail (above_iff.mpr ⟨_, listed, rfl⟩)

/-- The direct ancestors of an item are the items above it. -/
theorem ancestorTargets_eq (id : ItemId) : env.ancestorTargets (.item id) =
    (Climb.supertypes env id).map fun supertype => .item supertype.item := by
  cases given : (env.supertypesOf id true).outcome with
  | ok found => rw [ancestorTargets_of_item given, Climb.supertypes_of_given given]
  | error fault =>
      rw [ancestorTargets, Climb.supertypes, given]
      rfl

/-- A way up leads along direct ancestors. -/
theorem reaches_of_comesTo {item : ItemId} {view : Option Reference}
    (comes : env.ComesTo start item view) :
    ReflTransGen (fun lower upper => upper ∈ env.ancestorTargets lower) (.item start)
      (.item item) := by
  induction comes with
  | start => exact .refl
  | step _ given listed ih =>
      rw [← Climb.supertypes_of_given given] at listed
      apply ih.tail
      rw [ancestorTargets_eq]
      exact List.mem_map_of_mem listed

/-! ## What the search collects -/

/-- The items that the search for a method would meet, with the views by which it
would come to them. -/
def met (env : Environment) (start : ItemId) : List MethodAscent :=
  ((Search.collecting MethodAscent.item (methodClimb.above env)).run env.searchDepth
    ⟨start, none⟩).1

/-- The items of the search form a graph with the items of the tree as keys. -/
theorem region_above (converting : env.Converting) (constructed : env.Constructed) :
    Search.Region MethodAscent.item (methodClimb.above env) (methodClimb.Within env)
      env.tree.ids where
  within _ within _ member := Climb.within_above converting constructed within member
  listed _ within := List.mem_range.mpr within.inside

/-- What is met is come to. -/
theorem comesTo_of_met (converting : env.Converting) (constructed : env.Constructed)
    {start : Nat} (inside : start < env.tree.size) {ascent : MethodAscent}
    (member : ascent ∈ env.met start) : env.ComesTo start ascent.item ascent.view := by
  have within : methodClimb.Within env ⟨start, none⟩ := Climb.within_start inside
  have enough : env.tree.ids.length ≤ env.searchDepth := by simp [DeclTree.ids, searchDepth]
  have collects := Search.run_collects (region_above converting constructed) within enough
  obtain ⟨origin, isStart, path⟩ := collects.reached ascent member
  rw [List.mem_singleton.mp isStart] at path
  exact leads_iff_comesTo.mp path

/-- Items of the tree, as places of their own. -/
theorem atlas_items (constructed : env.Constructed) :
    Search.Atlas Decl.site env.ancestorTargets
      (fun decl => ∃ id : Nat, id < env.tree.size ∧ decl = .item id) env.tree.ids
      env.tree.declarations where
  within := by
    rintro _ ⟨id, inside, rfl⟩ next member
    have declares : env.tree.Declares (.item id) := inside
    exact ancestorTargets_within constructed declares member
  listed := by
    rintro _ ⟨id, inside, rfl⟩
    exact List.mem_range.mpr inside
  apart := by
    rintro _ _ ⟨id, _, rfl⟩ ⟨other, _, rfl⟩ same
    exact congrArg Decl.item same
  complete := by
    rintro _ ⟨id, inside, rfl⟩
    have declares : env.tree.Declares (.item id) := inside
    exact DeclTree.mem_declarations.mpr declares

/-- What is met comes in depth-first order. -/
theorem map_item_met (converting : env.Converting) (constructed : env.Constructed)
    {start : Nat} (inside : start < env.tree.size) :
    (env.met start).map (fun ascent => Decl.item ascent.item) =
      (Search.preorder env.tree.declarations env.ancestorTargets [] (.item start)).eraseDups := by
  have within : methodClimb.Within env ⟨start, none⟩ := Climb.within_start inside
  have keyed : ∀ ascent : MethodAscent, ascent.item = (Decl.item ascent.item).site := fun _ => rfl
  have steps : ∀ ascent, methodClimb.Within env ascent →
      (methodClimb.above env ascent).map (fun ascent => Decl.item ascent.item) =
        env.ancestorTargets (.item ascent.item) := by
    intro ascent _
    rw [ancestorTargets_eq, Climb.above, List.map_map]
    rfl
  have placed := Search.map_run keyed steps (region_above converting constructed).within
    env.searchDepth within
  have ordered := Search.run_eq_eraseDups_preorder (atlas_items constructed)
    ⟨start, inside, rfl⟩
    (by simp [DeclTree.ids, searchDepth] : env.tree.ids.length ≤ env.searchDepth)
  exact placed.trans ordered

/-! ## What the search finds -/

/-- What looking at an item comes to: a method, a fault, or nothing. -/
def verdict (env : Environment) (call : Call) (ascent : MethodAscent) :
    Option (Except Fault MethodMatch) :=
  match env.choice call ascent.item ascent.view with
  | .ok chosen => chosen.map fun method => .ok ⟨method, ascent.view⟩
  | .error fault => some (.error fault)

theorem verdict_eq_none_iff {ascent : MethodAscent} :
    env.verdict call ascent = none ↔ env.choice call ascent.item ascent.view = .ok none := by
  unfold verdict
  cases env.choice call ascent.item ascent.view with
  | error fault => simp
  | ok chosen => simp

theorem verdict_eq_ok_iff {ascent : MethodAscent} {found : MethodMatch} :
    env.verdict call ascent = some (.ok found) ↔
      env.choice call ascent.item ascent.view = .ok (some found.method) ∧
        found.view = ascent.view := by
  unfold verdict
  cases env.choice call ascent.item ascent.view with
  | error fault => simp
  | ok chosen =>
      cases chosen with
      | none => simp
      | some method =>
          rcases found with ⟨other, view⟩
          simp [eq_comm]

theorem runs_visit_verdict (constructed : env.Constructed) (sound : session.Sound env)
    (args : Ty.AllWithin env.tree call.args) {ascent : MethodAscent}
    (within : methodClimb.Within env ascent) :
    Query.Runs (Sound env) Follows session ((env.methodSearch call).visit ascent)
      (Query.OnValue fun _ found => env.verdict call ascent = found.map .ok) := by
  have known : MethodKnown env call session ascent := by
    constructor
    · exact within.inside
    · intro reference isView
      exact Ty.allFit_of_allEager _ _ (within.viewed reference isView).2
    · exact Ty.allFit_of_allEager _ _ (Ty.AllWithin.allEager _ args)
  apply (runs_visit_exact constructed sound known).follows_of_defers.mono
  rintro after _ _ _ rfl found told
  rcases Except.bind_eq_ok told with ⟨chosen, choice, same⟩
  cases same
  rw [verdict, choice]
  cases chosen with
  | none => rfl
  | some method => rfl

/-- The search for a method answers with the first method among the items that it
would meet. -/
theorem findSome?_of_findMethod (converting : env.Converting) (constructed : env.Constructed)
    (sound : session.Sound env) (args : Ty.AllWithin env.tree call.args) {start : Nat}
    (inside : start < env.tree.size) {answer : Option MethodMatch}
    (answered : (env.findMethod call start session).1 = .ok answer) :
    (env.met start).findSome? (env.verdict call) = answer.map .ok := by
  have within : methodClimb.Within env ⟨start, none⟩ := Climb.within_start inside
  have visits : ∀ (other : Session) ascent, other.Sound env → methodClimb.Within env ascent →
      Query.Runs (Sound env) Follows other ((env.methodSearch call).visit ascent)
        (Query.OnValue fun _ found => env.verdict call ascent = found.map .ok) :=
    fun _ _ soundHere ascentWithin => runs_visit_verdict constructed soundHere args ascentWithin
  have tracks := (climbs_methodSearch call).tracks converting constructed visits
  have ran := tracks.runs_run env.searchDepth sound within
  have matching : Query.Runs (Sound env) Follows session (env.findMethod call start)
      (Query.OnValue fun _ answer =>
        (env.met start).findSome? (env.verdict call) = answer.map .ok) := by
    unfold findMethod
    apply (ran.mono fun _ _ _ _ judged => judged.value).bind_value
    rintro after ⟨seen, found⟩ soundAfter _ same
    apply Query.runs_pure soundAfter
    rintro _ ⟨⟩
    rw [met, ← Search.run_eq_findSome?]
    exact congrArg Prod.snd same
  exact matching.good answer answered

/-- With a source of names that keeps to the tree, the search has an answer. -/
theorem exists_findMethod (converting : env.Converting) (constructed : env.Constructed)
    (inTree : env.InTree) (sound : session.Sound env) (args : Ty.AllWithin env.tree call.args)
    {start : Nat} (inside : start < env.tree.size) :
    ∃ answer, (env.findMethod call start session).1 = .ok answer := by
  have determined : env.Determined call start := by
    apply determined_of_converting
    intro item reaches
    exact converting item (lt_of_leads constructed inside reaches)
  have steps := steps_methodSearch_of_determined constructed inTree args determined
  have climbing : env.Climbing start session ⟨start, none⟩ := ⟨.refl, inside, nofun, nofun, nofun⟩
  exact (runs_findMethod_of_steps steps sound climbing).good.answers trivial

/-- Where nothing is found on an item that is met, no method applies as any way up
shows it. -/
theorem not_offers_of_verdict (converting : env.Converting) (constructed : env.Constructed)
    {start : Nat} (inside : start < env.tree.size) (coherent : env.Coherent start)
    {ascent : MethodAscent} (member : ascent ∈ env.met start)
    (nothing : env.verdict call ascent = none) : ¬ env.Offers call start ascent.item := by
  rintro ⟨view, method, comes, applies⟩
  have same := coherent ascent.item view ascent.view comes
    (comesTo_of_met converting constructed inside member)
  rw [same] at applies
  exact not_applies_of_choice (verdict_eq_none_iff.mp nothing) method applies

/-- Every item that direct ancestors lead to is met. -/
theorem exists_met_of_reaches (converting : env.Converting) (constructed : env.Constructed)
    {start : Nat} (inside : start < env.tree.size) {item : ItemId}
    (reaches : ReflTransGen (fun lower upper => upper ∈ env.ancestorTargets lower) (.item start)
      (.item item)) : ∃ ascent ∈ env.met start, ascent.item = item := by
  have enough : env.tree.ids.length ≤ env.searchDepth := by simp [DeclTree.ids, searchDepth]
  have collected := (Search.mem_run_iff (atlas_items constructed) ⟨start, inside, rfl⟩
    enough).mpr reaches
  rw [Search.run_eq_eraseDups_preorder (atlas_items constructed) ⟨start, inside, rfl⟩ enough,
    ← map_item_met converting constructed inside] at collected
  rcases List.mem_map.mp collected with ⟨ascent, member, same⟩
  exact ⟨ascent, member, Decl.item.inj same⟩

/-! ## Coherence checked -/

/-- References without deferred parts that are the same. -/
def sameView : Option Reference → Option Reference → Bool
  | none, none => true
  | some view, some other =>
      view.item == other.item && view.name == other.name && Ty.allSame view.args other.args
  | _, _ => false

theorem eq_of_sameView {view other : Option Reference}
    (eager : ∀ reference, view = some reference → Ty.allEager reference.args = true)
    (same : sameView view other = true) : view = other := by
  cases view with
  | none =>
      cases other with
      | none => rfl
      | some other => cases same
  | some view =>
      cases other with
      | none => cases same
      | some other =>
          rcases view with ⟨item, name, args⟩
          rcases other with ⟨otherItem, otherName, otherArgs⟩
          simp only [sameView, Bool.and_eq_true, beq_iff_eq] at same
          rcases same with ⟨⟨rfl, rfl⟩, sameArgs⟩
          rw [Ty.eq_of_allSame args otherArgs (eager _ rfl) sameArgs]

/-- Type arguments resolve everywhere if they do for the listed supertypes. -/
theorem converting_of_listed (resolves : ∀ id < env.tree.size,
    ∀ supertype ∈ Climb.supertypes env id, (env.convertArgs id supertype).toBool = true) :
    env.Converting := by
  rintro id inside ⟨found, given, supertype, member, fault, failed⟩
  rw [← Climb.supertypes_of_given given] at member
  have resolved := resolves id inside supertype member
  rw [failed] at resolved
  cases resolved

/-- All ways up compose to the same views if they lead through places that are
listed once for each item. -/
theorem coherent_of_places (converting : env.Converting) (constructed : env.Constructed)
    {start : Nat} (inside : start < env.tree.size) (places : List MethodAscent)
    (once : (places.map MethodAscent.item).Nodup)
    (origin : ∃ place ∈ places, place.item = start ∧ sameView none place.view = true)
    (closed : ∀ lower ∈ places, ∀ upper ∈ methodClimb.above env lower,
      ∃ place ∈ places, place.item = upper.item ∧ sameView upper.view place.view = true) :
    env.Coherent start := by
  have all : ∀ item view, env.ComesTo start item view →
      methodClimb.Within env ⟨item, view⟩ ∧ ⟨item, view⟩ ∈ places := by
    intro item view comes
    induction comes with
    | start =>
        rcases origin with ⟨⟨item, view⟩, member, sameItem, viewed⟩
        have isNone : none = view := eq_of_sameView nofun viewed
        subst isNone
        cases sameItem
        exact ⟨Climb.within_start inside, member⟩
    | @step lower view found supertype below given listed ih =>
        rw [← Climb.supertypes_of_given given] at listed
        have isAbove : (MethodAscent.mk supertype.item
            (some ((env.converted (lower, supertype)).seenThrough view .empty))) ∈
              methodClimb.above env ⟨lower, view⟩ := above_iff.mpr ⟨supertype, listed, rfl⟩
        have within := Climb.within_above converting constructed ih.1 isAbove
        rcases closed _ ih.2 _ isAbove with ⟨⟨item, other⟩, member, sameItem, viewed⟩
        have same := eq_of_sameView (fun reference isView => (within.viewed reference isView).2)
          viewed
        change item = supertype.item at sameItem
        change _ = other at same
        rw [sameItem, ← same] at member
        exact ⟨within, member⟩
  intro item view other comes alsoComes
  have equal := List.inj_on_of_nodup_map once (all item view comes).2 (all item other alsoComes).2
    rfl
  exact congrArg MethodAscent.view equal

/-! ## The nearest method -/

/-- In every session that questions lead to, with type arguments of supertypes that
resolve, and where all ways up from an item to one of its ancestors compose to the
same view, the search for a method from that item finds nothing just when no method
applies on any item that direct ancestors lead to.  What it finds applies on the
first such item in depth-first preorder.  It always has an answer if the source of
names keeps to the tree. -/
theorem findMethod_nearest (constructed : env.Constructed) (converting : env.Converting)
    {start : Nat} (inside : start < env.tree.size) (coherent : env.Coherent start)
    (args : Ty.AllWithin env.tree call.args) (reached : session.Reached env) :
    (env.InTree → ∃ answer, (env.findMethod call start session).1 = .ok answer) ∧
    ∀ answer, (env.findMethod call start session).1 = .ok answer →
      (answer = none ↔ ∀ item,
        ReflTransGen (fun lower upper => upper ∈ env.ancestorTargets lower) (.item start)
          (.item item) → ¬ env.Offers call start item) ∧
      ∀ found, answer = some found →
        (env.ComesTo start found.method.owner found.view ∧
          ∃ params, Applies env call found.method.owner found.view ⟨found.method, params⟩) ∧
        ∃ before after, (Search.preorder env.tree.declarations env.ancestorTargets []
            (.item start)).eraseDups = before ++ .item found.method.owner :: after ∧
          ∀ item, .item item ∈ before → ¬ env.Offers call start item := by
  have sound := (collecting_of_reached constructed reached).1.sound
  constructor
  · intro inTree
    exact exists_findMethod converting constructed inTree sound args inside
  · intro answer answered
    have first := findSome?_of_findMethod converting constructed sound args inside answered
    have ordered := map_item_met converting constructed inside
    cases answer with
    | none =>
        constructor
        · apply iff_of_true rfl
          intro item reaches
          rcases exists_met_of_reaches converting constructed inside reaches with
            ⟨ascent, member, rfl⟩
          exact not_offers_of_verdict converting constructed inside coherent member
            (List.findSome?_eq_none_iff.mp first ascent member)
        · nofun
    | some found =>
        rcases List.findSome?_eq_some_iff.mp first with ⟨early, ascent, late, split, hit, missed⟩
        rcases verdict_eq_ok_iff.mp hit with ⟨choice, sameView⟩
        rcases applies_of_choice choice with ⟨params, applies⟩
        have owner : found.method.owner = ascent.item := applies.owner
        have isMet : ascent ∈ env.met start := by
          rw [split]
          simp
        have comes := comesTo_of_met converting constructed inside isMet
        rw [← owner, ← sameView] at comes applies
        constructor
        · apply iff_of_false nofun
          intro nowhere
          exact nowhere found.method.owner (reaches_of_comesTo comes) ⟨_, _, comes, applies⟩
        · rintro _ ⟨⟩
          constructor
          · exact ⟨comes, params, applies⟩
          · refine ⟨early.map fun ascent => .item ascent.item, late.map fun ascent =>
              .item ascent.item, ?_, ?_⟩
            · rw [← ordered, split, List.map_append, List.map_cons, owner]
            · intro item member
              rcases List.mem_map.mp member with ⟨other, isEarly, same⟩
              cases same
              apply not_offers_of_verdict converting constructed inside coherent
              · rw [split]
                exact List.mem_append_left _ isEarly
              · exact missed other isEarly

/-- A generic interface that two interfaces extend alike, and a record of both. -/
def namedShapes : DeclTree :=
  .libraryWith "demo"
    [{ TypeDecl.empty .interfaceType "Named" with
        typeParams := [⟨"T", []⟩]
        methods := [⟨"rename", [], [⟨"name", .ofDotted "T"⟩], .void, .publicAccess, false⟩] },
      { TypeDecl.empty .interfaceType "Left" with
        extended := [.simple "Named" (some [.named (.simple "String" none)])] },
      { TypeDecl.empty .interfaceType "Right" with
        extended := [.simple "Named" (some [.named (.simple "String" none)])] },
      { TypeDecl.empty .recordType "Both" with
        implemented := [.simple "Left" none, .simple "Right" none]
        components := [⟨"size", .primitive .int⟩] }]

/-- The method is that of the generic interface, which the search meets after three
items on which nothing applies. -/
theorem findMethod_of_namedShapes :
    (selfContained namedShapes).Converting ∧ (selfContained namedShapes).Coherent 13 ∧
    (∃ found, ((selfContained namedShapes).findMethod ⟨"rename", [textType], false⟩ 13 .start).1 =
      .ok (some found) ∧ found.method = ⟨10, .declared 0⟩) ∧
    ∃ before after, (Search.preorder namedShapes.declarations
        (selfContained namedShapes).ancestorTargets [] (.item 13)).eraseDups =
          before ++ .item 10 :: after ∧
      ∀ item, .item item ∈ before →
        ¬ (selfContained namedShapes).Offers ⟨"rename", [textType], false⟩ 13 item := by
  have constructed : (selfContained namedShapes).Constructed :=
    constructed_libraryWith _ _
  have inside : 13 < (selfContained namedShapes).tree.size := by decide +kernel
  have converting : (selfContained namedShapes).Converting :=
    converting_of_listed (by decide +kernel)
  have coherent : (selfContained namedShapes).Coherent 13 :=
    coherent_of_places converting constructed inside ((selfContained namedShapes).met 13)
      (by decide +kernel) (by decide +kernel) (by decide +kernel)
  have args : Ty.AllWithin (selfContained namedShapes).tree
      (Call.mk "rename" [textType] false).args := ⟨⟨by decide +kernel, trivial⟩, trivial⟩
  rcases findMethod_nearest constructed converting inside coherent args .start with
    ⟨answers, nearest⟩
  rcases answers (inTree_selfContained _) with ⟨answer, answered⟩
  have evaluated : ((selfContained namedShapes).findMethod ⟨"rename", [textType], false⟩ 13
      .start).1.map (Option.map MethodMatch.method) = .ok (some ⟨10, .declared 0⟩) := by
    decide +kernel
  rw [answered] at evaluated
  rcases Option.map_eq_some_iff.mp (Except.ok.inj evaluated) with ⟨found, rfl, method⟩
  rcases (nearest _ answered).2 found rfl with ⟨_, before, after, split, early⟩
  rw [method] at split
  exact ⟨converting, coherent, ⟨found, answered, method⟩, before, after, split, early⟩

end JavaSymbols.Environment

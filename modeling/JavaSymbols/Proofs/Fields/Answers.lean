import JavaSymbols.Proofs.Resolution.SelfContained
import JavaSymbols.Proofs.Session.Questions

/-!
# Answers to questions about fields

Whatever has been asked before, the fields of an item are those of its entries,
and a list is remembered just when no cycle can be reached from its item.
-/

namespace JavaSymbols

open Session

variable {env : Environment} {session : Session}

/-- Fields that agree with entries are the same fields, apart from their types. -/
theorem facts_of_agree {related : Entry → Field → Prop} {expected : Except Fault (List Entry)}
    {outcome : Except Fault (List Field)}
    (same : ∀ entry field, related entry field → field.facts = entry.facts)
    (agree : Agree (List.Forall₂ related) expected outcome) :
    outcome.map (List.map Field.facts) = expected.map (List.map Entry.facts) := by
  cases agree with
  | fault fault => rfl
  | value shown =>
      refine congrArg Except.ok ?_
      induction shown with
      | nil => rfl
      | cons head _ ih => rw [List.map_cons, List.map_cons, same _ _ head, ih]

namespace Environment

/-- The fields that an item declares are those of its own entries. -/
theorem facts_declaredFields (sound : session.Sound env) {id : Nat} (inside : id < env.tree.size) :
    (env.declaredFields id session).1.map (List.map Field.facts) =
      (env.ownEntries id).map (List.map Entry.facts) :=
  facts_of_agree (fun _ _ declares => declares.facts) (runs_declaredFields sound inside).good

/-- The direct ancestors of an item are its supertypes. -/
theorem items_itemAncestors (sound : session.Sound env) {id : Nat} (inside : id < env.tree.size) :
    (env.itemAncestors id true session).1.map (List.map Reference.item) =
      (env.supertypesOf id true).outcome.map (List.map Supertype.item) := by
  have agree := (runs_itemAncestors sound inside true).good
  generalize (env.itemAncestors id true session).1 = outcome at agree
  generalize (env.supertypesOf id true).outcome = expected at agree
  cases agree with
  | fault fault => rfl
  | value holds =>
      have instances := holds.1
      clear holds
      refine congrArg Except.ok ?_
      induction instances with
      | nil => rfl
      | cons head _ ih => rw [List.map_cons, List.map_cons, head.item, ih]

/-- In every session that questions lead to, the fields of an item are those of
its entries in order, or the same fault; entries consist of the fields that the
items along all supertype paths declare.  No item is left being expanded, and an
answer is remembered just when no cycle can be reached from the item. -/
theorem allFields_agrees_with_entries (constructed : env.Constructed)
    (reached : session.Reached env) {id : Nat} (inside : id < env.tree.size) :
    (env.allFields id session).1.map (List.map Field.facts) =
      (env.entriesOf id).map (List.map Entry.facts) ∧
    (env.declaredFields id session).1.map (List.map Field.facts) =
      (env.ownEntries id).map (List.map Entry.facts) ∧
    (env.itemAncestors id true session).1.map (List.map Reference.item) =
      (env.supertypesOf id true).outcome.map (List.map Supertype.item) ∧
    session.expanding = [] ∧ (env.allFields id session).2.expanding = [] ∧
    ∀ fields, (env.allFields id session).1 = .ok fields →
      (((env.allFields id session).2.fields.lookup id).isSome = true ↔ ¬ env.ReachesCycle id) := by
  obtain ⟨collecting, idle⟩ := collecting_of_reached constructed reached
  have runs := runs_allFields constructed collecting idle inside (fun _ => True) trivial
    fun _ _ _ _ => trivial
  refine ⟨?_, ?_, ?_, idle, ?_, runs.good.2⟩
  · exact facts_of_agree (fun _ _ shows' => shows'.facts) runs.good.1
  · exact facts_declaredFields collecting.sound inside
  · exact items_itemAncestors collecting.sound inside
  · exact runs.follows.expanding.trans idle

/-- Two classes with a field each that extend each other. -/
def mutualClasses : DeclTree :=
  .libraryWith "demo"
    [{ TypeDecl.empty .classType "Left" with
        extended := [.simple "Right" none]
        fields := [⟨"left", .primitive .int, .packageAccess, false, false⟩] },
      { TypeDecl.empty .classType "Right" with
        extended := [.simple "Left" none]
        fields := [⟨"right", .primitive .int, .packageAccess, true, false⟩] }]

/-- The session in which the fields of the second class have been asked for. -/
def afterSecondClass : Session :=
  ((Question.allFields (.item 11)).ask (selfContained mutualClasses) .start).2

theorem allFields_of_mutualClasses :
    ((selfContained mutualClasses).entriesOf 10).map (List.map Entry.facts) =
      .ok [⟨"left", 10, .packageAccess, false, false, false⟩,
        ⟨"right", 11, .packageAccess, true, false, false⟩,
        ⟨"left", 10, .packageAccess, false, false, false⟩] ∧
    (selfContained mutualClasses).ReachesCycle 10 := by
  have constructed : (selfContained mutualClasses).Constructed :=
    constructed_libraryWith _ _
  have inside : 10 < (selfContained mutualClasses).tree.size := by decide +kernel
  have asked : 11 < (selfContained mutualClasses).tree.size := by decide +kernel
  have reached : afterSecondClass.Reached (selfContained mutualClasses) := .asked .start _ asked
  have agrees := allFields_agrees_with_entries constructed reached inside
  have answered : ((selfContained mutualClasses).allFields 10 afterSecondClass).1.map
      (List.map Field.facts) = .ok [⟨"left", 10, .packageAccess, false, false, false⟩,
        ⟨"right", 11, .packageAccess, true, false, false⟩,
        ⟨"left", 10, .packageAccess, false, false, false⟩] := by decide +kernel
  have forgotten : (((selfContained mutualClasses).allFields 10
      afterSecondClass).2.fields.lookup 10).isSome = false := by decide +kernel
  refine ⟨agrees.1 ▸ answered, ?_⟩
  cases given : ((selfContained mutualClasses).allFields 10 afterSecondClass).1 with
  | error fault =>
      simp [given, Except.map] at answered
  | ok fields =>
      by_contra acyclic
      simp [(agrees.2.2.2.2.2 fields given).mpr acyclic] at forgotten

/-- A class that extends another with a type argument that the source of names
places outside the tree. -/
def strayArgument : Environment :=
  let tree := DeclTree.libraryWith "demo"
    [{ TypeDecl.empty .classType "B" with
        typeParams := [⟨"X", []⟩]
        fields := [⟨"f", .primitive .int, .packageAccess, false, false⟩] },
      { TypeDecl.empty .classType "D" with
        extended := [.simple "B" (some [.named (.simple "Stray" none)])] }]
  straying tree "demo.Stray" 99

/-- Supertypes are not followed without regard to their type arguments: an
argument that leads out of the tree ends the collection, though each list of
declared fields and each list of supertypes has a value. -/
theorem allFields_of_strayArgument :
    strayArgument.Constructed ∧ Session.start.Reached strayArgument ∧
    11 < strayArgument.tree.size ∧
    (strayArgument.allFields 11 .start).1.map (List.map Field.facts) =
      .error (.inconsistent (.unknownItem 99)) ∧
    (strayArgument.entriesAlong (fun _ _ => pure ()) [] 11).map (List.map Entry.facts) =
      .ok [⟨"f", 10, .packageAccess, false, false, false⟩] := by
  have inside : ∀ id : Nat, id ≤ 11 → id < strayArgument.tree.size := by decide +kernel
  have plain : strayArgument.entriesAlong (fun _ _ => pure ()) [] 11 = .ok
      [⟨10, ⟨"f", some (.primitive .int), .packageAccess, false, false, false⟩,
        [(11, ⟨10, "demo.B", [.written (.named (.simple "Stray" none))]⟩)]⟩] := by
    have objectOwn : strayArgument.ownEntries 0 = .ok [] := by decide +kernel
    have objectAbove : (strayArgument.supertypesOf 0 true).outcome = .ok [] := by decide +kernel
    have upperOwn : strayArgument.ownEntries 10 = .ok
        [⟨10, ⟨"f", some (.primitive .int), .packageAccess, false, false, false⟩, []⟩] := by
      decide +kernel
    have upperAbove : (strayArgument.supertypesOf 10 true).outcome =
        .ok [⟨0, "java.lang.Object", []⟩] := by decide +kernel
    have lowerOwn : strayArgument.ownEntries 11 = .ok [] := by decide +kernel
    have lowerAbove : (strayArgument.supertypesOf 11 true).outcome =
        .ok [⟨10, "demo.B", [.written (.named (.simple "Stray" none))]⟩] := by decide +kernel
    rw [entriesAlong_of_found (inside 11 (by decide)) (by decide) lowerOwn lowerAbove,
      List.mapM_cons, entriesBelow,
      entriesAlong_of_found (inside 10 (by decide)) (by decide) upperOwn upperAbove,
      List.mapM_cons, entriesBelow,
      entriesAlong_of_found (inside 0 (by decide)) (by decide) objectOwn objectAbove]
    rfl
  have constructed : strayArgument.Constructed :=
    constructed_straying (DeclTree.grownFrom_libraryWith _ _) _ _
  refine ⟨constructed, .start, inside 11 (by decide), ?_, ?_⟩
  · decide +kernel
  · rw [plain]
    rfl

end Environment

end JavaSymbols

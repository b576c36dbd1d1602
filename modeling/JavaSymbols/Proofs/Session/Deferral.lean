import JavaSymbols.Proofs.Session.Memos

/-!
# Deferred and eager conversion

A class type that is written as a supertype clause becomes a reference with
deferred arguments.  The same type written anywhere else is converted with all of
its arguments at once.  Both look up the same dotted text.  When that denotes an
item, forcing the deferred arguments, now or after any number of questions, has the
outcome of the eager conversion, faults included.
-/

namespace JavaSymbols

open Session

namespace Environment

variable {env : Environment} {session : Session} {item : ItemId} {written : ClassExpr}

/-! ## Eager conversion -/

/-- Written types are converted one after another. -/
theorem outcome_convertAllAt (site : TypeSite) (types : List TypeExpr) :
    (env.convertAllAt site types).outcome =
      types.mapM fun type => (env.convertAt site type).outcome := by
  induction types with
  | nil => rw [convertAllAt]; rfl
  | cons type rest ih =>
      rw [convertAllAt, Traced.outcome_bind, List.mapM_cons]
      cases (env.convertAt site type).outcome with
      | error fault => rfl
      | ok value =>
          change (env.convertAllAt site rest >>= fun rest => pure (value :: rest)).outcome = _
          rw [Traced.outcome_bind, ih]
          rfl

/-- The arguments of a clause are converted like the written arguments of the
supertype that it denotes. -/
theorem outcome_convertArgumentsAt (item : ItemId) (args : Option (List TypeExpr)) :
    (env.convertArgumentsAt ⟨item, none⟩ args).outcome =
      ((args.getD []).map SupertypeArg.written).mapM (env.convertArg item) := by
  cases args with
  | none => rw [convertArgumentsAt]; rfl
  | some types =>
      rw [convertArgumentsAt, outcome_convertAllAt, Option.getD_some, List.mapM_map]
      rfl

/-- Outside of methods a class type is looked up by its dotted text. -/
theorem convert_named (item : ItemId) (written : ClassExpr) :
    env.convert item (.named written) = env.classTypeNamed ⟨item, none⟩ written.dotted
      (env.convertArgumentsAt ⟨item, none⟩ written.args) := by
  cases written with
  | simple name args => rw [convert, convertAt, convertClassAt]; rfl
  | within scope name args => rw [convert, convertAt, convertClassAt]; rfl

/-- A dotted text that denotes an item converts to a reference once its arguments
do. -/
theorem outcome_convert_of_item {id : ItemId}
    (denotes : (env.lookup (.body item) written.dotted).outcome = .ok (some (.item id))) :
    (env.convert item (.named written)).outcome =
      (env.convertArgs item ⟨id, env.tree.qualifiedName id,
        (written.args.getD []).map .written⟩).map (.reference id (env.tree.qualifiedName id)) := by
  rw [convert_named, classTypeNamed, Traced.outcome_bind, denotes, convertArgs,
    ← outcome_convertArgumentsAt]
  change ((env.convertArgumentsAt ⟨item, none⟩ written.args) >>= fun args =>
    pure (Ty.reference id (env.tree.qualifiedName id) args)).outcome = _
  rw [Traced.outcome_bind]
  cases (env.convertArgumentsAt ⟨item, none⟩ written.args).outcome <;> rfl

/-- A dotted text that denotes a type parameter converts to its variable. -/
theorem outcome_convert_of_parameter {param : TypeParameter}
    (denotes : (env.lookup (.body item) written.dotted).outcome = .ok (some (.parameter param))) :
    (env.convert item (.named written)).outcome = .ok (.typeVar (env.tree.variableOf param)) := by
  rw [convert_named, classTypeNamed, Traced.outcome_bind, denotes]
  rfl

/-- Only a dotted text that denotes an item converts to a reference. -/
theorem denotes_of_convert {reference : Reference}
    (converts : (env.convert item (.named written)).outcome = .ok reference.toTy) :
    (env.lookup (.body item) written.dotted).outcome = .ok (some (.item reference.item)) ∧
      reference.name = env.tree.qualifiedName reference.item := by
  cases denotes : (env.lookup (.body item) written.dotted).outcome with
  | error fault =>
      rw [convert_named, classTypeNamed, Traced.outcome_bind, denotes] at converts
      cases converts
  | ok found =>
      rcases found with _ | ⟨id⟩ | ⟨param⟩
      · rw [convert_named, classTypeNamed, Traced.outcome_bind, denotes] at converts
        cases converts
      · rw [outcome_convert_of_item denotes] at converts
        obtain ⟨args, _, same⟩ := Except.map_eq_ok converts
        rw [Reference.toTy, Ty.reference.injEq] at same
        rcases same with ⟨sameItem, named, _⟩
        exact ⟨by rw [sameItem], by rw [← named, sameItem]⟩
      · rw [outcome_convert_of_parameter denotes] at converts
        cases converts

/-! ## Deferred conversion -/

/-- A clause whose dotted text denotes an item is a supertype with the written
arguments. -/
theorem outcome_clauseSupertype_of_item {id : ItemId}
    (denotes : (env.lookup (.body item) written.dotted).outcome = .ok (some (.item id))) :
    (env.clauseSupertype item written).outcome =
      .ok ⟨id, env.tree.qualifiedName id, (written.args.getD []).map .written⟩ := by
  have target : (env.clauseTarget item written).outcome = .ok (some (.item id)) := by
    rw [clauseTarget, Traced.outcome_bind, denotes]
    rfl
  rw [clauseSupertype, Traced.outcome_bind, target]
  rfl

/-- A clause whose dotted text denotes a type parameter is no supertype. -/
theorem outcome_clauseSupertype_of_parameter {param : TypeParameter}
    (denotes : (env.lookup (.body item) written.dotted).outcome = .ok (some (.parameter param))) :
    (env.clauseSupertype item written).outcome = .error (.unresolvedAncestor written.name) := by
  have target : (env.clauseTarget item written).outcome = .ok (some (.parameter param)) := by
    rw [clauseTarget, Traced.outcome_bind, denotes]
    rfl
  rw [clauseSupertype, Traced.outcome_bind, target]
  rfl

/-- A reference to an instance of a supertype is forced to one with the converted
arguments. -/
theorem forced_of_instance {cells : Cells} {supertype : Supertype} {reference : Reference}
    (given : Instance env cells item supertype reference) : env.forced reference.toTy =
      (env.convertArgs item supertype).map (.reference supertype.item supertype.name) := by
  rw [Reference.toTy, forced, forcedAll_instance given, given.item, given.name]
  cases env.convertArgs item supertype <;> rfl

/-- A clause that denotes a supertype becomes a reference to an instance of it, and
whatever is asked afterwards, forcing the reference converts the arguments. -/
theorem exists_clauseReference (constructed : env.Constructed) (reached : session.Reached env)
    (inside : item < env.tree.size) {supertype : Supertype}
    (denotes : (env.clauseSupertype item written).outcome = .ok supertype) :
    ∃ deferred after, env.clauseReference item written session = (.ok deferred, after) ∧
      deferred.item = supertype.item ∧ deferred.name = supertype.name ∧
      ∀ later, LeadsTo env after later → (env.force deferred.toTy later).1 =
        (env.convertArgs item supertype).map (.reference supertype.item supertype.name) := by
  have sound := (collecting_of_reached constructed reached).1.sound
  have agree := (runs_clauseReference sound inside written).good
  rw [denotes] at agree
  rcases ran : env.clauseReference item written session with ⟨outcome, after⟩
  rw [ran] at agree
  cases agree with
  | @value _ deferred given =>
      have asked : after.Reached env := reached.answered (.clause item written) inside rfl ran
      refine ⟨deferred, after, rfl, given.item, given.name, ?_⟩
      intro later onward
      have kept := extends_of_leadsTo constructed asked onward
      have fits : deferred.toTy.Fits later.cells := (given.mono kept).fits
      rw [force_of_reached constructed (asked.leadsTo onward) fits, forced_of_instance given]

/-! ## Agreement -/

/-- Deferred and eager conversion of a class type agree in every session that
questions lead to.  A type that converts to a reference is deferred as a reference
to the same item, which is forced to the converted reference however much later.
As soon as the dotted text denotes an item, what the deferred reference is forced
to, a type or a fault, is the outcome of the conversion.  If it denotes a type
parameter, the conversion gives its variable, which no clause can name. -/
theorem deferral_agrees (constructed : env.Constructed) (reached : session.Reached env)
    (inside : item < env.tree.size) (written : ClassExpr) :
    (∀ reference : Reference, (env.convert item (.named written)).outcome = .ok reference.toTy →
      ∃ deferred after, env.clauseReference item written session = (.ok deferred, after) ∧
        deferred.item = reference.item ∧ deferred.name = reference.name ∧
        ∀ later, LeadsTo env after later →
          (env.force deferred.toTy later).1 = .ok reference.toTy) ∧
    (∀ id, (env.lookup (.body item) written.dotted).outcome = .ok (some (.item id)) →
      ∃ deferred after, env.clauseReference item written session = (.ok deferred, after) ∧
        ∀ later, LeadsTo env after later →
          (env.force deferred.toTy later).1 = (env.convert item (.named written)).outcome) ∧
    ∀ param, (env.lookup (.body item) written.dotted).outcome = .ok (some (.parameter param)) →
      (env.convert item (.named written)).outcome = .ok (.typeVar (env.tree.variableOf param)) ∧
      (env.clauseReference item written session).1 =
        .error (.unresolvedAncestor written.name) := by
  constructor
  · intro reference converts
    rcases denotes_of_convert converts with ⟨denotes, named⟩
    obtain ⟨deferred, after, ran, sameItem, sameName, forces⟩ :=
      exists_clauseReference constructed reached inside (outcome_clauseSupertype_of_item denotes)
    refine ⟨deferred, after, ran, sameItem, sameName.trans named.symm, ?_⟩
    intro later onward
    rw [forces later onward, ← converts, outcome_convert_of_item denotes]
  constructor
  · intro id denotes
    obtain ⟨deferred, after, ran, _, _, forces⟩ :=
      exists_clauseReference constructed reached inside (outcome_clauseSupertype_of_item denotes)
    refine ⟨deferred, after, ran, ?_⟩
    intro later onward
    rw [forces later onward, outcome_convert_of_item denotes]
  · intro param denotes
    refine ⟨outcome_convert_of_parameter denotes, ?_⟩
    have sound := (collecting_of_reached constructed reached).1.sound
    have agree := (runs_clauseReference sound inside written).good
    rw [outcome_clauseSupertype_of_parameter denotes] at agree
    generalize (env.clauseReference item written session).1 = outcome at agree
    cases agree
    rfl

/-- A generic class with a generic member type. -/
def boxedCells : Environment :=
  selfContained ((DeclTree.libraryWith "demo"
    [{ TypeDecl.empty .classType "Box" with typeParams := [⟨"T", []⟩] }]).addMember 10
      { TypeDecl.empty .interfaceType "Cell" with typeParams := [⟨"K", []⟩, ⟨"V", []⟩] })

/-- The member type with an array of boxes and a wildcard. -/
def writtenCell : ClassExpr :=
  .within (.within (.simple "demo" none) "Box" (some [.ofDotted "String"])) "Cell"
    (some [.array (.named (.simple "Box" (some [.ofDotted "T"]))),
      .lowerBounded (.ofDotted "Gone")])

/-- The session in which the ancestors of the class have been asked for. -/
def boxAsked : Session :=
  ((Question.allAncestors (.item 10) true).ask boxedCells .start).2

/-- The wildcard of the member type is bounded by a class that does not exist. -/
theorem deferral_agrees_boxedCells :
    boxedCells.Constructed ∧ boxAsked.Reached boxedCells ∧ 10 < boxedCells.tree.size ∧
    (∃ deferred after, boxedCells.clauseReference 10 writtenCell boxAsked = (.ok deferred, after) ∧
      (boxedCells.force deferred.toTy after).1 = .error (.unresolvedSymbol "Gone")) ∧
    (∃ deferred after,
      boxedCells.clauseReference 10 (.simple "Box" (some [.ofDotted "T"])) boxAsked =
        (.ok deferred, after) ∧ deferred.item = 10 ∧ deferred.name = "demo.Box" ∧
      (boxedCells.force deferred.toTy after).1 =
        .ok (.reference 10 "demo.Box" [.typeVar (boxedCells.tree.variableOf ⟨.type 10, 0⟩)])) ∧
    (boxedCells.clauseReference 10 (.simple "T" none) boxAsked).1 =
      .error (.unresolvedAncestor "T") := by
  have constructed : boxedCells.Constructed :=
    constructed_selfContained
      (.addMember (DeclTree.grownFrom_libraryWith _ _) _ _ (by decide +kernel))
  have inside : 10 < boxedCells.tree.size := by decide +kernel
  have reached : boxAsked.Reached boxedCells := .asked .start (.allAncestors (.item 10) true) inside
  have agrees := deferral_agrees constructed reached inside
  have isCell : (boxedCells.lookup (.body 10) writtenCell.dotted).outcome =
      .ok (some (.item 11)) := by decide +kernel
  have failed : (boxedCells.convert 10 (.named writtenCell)).outcome =
      .error (.unresolvedSymbol "Gone") := rfl
  have converts : (boxedCells.convert 10 (.named (.simple "Box" (some [.ofDotted "T"])))).outcome =
      .ok (Reference.mk 10 "demo.Box"
        [.typeVar (boxedCells.tree.variableOf ⟨.type 10, 0⟩)]).toTy := rfl
  have isVariable : (boxedCells.lookup (.body 10) "T").outcome =
      .ok (some (.parameter ⟨.type 10, 0⟩)) := by decide +kernel
  obtain ⟨deferred, after, ran, forces⟩ := (agrees writtenCell).2.1 11 isCell
  obtain ⟨box, later, ranBox, sameItem, sameName, forcesBox⟩ := (agrees _).1 _ converts
  refine ⟨constructed, reached, inside, ⟨deferred, after, ran, ?_⟩,
    ⟨box, later, ranBox, sameItem, sameName, forcesBox later .refl⟩,
    ((agrees (.simple "T" none)).2.2 _ isVariable).2⟩
  rw [forces after .refl, failed]

end Environment

end JavaSymbols

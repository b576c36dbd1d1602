import JavaSymbols.Supertype

/-!
# Conversion puts nothing off

A written type is converted at once and as a whole.  Wherever it is written, and
whether or not that place is in the tree, what comes out has no deferred parts.
-/

namespace JavaSymbols

namespace Traced

variable {α β : Type} {good : α → Prop} {fine : β → Prop}

/-- The value of a computation, if it has one, is as told. -/
def Yields (run : Traced α) (good : α → Prop) : Prop :=
  ∀ value, run.outcome = .ok value → good value

theorem yields_pure {value : α} (holds : good value) : (pure value : Traced α).Yields good := by
  rintro _ ⟨⟩
  exact holds

theorem yields_fail (fault : Fault) : (fail fault : Traced α).Yields good := by
  rintro _ ⟨⟩

theorem Yields.bind {first : Traced α} {next : α → Traced β} (head : first.Yields good)
    (tail : ∀ value, good value → (next value).Yields fine) : (first >>= next).Yields fine := by
  intro value done
  rw [outcome_bind] at done
  cases reached : first.outcome with
  | error fault => simp [reached, Except.bind] at done
  | ok middle =>
      rw [reached] at done
      exact tail middle (head middle reached) value done

/-- One computation after another, when the value of the first does not matter. -/
theorem yields_after {first : Traced α} {next : α → Traced β}
    (tail : ∀ value, (next value).Yields fine) : (first >>= next).Yields fine := by
  have anything : first.Yields fun _ => True := fun _ _ => trivial
  exact anything.bind fun value _ => tail value

theorem Yields.attempt {run : Traced α} (yields : run.Yields good) :
    run.attempt.Yields fun outcome => ∀ value, outcome = .ok value → good value := by
  rintro _ ⟨⟩
  exact yields

theorem yields_mapM {query : α → Traced β} (each : ∀ entry, (query entry).Yields fine)
    (entries : List α) :
    (entries.mapM query).Yields fun values => ∀ value ∈ values, fine value := by
  induction entries with
  | nil =>
      rw [List.mapM_nil]
      exact yields_pure (by simp)
  | cons entry rest ih =>
      rw [List.mapM_cons]
      refine (each entry).bind ?_
      intro value holds
      refine ih.bind ?_
      intro values all
      exact yields_pure (List.forall_mem_cons.mpr ⟨holds, all⟩)

end Traced

/-- A reference without deferred parts. -/
def Reference.Eager (reference : Reference) : Prop :=
  Ty.allEager reference.args = true

theorem Ty.eager_of_reference? {type : Ty} {reference : Reference} (eager : type.isEager = true)
    (refers : type.reference? = some reference) : reference.Eager := by
  cases type with
  | reference item name args =>
      cases refers
      exact eager
  | _ => cases refers

namespace Environment

open Traced

variable (env : Environment)

/-! ## Converted types -/

theorem eager_classTypeNamed (site : TypeSite) (name : String) {args : Traced (List Ty)}
    (eagerArgs : args.Yields fun types => Ty.allEager types = true) :
    (env.classTypeNamed site name args).Yields fun type => type.isEager = true := by
  refine yields_after ?_
  intro found
  cases found with
  | none => exact yields_fail _
  | some decl =>
      cases decl with
      | parameter param => exact yields_pure rfl
      | item id =>
          refine eagerArgs.bind ?_
          intro types eager
          exact yields_pure eager

mutual

/-- A converted type has no deferred parts. -/
theorem eager_convertAt (site : TypeSite) :
    (type : TypeExpr) → (env.convertAt site type).Yields fun value => value.isEager = true
  | .primitive _ => yields_pure rfl
  | .void => yields_pure rfl
  | .named type => eager_convertClassAt site type
  | .array component => (eager_convertAt site component).bind fun _ eager => yields_pure eager
  | .wildcard => yields_pure rfl
  | .upperBounded bound => (eager_convertAt site bound).bind fun _ eager => yields_pure eager
  | .lowerBounded bound => (eager_convertAt site bound).bind fun _ eager => yields_pure eager

theorem eager_convertClassAt (site : TypeSite) :
    (type : ClassExpr) → (env.convertClassAt site type).Yields fun value => value.isEager = true
  | .simple name args => by
      unfold convertClassAt
      split
      · exact yields_pure rfl
      · exact env.eager_classTypeNamed site name (eager_convertArgumentsAt site args)
  | .within scope name args => by
      unfold convertClassAt
      exact env.eager_classTypeNamed site _ (eager_convertArgumentsAt site args)

theorem eager_convertArgumentsAt (site : TypeSite) :
    (args : Option (List TypeExpr)) →
      (env.convertArgumentsAt site args).Yields fun types => Ty.allEager types = true
  | none => yields_pure rfl
  | some args => eager_convertAllAt site args

theorem eager_convertAllAt (site : TypeSite) :
    (types : List TypeExpr) →
      (env.convertAllAt site types).Yields fun values => Ty.allEager values = true
  | [] => yields_pure rfl
  | type :: rest =>
      (eager_convertAt site type).bind fun _ head =>
        (eager_convertAllAt site rest).bind fun _ tail =>
          yields_pure (by rw [Ty.allEager, head, tail, Bool.true_and])

end

/-! ## Bounds -/

/-- The references among bounds have no deferred parts. -/
theorem eager_admitBounds (site : TypeSite) (lenient : Bool) (bounds : List ClassExpr) :
    (env.admitBounds site lenient bounds).Yields fun found =>
      ∀ reference ∈ found, reference.Eager := by
  induction bounds with
  | nil => exact yields_pure (by simp)
  | cons bound rest ih =>
      rw [admitBounds]
      refine (env.eager_convertClassAt site bound).attempt.bind ?_
      intro outcome eager
      cases outcome with
      | ok type =>
          refine ih.bind ?_
          intro more eagerMore
          refine yields_pure ?_
          intro reference member
          rcases List.mem_append.mp member with own | later
          · exact Ty.eager_of_reference? (eager type rfl) (Option.mem_toList.mp own)
          · exact eagerMore reference later
      | error fault =>
          dsimp only
          split
          · exact yields_after fun _ => ih
          · exact yields_fail fault

/-- The direct supertypes of a type parameter have no deferred parts. -/
theorem eager_supertypesOfParameter (param : TypeParameter) (lenient : Bool) :
    (env.supertypesOfParameter param lenient).Yields fun found =>
      ∀ reference ∈ found, reference.Eager := by
  refine (env.eager_admitBounds param.owner.typeSite lenient _).bind ?_
  intro found eager
  refine yields_pure ?_
  split
  · intro reference member
    rw [List.mem_singleton.mp member]
    rfl
  · exact eager

theorem eager_referenceBoundsOf (param : TypeParameter) :
    (env.referenceBoundsOf param).Yields fun found => ∀ reference ∈ found, reference.Eager := by
  refine (yields_mapM (env.eager_convertClassAt param.owner.typeSite) _).bind ?_
  intro bounds eager
  refine yields_pure ?_
  intro reference member
  obtain ⟨bound, listed, refers⟩ := List.mem_filterMap.mp member
  exact Ty.eager_of_reference? (eager bound listed) refers

end Environment

end JavaSymbols

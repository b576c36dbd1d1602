import JavaSymbols.Ty.View

/-!
# Substitution along several views

Seeing a type through one reference and then through another is seeing it
through the first reference as the second shows it.  This holds as long as the
type does not mention variables of the outer declaration: such a variable stays
as it is in the one order, and is bound in the other.
-/

namespace JavaSymbols

namespace Ty

/-! ## Variables of a type -/

mutual

/-- Every type variable in a type is an allowed one. -/
def VarsIn (allowed : TypeVar → Prop) : Ty → Prop
  | typeVar var => allowed var
  | reference _ _ args => AllVarsIn allowed args
  | array component => component.VarsIn allowed
  | upperBounded bound => bound.VarsIn allowed
  | lowerBounded bound => bound.VarsIn allowed
  | primitive _ => True
  | void => True
  | null => True
  | wildcard => True
  | deferred _ _ _ => True

/-- Every type variable in some types is an allowed one. -/
def AllVarsIn (allowed : TypeVar → Prop) : List Ty → Prop
  | [] => True
  | type :: rest => type.VarsIn allowed ∧ AllVarsIn allowed rest

end

mutual

/-- The type variables in a type, from left to right. -/
def vars : Ty → List TypeVar
  | typeVar var => [var]
  | reference _ _ args => allVars args
  | array component => component.vars
  | upperBounded bound => bound.vars
  | lowerBounded bound => bound.vars
  | primitive _ => []
  | void => []
  | null => []
  | wildcard => []
  | deferred _ _ _ => []

/-- The type variables in some types. -/
def allVars : List Ty → List TypeVar
  | [] => []
  | type :: rest => type.vars ++ allVars rest

end

variable {allowed other : TypeVar → Prop} {first second : TypeVar → Option Ty}

theorem allVarsIn_iff {types : List Ty} :
    AllVarsIn allowed types ↔ ∀ type ∈ types, type.VarsIn allowed := by
  induction types with
  | nil => simp [AllVarsIn]
  | cons type rest ih => simp [AllVarsIn, ih]

mutual

theorem varsIn_iff : (type : Ty) → (type.VarsIn allowed ↔ ∀ var ∈ type.vars, allowed var)
  | typeVar var => by simp [VarsIn, vars]
  | reference _ _ args => allVarsIn_iff_vars args
  | array component => varsIn_iff component
  | upperBounded bound => varsIn_iff bound
  | lowerBounded bound => varsIn_iff bound
  | primitive _ => by simp [VarsIn, vars]
  | void => by simp [VarsIn, vars]
  | null => by simp [VarsIn, vars]
  | wildcard => by simp [VarsIn, vars]
  | deferred _ _ _ => by simp [VarsIn, vars]

theorem allVarsIn_iff_vars : (types : List Ty) →
    (AllVarsIn allowed types ↔ ∀ var ∈ allVars types, allowed var)
  | [] => by simp [AllVarsIn, allVars]
  | type :: rest => by
      rw [AllVarsIn, allVars, List.forall_mem_append, varsIn_iff type, allVarsIn_iff_vars rest]

end

mutual

theorem VarsIn.mono (weaken : ∀ var, allowed var → other var) :
    (type : Ty) → type.VarsIn allowed → type.VarsIn other
  | typeVar var, within => weaken var within
  | reference _ _ args, within => AllVarsIn.mono weaken args within
  | array component, within => VarsIn.mono weaken component within
  | upperBounded bound, within => VarsIn.mono weaken bound within
  | lowerBounded bound, within => VarsIn.mono weaken bound within
  | primitive _, _ => trivial
  | void, _ => trivial
  | null, _ => trivial
  | wildcard, _ => trivial
  | deferred _ _ _, _ => trivial

theorem AllVarsIn.mono (weaken : ∀ var, allowed var → other var) :
    (types : List Ty) → AllVarsIn allowed types → AllVarsIn other types
  | [], _ => trivial
  | type :: rest, within =>
      ⟨VarsIn.mono weaken type within.1, AllVarsIn.mono weaken rest within.2⟩

end

mutual

theorem VarsIn.and : (type : Ty) → type.VarsIn allowed → type.VarsIn other →
    type.VarsIn fun var => allowed var ∧ other var
  | typeVar _, within, also => ⟨within, also⟩
  | reference _ _ args, within, also => AllVarsIn.and args within also
  | array component, within, also => VarsIn.and component within also
  | upperBounded bound, within, also => VarsIn.and bound within also
  | lowerBounded bound, within, also => VarsIn.and bound within also
  | primitive _, _, _ => trivial
  | void, _, _ => trivial
  | null, _, _ => trivial
  | wildcard, _, _ => trivial
  | deferred _ _ _, _, _ => trivial

theorem AllVarsIn.and : (types : List Ty) → AllVarsIn allowed types → AllVarsIn other types →
    AllVarsIn (fun var => allowed var ∧ other var) types
  | [], _, _ => trivial
  | type :: rest, within, also =>
      ⟨VarsIn.and type within.1 also.1, AllVarsIn.and rest within.2 also.2⟩

end

mutual

/-- Replacing variables leaves those that the replacements bring in. -/
theorem VarsIn.substitute (replaced : ∀ var, allowed var →
      ((first var).getD (typeVar var)).VarsIn other) :
    (type : Ty) → type.VarsIn allowed → (type.substitute first).VarsIn other
  | typeVar var, within => replaced var within
  | reference _ _ args, within => AllVarsIn.substitute replaced args within
  | array component, within => VarsIn.substitute replaced component within
  | upperBounded bound, within => VarsIn.substitute replaced bound within
  | lowerBounded bound, within => VarsIn.substitute replaced bound within
  | primitive _, _ => trivial
  | void, _ => trivial
  | null, _ => trivial
  | wildcard, _ => trivial
  | deferred _ _ _, _ => trivial

theorem AllVarsIn.substitute (replaced : ∀ var, allowed var →
      ((first var).getD (typeVar var)).VarsIn other) :
    (types : List Ty) → AllVarsIn allowed types → AllVarsIn other (substituteAll first types)
  | [], _ => trivial
  | type :: rest, within =>
      ⟨VarsIn.substitute replaced type within.1, AllVarsIn.substitute replaced rest within.2⟩

end

/-! ## Laws of substitution -/

mutual

/-- Only the variables that occur in a type matter. -/
theorem substitute_congr (agree : ∀ var, allowed var →
      (first var).getD (typeVar var) = (second var).getD (typeVar var)) :
    (type : Ty) → type.VarsIn allowed → type.substitute first = type.substitute second
  | typeVar var, within => agree var within
  | reference item name args, within => by
      rw [Ty.substitute, Ty.substitute, substituteAll_congr agree args within]
  | array component, within => by
      rw [Ty.substitute, Ty.substitute, substitute_congr agree component within]
  | upperBounded bound, within => by
      rw [Ty.substitute, Ty.substitute, substitute_congr agree bound within]
  | lowerBounded bound, within => by
      rw [Ty.substitute, Ty.substitute, substitute_congr agree bound within]
  | primitive _, _ => rfl
  | void, _ => rfl
  | null, _ => rfl
  | wildcard, _ => rfl
  | deferred _ _ _, _ => rfl

theorem substituteAll_congr (agree : ∀ var, allowed var →
      (first var).getD (typeVar var) = (second var).getD (typeVar var)) :
    (types : List Ty) → AllVarsIn allowed types →
      substituteAll first types = substituteAll second types
  | [], _ => rfl
  | type :: rest, within => by
      rw [substituteAll, substituteAll, substitute_congr agree type within.1,
        substituteAll_congr agree rest within.2]

end

mutual

theorem substitute_none : (type : Ty) → type.substitute (fun _ => none) = type
  | typeVar _ => rfl
  | reference item name args => by rw [Ty.substitute, substituteAll_none args]
  | array component => by rw [Ty.substitute, substitute_none component]
  | upperBounded bound => by rw [Ty.substitute, substitute_none bound]
  | lowerBounded bound => by rw [Ty.substitute, substitute_none bound]
  | primitive _ => rfl
  | void => rfl
  | null => rfl
  | wildcard => rfl
  | deferred _ _ _ => rfl

theorem substituteAll_none : (types : List Ty) → substituteAll (fun _ => none) types = types
  | [] => rfl
  | type :: rest => by rw [substituteAll, substitute_none type, substituteAll_none rest]

end

mutual

/-- Two substitutions one after the other are one substitution. -/
theorem substitute_substitute : (type : Ty) →
    (type.substitute first).substitute second =
      type.substitute fun var => some (((first var).getD (typeVar var)).substitute second)
  | typeVar _ => rfl
  | reference item name args => by
      rw [Ty.substitute, Ty.substitute, Ty.substitute, substituteAll_substituteAll args]
  | array component => by
      rw [Ty.substitute, Ty.substitute, Ty.substitute, substitute_substitute component]
  | upperBounded bound => by
      rw [Ty.substitute, Ty.substitute, Ty.substitute, substitute_substitute bound]
  | lowerBounded bound => by
      rw [Ty.substitute, Ty.substitute, Ty.substitute, substitute_substitute bound]
  | primitive _ => rfl
  | void => rfl
  | null => rfl
  | wildcard => rfl
  | deferred _ _ _ => rfl

theorem substituteAll_substituteAll : (types : List Ty) →
    substituteAll second (substituteAll first types) =
      substituteAll (fun var => some (((first var).getD (typeVar var)).substitute second)) types
  | [] => rfl
  | type :: rest => by
      rw [substituteAll, substituteAll, substituteAll, substitute_substitute type,
        substituteAll_substituteAll rest]

end

mutual

/-- Eager replacements leave an eager type eager. -/
theorem isEager_substitute (eager : ∀ var type, first var = some type → type.isEager = true) :
    (type : Ty) → type.isEager = true → (type.substitute first).isEager = true
  | typeVar var, _ => by
      rw [Ty.substitute]
      cases bound : first var with
      | none => rfl
      | some type => exact eager var type bound
  | reference _ _ args, isEager => allEager_substituteAll eager args isEager
  | array component, isEager => isEager_substitute eager component isEager
  | upperBounded bound, isEager => isEager_substitute eager bound isEager
  | lowerBounded bound, isEager => isEager_substitute eager bound isEager
  | deferred _ _ _, isEager => isEager
  | primitive _, _ => rfl
  | void, _ => rfl
  | null, _ => rfl
  | wildcard, _ => rfl

theorem allEager_substituteAll (eager : ∀ var type, first var = some type → type.isEager = true) :
    (types : List Ty) → allEager types = true → allEager (substituteAll first types) = true
  | [], _ => rfl
  | type :: rest, isEager => by
      rw [allEager, Bool.and_eq_true] at isEager
      rw [substituteAll, allEager, isEager_substitute eager type isEager.1,
        allEager_substituteAll eager rest isEager.2]
      rfl

end

end Ty

namespace Reference

/-! ## Views without cells -/

variable {view reference : Reference} {type : Ty}

/-- An eager type written in terms of a declaration's type parameters, as seen
through a use of the declaration. -/
def instantiate (view : Reference) (type : Ty) : Ty :=
  type.substitute view.binding

/-- A raw use binds no variable. -/
theorem binding_of_isRaw (raw : view.isRaw = true) : view.binding = fun _ => none := by
  have nothing : view.args = [] := List.isEmpty_iff.mp raw
  funext var
  simp [binding, nothing]

/-- Cells play no part for eager types. -/
theorem apply_eq_instantiate (cells : Cells) (eager : type.isEager = true) :
    view.apply cells type = view.instantiate type := by
  unfold apply instantiate
  rw [Ty.settle_eq_self cells type eager]
  split
  · next raw => rw [binding_of_isRaw raw, Ty.substitute_none]
  · rfl

/-- What a use binds a variable to is one of its arguments. -/
theorem mem_args_of_binding {var : TypeVar} {argument : Ty}
    (bound : view.binding var = some argument) : argument ∈ view.args := by
  unfold binding at bound
  split at bound
  · exact List.mem_of_getElem? bound
  · cases bound

theorem isEager_instantiate (viewEager : Ty.allEager view.args = true)
    (eager : type.isEager = true) : (view.instantiate type).isEager = true := by
  apply Ty.isEager_substitute _ type eager
  intro var argument bound
  rw [Ty.allEager_eq_all, List.all_eq_true] at viewEager
  exact viewEager argument (mem_args_of_binding bound)

/-- Seen through a use, a type has the variables of the use's arguments and some
of its own. -/
theorem varsIn_instantiate {allowed : TypeVar → Prop}
    (argsWithin : ∀ argument ∈ view.args, argument.VarsIn allowed)
    (within : type.VarsIn allowed) : (view.instantiate type).VarsIn allowed := by
  apply Ty.VarsIn.substitute _ type within
  intro var isAllowed
  cases bound : view.binding var with
  | none => exact isAllowed
  | some argument => exact argsWithin argument (mem_args_of_binding bound)

/-- The arguments of a reference as a view shows them. -/
theorem args_through (cells : Cells) (argsEager : Ty.allEager reference.args = true) :
    (reference.through cells view).args = reference.args.map view.instantiate := by
  apply List.map_congr_left
  intro argument member
  rw [Ty.allEager_eq_all, List.all_eq_true] at argsEager
  exact apply_eq_instantiate cells (argsEager argument member)

/-- Seeing a type through a reference and then through another is seeing it
through the first as the second shows it, when the first binds all variables of
the second one's declaration that the type mentions. -/
theorem instantiate_through_of_bound (cells : Cells)
    (argsEager : Ty.allEager reference.args = true)
    (within : type.VarsIn fun var => var.owner = .type view.item →
      var.owner = .type reference.item ∧ var.index < reference.args.length) :
    (reference.through cells view).instantiate type =
      view.instantiate (reference.instantiate type) := by
  unfold instantiate
  rw [Ty.substitute_substitute]
  apply Ty.substitute_congr _ type within
  intro var bound
  have stays (free : ¬ (var.owner = .type reference.item ∧ var.index < reference.args.length)) :
      (Ty.typeVar var).substitute view.binding = .typeVar var := by
    rw [Ty.substitute, binding, if_neg fun owned => free (bound owned), Option.getD_none]
  by_cases owned : var.owner = .type reference.item
  · rw [binding, binding, item_through, if_pos owned, if_pos owned,
      args_through cells argsEager, List.getElem?_map]
    cases given : reference.args[var.index]? with
    | none =>
        have beyond := List.getElem?_eq_none_iff.mp given
        exact (stays fun both => Nat.not_lt_of_le beyond both.2).symm
    | some argument => rfl
  · rw [binding, binding, item_through, if_neg owned, if_neg owned]
    exact (stays fun both => owned both.1).symm

/-- In particular, the type may mention no variable of the second one's
declaration. -/
theorem instantiate_through (cells : Cells) (argsEager : Ty.allEager reference.args = true)
    (within : type.VarsIn fun var => var.owner ≠ .type view.item) :
    (reference.through cells view).instantiate type =
      view.instantiate (reference.instantiate type) :=
  instantiate_through_of_bound cells argsEager
    (Ty.VarsIn.mono (fun _ different owned => absurd owned different) type within)

/-! ## References seen through an optional use -/

/-- The arguments of a reference seen through another are eager if those of both
are. -/
theorem allEager_seenThrough {reference : Reference} {view : Option Reference}
    (eager : Ty.allEager reference.args = true)
    (viewEager : ∀ other, view = some other → Ty.allEager other.args = true) :
    Ty.allEager (reference.seenThrough view .empty).args = true := by
  cases view with
  | none => exact eager
  | some view =>
      rw [seenThrough, args_through .empty eager, Ty.allEager_eq_all,
        List.all_map, List.all_eq_true]
      intro argument member
      rw [Ty.allEager_eq_all, List.all_eq_true] at eager
      exact isEager_instantiate (viewEager view rfl) (eager argument member)

theorem item_seenThrough (reference : Reference) (view : Option Reference) (cells : Cells) :
    (reference.seenThrough view cells).item = reference.item := by
  cases view <;> rfl

theorem args_seenThrough (reference : Reference) (view : Option Reference) (cells : Cells) :
    (reference.seenThrough view cells).args = reference.args.map (Ty.seenThrough view cells) := by
  cases view with
  | none => exact (List.map_id _).symm
  | some view => rfl

/-- A reference with eager arguments is seen the same whatever the cells hold. -/
theorem seenThrough_eq_empty {reference : Reference} (view : Option Reference) (cells : Cells)
    (eager : Ty.allEager reference.args = true) :
    reference.seenThrough view cells = reference.seenThrough view .empty := by
  cases view with
  | none => rfl
  | some view =>
      have sameArgs :
          (reference.through cells view).args = (reference.through .empty view).args := by
        rw [args_through cells eager, args_through .empty eager]
      exact congrArg (Reference.mk reference.item reference.name) sameArgs

end Reference

end JavaSymbols

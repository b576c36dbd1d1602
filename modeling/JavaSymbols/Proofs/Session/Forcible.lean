import JavaSymbols.Proofs.Session.Forcing
import JavaSymbols.Proofs.Views.Substitution

/-!
# Types that can be forced

A type can be forced when its deferred parts resolve.  Seen through a use of a
declaration, a type can be forced if what is put in for its variables can be:
arguments that do not resolve do no harm where they are put in for nothing.
-/

namespace JavaSymbols.Environment

variable {env : Environment}

/-- Forcing the type gives a type of the tree. -/
def Forcible (env : Environment) (type : Ty) : Prop :=
  ∃ value, env.forced type = .ok value ∧ value.Within env.tree

/-- Forcing gives types of the tree. -/
def AllForcible (env : Environment) (types : List Ty) : Prop :=
  ∃ values, env.forcedAll types = .ok values ∧ Ty.AllWithin env.tree values

/-- A type of the tree has nothing to be forced. -/
theorem forcible_of_within {type : Ty} (within : type.Within env.tree) : env.Forcible type :=
  ⟨type, forced_of_isEager type within.isEager, within⟩

section

variable {bind : TypeVar → Option Ty} {allowed : TypeVar → Prop}

mutual

/-- Replacing variables by types that can be forced. -/
theorem forcible_substitute
    (replaced : ∀ var, allowed var → ∀ type, bind var = some type → env.Forcible type) :
    (type : Ty) → type.Within env.tree → type.VarsIn allowed → env.Forcible (type.substitute bind)
  | .typeVar var, within, isAllowed => by
      rw [Ty.substitute]
      cases bound : bind var with
      | none => exact forcible_of_within within
      | some type => exact replaced var isAllowed type bound
  | .reference item name args, within, allAllowed => by
      obtain ⟨values, forced, valuesWithin⟩ :=
        allForcible_substitute replaced args within.2 allAllowed
      exact ⟨.reference item name values, by rw [Ty.substitute, Environment.forced, forced]; rfl,
        within.1, valuesWithin⟩
  | .array component, within, allAllowed => by
      obtain ⟨value, forced, valueWithin⟩ :=
        forcible_substitute replaced component within allAllowed
      exact ⟨.array value, by rw [Ty.substitute, Environment.forced, forced]; rfl, valueWithin⟩
  | .upperBounded bound, within, allAllowed => by
      obtain ⟨value, forced, valueWithin⟩ := forcible_substitute replaced bound within allAllowed
      exact ⟨.upperBounded value, by rw [Ty.substitute, Environment.forced, forced]; rfl,
        valueWithin⟩
  | .lowerBounded bound, within, allAllowed => by
      obtain ⟨value, forced, valueWithin⟩ := forcible_substitute replaced bound within allAllowed
      exact ⟨.lowerBounded value, by rw [Ty.substitute, Environment.forced, forced]; rfl,
        valueWithin⟩
  | .primitive type, within, _ => ⟨.primitive type, rfl, within⟩
  | .void, within, _ => ⟨.void, rfl, within⟩
  | .null, within, _ => ⟨.null, rfl, within⟩
  | .wildcard, within, _ => ⟨.wildcard, rfl, within⟩
  | .deferred _ _ _, within, _ => within.elim

theorem allForcible_substitute
    (replaced : ∀ var, allowed var → ∀ type, bind var = some type → env.Forcible type) :
    (types : List Ty) → Ty.AllWithin env.tree types → Ty.AllVarsIn allowed types →
      env.AllForcible (Ty.substituteAll bind types)
  | [], _, _ => ⟨[], rfl, trivial⟩
  | type :: rest, within, allAllowed => by
      obtain ⟨value, forced, valueWithin⟩ :=
        forcible_substitute replaced type within.1 allAllowed.1
      obtain ⟨values, forcedRest, valuesWithin⟩ :=
        allForcible_substitute replaced rest within.2 allAllowed.2
      exact ⟨value :: values, by rw [Ty.substituteAll, forcedAll, forced, forcedRest]; rfl,
        valueWithin, valuesWithin⟩

end

end

end JavaSymbols.Environment

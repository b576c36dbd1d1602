import JavaSymbols.Proofs.Resolution.Confined
import JavaSymbols.Ty.View

/-!
# Types of a tree

A type belongs to a tree when it refers to items of the tree only, uses type
parameters of the tree only, and has no deferred parts.
-/

namespace JavaSymbols

namespace Ty

mutual

/-- Whether a type belongs to a tree. -/
def Within (tree : DeclTree) : Ty → Prop
  | reference item _ args => item < tree.size ∧ AllWithin tree args
  | typeVar var => tree.Declares (.parameter var.parameter)
  | array component => Within tree component
  | upperBounded bound => Within tree bound
  | lowerBounded bound => Within tree bound
  | deferred _ _ _ => False
  | primitive _ => True
  | void => True
  | null => True
  | wildcard => True

/-- Whether all types of a list belong to a tree. -/
def AllWithin (tree : DeclTree) : List Ty → Prop
  | [] => True
  | type :: rest => Within tree type ∧ AllWithin tree rest

end

variable {tree : DeclTree}

theorem allWithin_iff {types : List Ty} :
    AllWithin tree types ↔ ∀ type ∈ types, type.Within tree := by
  induction types with
  | nil => simp [AllWithin]
  | cons type rest ih => simp [AllWithin, ih]

mutual

theorem Within.isEager : (type : Ty) → type.Within tree → type.isEager = true
  | reference _ _ args, within => AllWithin.allEager args within.2
  | array component, within => Within.isEager component within
  | upperBounded bound, within => Within.isEager bound within
  | lowerBounded bound, within => Within.isEager bound within
  | deferred _ _ _, within => within.elim
  | typeVar _, _ => rfl
  | primitive _, _ => rfl
  | void, _ => rfl
  | null, _ => rfl
  | wildcard, _ => rfl

theorem AllWithin.allEager : (types : List Ty) → AllWithin tree types →
    Ty.allEager types = true
  | [], _ => rfl
  | type :: rest, within => by
      rw [Ty.allEager, Within.isEager type within.1, AllWithin.allEager rest within.2,
        Bool.true_and]

end

end Ty

end JavaSymbols

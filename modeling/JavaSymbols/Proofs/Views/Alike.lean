import Mathlib.Data.List.Forall2
import JavaSymbols.Proofs.Session.Forcing

/-!
# Types that differ in their cells

Two types are alike when they differ in the cells of their deferred parts alone.
Which cells correspond is said by a relation between a cell of the one type and a
cell of the other, given what both wait for.  Substitution, looking through cells
and forcing treat alike types alike.
-/

namespace JavaSymbols

namespace Ty

mutual

/-- Two types that are the same up to corresponding cells. -/
inductive Alike (linked : Nat → Nat → TypeExpr → ItemId → Prop) : Ty → Ty → Prop where
  | deferred {cell position : Nat} {source : TypeExpr} {site : ItemId}
      (corresponds : linked cell position source site) :
      Alike linked (.deferred cell source site) (.deferred position source site)
  | reference {item : ItemId} {name : String} {args others : List Ty}
      (alike : AllAlike linked args others) :
      Alike linked (.reference item name args) (.reference item name others)
  | array {type other : Ty} (alike : Alike linked type other) :
      Alike linked (.array type) (.array other)
  | upperBounded {type other : Ty} (alike : Alike linked type other) :
      Alike linked (.upperBounded type) (.upperBounded other)
  | lowerBounded {type other : Ty} (alike : Alike linked type other) :
      Alike linked (.lowerBounded type) (.lowerBounded other)
  | primitive (type : Primitive) : Alike linked (.primitive type) (.primitive type)
  | typeVar (var : TypeVar) : Alike linked (.typeVar var) (.typeVar var)
  | void : Alike linked .void .void
  | null : Alike linked .null .null
  | wildcard : Alike linked .wildcard .wildcard

/-- Two lists of alike types. -/
inductive AllAlike (linked : Nat → Nat → TypeExpr → ItemId → Prop) :
    List Ty → List Ty → Prop where
  | nil : AllAlike linked [] []
  | cons {type other : Ty} {types others : List Ty} (head : Alike linked type other)
      (tail : AllAlike linked types others) : AllAlike linked (type :: types) (other :: others)

end

variable {linked other : Nat → Nat → TypeExpr → ItemId → Prop}

theorem allAlike_iff {types others : List Ty} :
    AllAlike linked types others ↔ List.Forall₂ (Alike linked) types others := by
  constructor
  · intro alike
    induction types generalizing others with
    | nil =>
        cases alike
        exact .nil
    | cons type rest ih =>
        cases alike with
        | cons head tail => exact .cons head (ih tail)
  · intro pairs
    induction pairs with
    | nil => exact .nil
    | cons head _ ih => exact .cons head ih

mutual

/-- A type without deferred parts is like itself. -/
theorem alike_self : (type : Ty) → type.isEager = true → type.Alike linked type
  | reference _ _ args, eager => .reference (allAlike_self args eager)
  | array component, eager => .array (alike_self component eager)
  | upperBounded bound, eager => .upperBounded (alike_self bound eager)
  | lowerBounded bound, eager => .lowerBounded (alike_self bound eager)
  | deferred _ _ _, eager => by simp [isEager] at eager
  | primitive type, _ => .primitive type
  | typeVar var, _ => .typeVar var
  | void, _ => .void
  | null, _ => .null
  | wildcard, _ => .wildcard

theorem allAlike_self : (types : List Ty) → allEager types = true → AllAlike linked types types
  | [], _ => .nil
  | type :: rest, eager => by
      rw [allEager, Bool.and_eq_true] at eager
      exact .cons (alike_self type eager.1) (allAlike_self rest eager.2)

end

mutual

theorem Alike.mono (weaken : ∀ cell position source site, linked cell position source site →
    other cell position source site) {a b : Ty} : a.Alike linked b → a.Alike other b
  | .deferred corresponds => .deferred (weaken _ _ _ _ corresponds)
  | .reference alike => .reference (AllAlike.mono weaken alike)
  | .array alike => .array (Alike.mono weaken alike)
  | .upperBounded alike => .upperBounded (Alike.mono weaken alike)
  | .lowerBounded alike => .lowerBounded (Alike.mono weaken alike)
  | .primitive type => .primitive type
  | .typeVar var => .typeVar var
  | .void => .void
  | .null => .null
  | .wildcard => .wildcard

theorem AllAlike.mono (weaken : ∀ cell position source site, linked cell position source site →
    other cell position source site) {types others : List Ty} :
    AllAlike linked types others → AllAlike other types others
  | .nil => .nil
  | .cons head tail => .cons (Alike.mono weaken head) (AllAlike.mono weaken tail)

end

mutual

/-- Replacing variables by alike types. -/
theorem Alike.substitute {bind bindOther : TypeVar → Option Ty}
    (bound : ∀ var, Option.Rel (Alike linked) (bind var) (bindOther var)) {a b : Ty} :
    a.Alike linked b → (a.substitute bind).Alike linked (b.substitute bindOther)
  | .deferred corresponds => .deferred corresponds
  | .reference alike => .reference (AllAlike.substitute bound alike)
  | .array alike => .array (Alike.substitute bound alike)
  | .upperBounded alike => .upperBounded (Alike.substitute bound alike)
  | .lowerBounded alike => .lowerBounded (Alike.substitute bound alike)
  | .primitive type => .primitive type
  | .typeVar var => by
      have replaced := bound var
      rw [Ty.substitute, Ty.substitute]
      generalize bind var = first, bindOther var = second at replaced
      cases replaced with
      | some alike => exact alike
      | none => exact .typeVar var
  | .void => .void
  | .null => .null
  | .wildcard => .wildcard

theorem AllAlike.substitute {bind bindOther : TypeVar → Option Ty}
    (bound : ∀ var, Option.Rel (Alike linked) (bind var) (bindOther var))
    {types others : List Ty} : AllAlike linked types others →
      AllAlike linked (substituteAll bind types) (substituteAll bindOther others)
  | .nil => .nil
  | .cons head tail => .cons (Alike.substitute bound head) (AllAlike.substitute bound tail)

end

/-- Alike arguments are bound to the same variables. -/
theorem rel_binding {view twin : Reference} (sameItem : view.item = twin.item)
    (alike : AllAlike linked view.args twin.args) (var : TypeVar) :
    Option.Rel (Alike linked) (view.binding var) (twin.binding var) := by
  have pairs := allAlike_iff.mp alike
  unfold Reference.binding
  rw [sameItem]
  split
  · by_cases inside : var.index < view.args.length
    · have insideTwin : var.index < twin.args.length := pairs.length_eq ▸ inside
      rw [List.getElem?_eq_getElem inside, List.getElem?_eq_getElem insideTwin]
      exact .some (List.Forall₂.get pairs inside insideTwin)
    · have outsideTwin : ¬ var.index < twin.args.length := pairs.length_eq ▸ inside
      rw [List.getElem?_eq_none (Nat.le_of_not_lt inside),
        List.getElem?_eq_none (Nat.le_of_not_lt outsideTwin)]
      exact .none
  · exact .none

end Ty

namespace Environment

variable {env : Environment} {linked : Nat → Nat → TypeExpr → ItemId → Prop}

mutual

/-- Forcing depends on what deferred parts wait for, not on their cells. -/
theorem forced_of_alike {a b : Ty} : a.Alike linked b → env.forced a = env.forced b
  | .deferred _ => rfl
  | .reference alike => by rw [forced, forced, forcedAll_of_alike alike]
  | .array alike => by rw [forced, forced, forced_of_alike alike]
  | .upperBounded alike => by rw [forced, forced, forced_of_alike alike]
  | .lowerBounded alike => by rw [forced, forced, forced_of_alike alike]
  | .primitive _ => rfl
  | .typeVar _ => rfl
  | .void => rfl
  | .null => rfl
  | .wildcard => rfl

theorem forcedAll_of_alike {types others : List Ty} : Ty.AllAlike linked types others →
    env.forcedAll types = env.forcedAll others
  | .nil => rfl
  | .cons head tail => by
      rw [forcedAll, forcedAll, forced_of_alike head, forcedAll_of_alike tail]

end

end Environment

end JavaSymbols

import JavaSymbols.Proofs.Views.Substitution

/-!
# Composition of views

A type in which nothing is deferred can be seen through one reference and then
through another, or at once through the first reference as the second shows it.
Both are the same when the first reference binds every variable of a type
declaration that the type mentions, also when the two are uses of one declaration:
an argument that a view puts in for a variable is not seen through that view again.

Where a variable stands in a type is told by a path through the parts of the type.
-/

namespace JavaSymbols

namespace Ty

/-! ## Parts of a type -/

/-- The types that a type is made of. -/
def parts : Ty → List Ty
  | reference _ _ args => args
  | array component => [component]
  | upperBounded bound => [bound]
  | lowerBounded bound => [bound]
  | primitive _ => []
  | void => []
  | null => []
  | typeVar _ => []
  | wildcard => []
  | deferred _ _ _ => []

/-- The part of a type at the end of a path, a list of positions among parts. -/
def at? (type : Ty) : List Nat → Option Ty
  | [] => some type
  | position :: path => type.parts[position]?.bind fun part => part.at? path

variable {bind : TypeVar → Option Ty}

/-- Replacing variables replaces them in the parts. -/
theorem parts_substitute (type : Ty) (position : Nat) {part : Ty}
    (given : type.parts[position]? = some part) :
    (type.substitute bind).parts[position]? = some (part.substitute bind) := by
  have mapped (types : List Ty) (listed : types[position]? = some part) :
      (types.map (substitute bind))[position]? = some (part.substitute bind) := by
    rw [List.getElem?_map, listed, Option.map_some]
  cases type with
  | reference _ _ args =>
      rw [substitute, substituteAll_eq_map]
      exact mapped args given
  | array component => exact mapped [component] given
  | upperBounded bound => exact mapped [bound] given
  | lowerBounded bound => exact mapped [bound] given
  | _ => cases given

/-- Replacing variables replaces them at every place and moves no place. -/
theorem at?_substitute {part : Ty} (path : List Nat) :
    ∀ type : Ty, type.at? path = some part →
      (type.substitute bind).at? path = some (part.substitute bind) := by
  induction path with
  | nil =>
      rintro type ⟨⟩
      rfl
  | cons position path ih =>
      intro type reached
      obtain ⟨inner, given, onward⟩ := Option.bind_eq_some_iff.mp reached
      rw [at?, parts_substitute type position given, Option.bind_some]
      exact ih inner onward

end Ty

namespace Reference

/-! ## One view -/

variable {view reference : Reference} {type : Ty}

/-- What a use of a declaration puts in the place of a variable. -/
theorem substitute_typeVar_binding (view : Reference) (var : TypeVar) :
    (Ty.typeVar var).substitute view.binding =
      if var.owner = .type view.item then (view.args[var.index]?).getD (.typeVar var)
      else .typeVar var := by
  rw [Ty.substitute, binding]
  split <;> rfl

/-- A use of a declaration leaves types alone that mention none of its
parameters. -/
theorem instantiate_of_foreign (foreign : type.VarsIn fun var => var.owner ≠ .type view.item) :
    view.instantiate type = type := by
  have unbound : view.instantiate type = type.substitute fun _ => none := by
    apply Ty.substitute_congr _ type foreign
    intro var different
    rw [binding, if_neg different]
  rw [unbound, Ty.substitute_none]

/-! ## Two views -/

/-- Views compose.  A type without deferred parts, whose variables of types are
parameters that a reference binds, is seen through the reference and then through
another use of any declaration as it is seen through the reference that the other
one shows.  Seeing it through the reference is simultaneous: wherever a bound
parameter stands, there is then the argument itself, even if it mentions parameters
of the same declaration; other variables, those of methods among them, stay where
they are, and a type without parameters of the declaration stays as a whole. -/
theorem views_compose (cells : Cells) (reference view : Reference)
    (argsEager : Ty.allEager reference.args = true) {type : Ty} (eager : type.isEager = true) :
    ((type.VarsIn fun var => ∀ item, var.owner = .type item →
        item = reference.item ∧ var.index < reference.args.length) →
      view.apply cells (reference.apply cells type) =
        (reference.through cells view).apply cells type) ∧
    (∀ path var, type.at? path = some (.typeVar var) →
      (reference.apply cells type).at? path =
        some (if var.owner = .type reference.item then
          (reference.args[var.index]?).getD (.typeVar var) else .typeVar var)) ∧
    ((type.VarsIn fun var => var.owner ≠ .type reference.item) →
      reference.apply cells type = type) := by
  have seen : reference.apply cells type = reference.instantiate type :=
    apply_eq_instantiate cells eager
  refine ⟨?_, ?_, ?_⟩
  · intro owned
    have bound : type.VarsIn fun var => var.owner = .type view.item →
        var.owner = .type reference.item ∧ var.index < reference.args.length := by
      refine Ty.VarsIn.mono ?_ type owned
      intro var isOwn atView
      rcases isOwn view.item atView with ⟨same, below⟩
      exact ⟨same ▸ atView, below⟩
    calc
      view.apply cells (reference.apply cells type)
          = view.instantiate (reference.instantiate type) := by
            rw [seen, apply_eq_instantiate cells (isEager_instantiate argsEager eager)]
      _ = (reference.through cells view).instantiate type :=
            (instantiate_through_of_bound cells argsEager bound).symm
      _ = (reference.through cells view).apply cells type :=
            (apply_eq_instantiate cells eager).symm
  · intro path var stands
    rw [seen, ← substitute_typeVar_binding reference var]
    exact Ty.at?_substitute path type stands
  · intro foreign
    rw [seen]
    exact instantiate_of_foreign foreign

/-- The parameter of a generic class. -/
def boxParameter : Ty :=
  .typeVar ⟨.type 0, 0, "T"⟩

/-- A box of boxes of the parameter, as it is used in the body of the class. -/
def boxOfBoxes : Reference :=
  ⟨0, "Box", [.reference 0 "Box" [boxParameter]]⟩

/-- A box of arrays of the parameter, another use in the same body. -/
def boxOfArrays : Reference :=
  ⟨0, "Box", [.array boxParameter]⟩

/-- A pair of the parameter with what is a variable of a method. -/
def pairWithMethodVariable : Ty :=
  .reference 1 "Pair" [.upperBounded boxParameter, .typeVar ⟨.method 0 0, 0, "U"⟩]

/-- The parameter in an inserted argument is not replaced by the use that brought
it in, and is replaced by the other use. -/
theorem views_compose_boxes :
    (boxOfBoxes.apply .empty pairWithMethodVariable).at? [0, 0] =
      some (.reference 0 "Box" [boxParameter]) ∧
    boxOfArrays.apply .empty (boxOfBoxes.apply .empty pairWithMethodVariable) =
      (boxOfBoxes.through .empty boxOfArrays).apply .empty pairWithMethodVariable ∧
    (boxOfBoxes.through .empty boxOfArrays).args = [.reference 0 "Box" [.array boxParameter]] ∧
    boxOfBoxes.apply .empty (.typeVar ⟨.method 0 0, 0, "U"⟩) = .typeVar ⟨.method 0 0, 0, "U"⟩ := by
  have eager : pairWithMethodVariable.isEager = true := rfl
  have composes := views_compose .empty boxOfBoxes boxOfArrays rfl eager
  have owned : pairWithMethodVariable.VarsIn fun var => ∀ item, var.owner = .type item →
      item = boxOfBoxes.item ∧ var.index < boxOfBoxes.args.length := by
    refine ⟨?_, ?_, trivial⟩
    · rintro item ⟨⟩
      exact ⟨rfl, Nat.one_pos⟩
    · rintro item ⟨⟩
  have foreign : (Ty.typeVar ⟨.method 0 0, 0, "U"⟩).VarsIn fun var =>
      var.owner ≠ .type boxOfBoxes.item := nofun
  exact ⟨composes.2.1 [0, 0] ⟨.type 0, 0, "T"⟩ rfl, composes.1 owned, rfl,
    (views_compose .empty boxOfBoxes boxOfArrays rfl rfl).2.2 foreign⟩

end Reference

end JavaSymbols

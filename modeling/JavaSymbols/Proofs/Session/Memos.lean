import JavaSymbols.Proofs.Resolution.SelfContained
import JavaSymbols.Proofs.Session.Questions

/-!
# Cells as memos

Whatever questions a session has answered, a cell is empty or holds the
conversion of what it waits for, and it never changes once it is set.  Hence the
history of a session cannot be seen in what forcing a type gives.
-/

namespace JavaSymbols

namespace Cells

/-- A cell that is set holds the conversion of what it waits for, a type without
deferred parts; a cell whose conversion fails is empty. -/
def Faithful (env : Environment) (cells : Cells) : Prop :=
  ∀ (cell : Nat) (content : Cell), cells.all[cell]? = some content →
    (∀ type, content.value = some type →
      (env.convert content.site content.source).outcome = .ok type ∧ type.isEager = true) ∧
    ∀ fault, (env.convert content.site content.source).outcome = .error fault →
      content.value = none

theorem Sound.faithful {env : Environment} {cells : Cells} (wellFormed : env.tree.WellFormed)
    (sound : cells.Sound env) : cells.Faithful env := by
  intro cell content stored
  rcases sound cell content stored with ⟨inside, holds⟩
  constructor
  · intro type set
    exact ⟨holds type set, Environment.isEager_of_convert wellFormed inside (holds type set)⟩
  · intro fault failed
    cases set : content.value with
    | none => rfl
    | some type =>
        rw [holds type set] at failed
        cases failed

end Cells

/-! ## Sessions over time -/

namespace Session

variable {env : Environment} {old new : Session}

/-- One question leads from a session to the next. -/
def Step (env : Environment) (old new : Session) : Prop :=
  ∃ question : Question, question.Allowed env old ∧ (question.ask env old).2 = new

/-- Any number of questions lead from one session to another. -/
def LeadsTo (env : Environment) : Session → Session → Prop :=
  Relation.ReflTransGen (Step env)

theorem Reached.step (reached : old.Reached env) (step : Step env old new) : new.Reached env := by
  rcases step with ⟨question, allowed, rfl⟩
  exact reached.asked question allowed

theorem Reached.leadsTo (reached : old.Reached env) (onward : LeadsTo env old new) :
    new.Reached env := by
  induction onward with
  | refl => exact reached
  | tail _ step ih => exact ih.step step

/-- A question keeps every cell, and every type in a cell. -/
theorem extends_of_step (constructed : env.Constructed) (reached : old.Reached env)
    (step : Step env old new) : old.cells.Extends new.cells := by
  rcases step with ⟨question, allowed, rfl⟩
  rcases Environment.collecting_of_reached constructed reached with ⟨collecting, idle⟩
  have asked := Environment.runs_ask constructed collecting idle allowed
  exact asked.follows.collects.cells

/-- However many questions are asked, cells are kept. -/
theorem extends_of_leadsTo (constructed : env.Constructed) (reached : old.Reached env)
    (onward : LeadsTo env old new) : old.cells.Extends new.cells := by
  induction onward with
  | refl => exact .refl old.cells
  | tail early step ih =>
      exact ih.trans (extends_of_step constructed (reached.leadsTo early) step)

end Session

/-! ## Forcing does not depend on the history -/

namespace Environment

variable {env : Environment} {session : Session}

mutual

/-- What a type is when its deferred parts are converted does not depend on the
cells that these are in. -/
theorem forced_of_same : (type twin : Ty) → type.same twin = true →
    env.forced type = env.forced twin
  | .reference item name args, twin, same => by
      cases twin <;> simp only [Ty.same, Bool.and_eq_true, beq_iff_eq, Bool.false_eq_true] at same
      rcases same with ⟨⟨rfl, rfl⟩, sameArgs⟩
      rw [forced, forced, forcedAll_of_allSame args _ sameArgs]
  | .array component, twin, same => by
      cases twin <;> simp only [Ty.same, Bool.false_eq_true] at same
      rw [forced, forced, forced_of_same component _ same]
  | .upperBounded bound, twin, same => by
      cases twin <;> simp only [Ty.same, Bool.false_eq_true] at same
      rw [forced, forced, forced_of_same bound _ same]
  | .lowerBounded bound, twin, same => by
      cases twin <;> simp only [Ty.same, Bool.false_eq_true] at same
      rw [forced, forced, forced_of_same bound _ same]
  | .deferred cell source site, twin, same => by
      cases twin <;> simp only [Ty.same, Bool.and_eq_true, beq_iff_eq, Bool.false_eq_true] at same
      rcases same with ⟨rfl, rfl⟩
      rw [forced, forced]
  | .primitive type, twin, same => by
      cases twin <;> simp only [Ty.same, beq_iff_eq, Bool.false_eq_true] at same
      rw [same]
  | .typeVar var, twin, same => by
      cases twin <;> simp only [Ty.same, beq_iff_eq, Bool.false_eq_true] at same
      rw [same]
  | .void, twin, same => by
      cases twin <;> simp only [Ty.same, Bool.false_eq_true] at same
      rfl
  | .null, twin, same => by
      cases twin <;> simp only [Ty.same, Bool.false_eq_true] at same
      rfl
  | .wildcard, twin, same => by
      cases twin <;> simp only [Ty.same, Bool.false_eq_true] at same
      rfl

theorem forcedAll_of_allSame : (types twins : List Ty) → Ty.allSame types twins = true →
    env.forcedAll types = env.forcedAll twins
  | [], [], _ => rfl
  | type :: rest, twin :: others, same => by
      rw [Ty.allSame, Bool.and_eq_true] at same
      rw [forcedAll, forcedAll, forced_of_same type twin same.1,
        forcedAll_of_allSame rest others same.2]

end

/-- In a session that questions lead to, forcing a type gives the type with its
deferred parts converted. -/
theorem force_of_reached (constructed : env.Constructed) (reached : session.Reached env)
    {type : Ty} (fits : type.Fits session.cells) : (env.force type session).1 = env.forced type :=
  (runs_force constructed.wellFormed (collecting_of_reached constructed reached).1.sound type
    fits).good.1

/-- What has been forced has nothing left to force. -/
theorem force_bind_force (constructed : env.Constructed) (reached : session.Reached env)
    {type : Ty} (fits : type.Fits session.cells) :
    (env.force type >>= env.force) session = env.force type session := by
  have sound := (collecting_of_reached constructed reached).1.sound
  have outcome := force_of_reached constructed reached fits
  rw [Query.bind_apply]
  rcases ran : env.force type session with ⟨fault | value, after⟩
  · rfl
  · have converts : env.forced type = .ok value := by rw [← outcome, ran]
    have eager := isEager_of_forced constructed.wellFormed sound.cells type fits value converts
    exact congrFun (force_of_isEager value eager) after

/-- Cells are sound memos: in every session that questions lead to they are
faithful, and later questions keep what they hold.  So forcing a type gives what
its written parts say, whatever has been forced before; the result has no
deferred parts, forcing it again changes nothing, and types that compare equal
have equal results, also in different sessions. -/
theorem cells_memoize (constructed : env.Constructed) (reached : session.Reached env) :
    session.cells.Faithful env ∧
    (∀ later, Session.LeadsTo env session later → session.cells.Extends later.cells) ∧
    ∀ type : Ty, type.Fits session.cells →
      (env.force type session).1 = env.forced type ∧
      (∀ value, (env.force type session).1 = .ok value → value.isEager = true) ∧
      (env.force type >>= env.force) session = env.force type session ∧
      ∀ (other : Session) (twin : Ty), other.Reached env → twin.Fits other.cells →
        type.same twin = true → (env.force twin other).1 = (env.force type session).1 := by
  have sound := (collecting_of_reached constructed reached).1.sound
  constructor
  · exact sound.cells.faithful constructed.wellFormed
  constructor
  · intro later onward
    exact Session.extends_of_leadsTo constructed reached onward
  · intro type fits
    have outcome := force_of_reached constructed reached fits
    rw [outcome]
    constructor
    · rfl
    constructor
    · intro value converts
      exact isEager_of_forced constructed.wellFormed sound.cells type fits value converts
    constructor
    · exact force_bind_force constructed reached fits
    · intro other twin reachedOther fitsTwin same
      rw [force_of_reached constructed reachedOther fitsTwin]
      exact (forced_of_same type twin same).symm

/-- A class that extends a pair of itself and of a class that does not exist. -/
def pairOfUnknown : Environment :=
  selfContained (DeclTree.libraryWith "demo"
    [{ TypeDecl.empty .classType "Pair" with typeParams := [⟨"A", []⟩, ⟨"B", []⟩] },
      { TypeDecl.empty .classType "Leaf" with
        extended := [.simple "Pair"
          (some [.named (.simple "Leaf" none), .named (.simple "Gone" none)])] }])

/-- The pair as the supertype of the class, with both arguments deferred. -/
def deferredPair : Ty :=
  .reference 10 "demo.Pair"
    [.deferred 0 (.named (.simple "Leaf" none)) 11, .deferred 1 (.named (.simple "Gone" none)) 11]

/-- The session in which the supertypes of the class have been asked for. -/
def pairAsked : Session :=
  ((Question.ancestors (.item 11) true).ask pairOfUnknown .start).2

/-- The session in which the pair has been forced after that. -/
def pairForced : Session :=
  ((Question.force deferredPair).ask pairOfUnknown pairAsked).2

/-- Forcing the pair sets the first cell and leaves the second empty, since what
it waits for does not convert.  The fault is the same whether the first cell is
set. -/
theorem cells_memoize_pairOfUnknown :
    pairOfUnknown.Constructed ∧ pairForced.Reached pairOfUnknown ∧
    deferredPair.Fits pairForced.cells ∧
    pairAsked.cells.all.toList.map (fun cell => cell.value.isSome) = [false, false] ∧
    pairForced.cells.all.toList.map (fun cell => cell.value.isSome) = [true, false] ∧
    (pairOfUnknown.force deferredPair pairAsked).1.toBool = false ∧
    (pairOfUnknown.force deferredPair pairAsked).1 =
      (pairOfUnknown.force deferredPair pairForced).1 := by
  have constructed : pairOfUnknown.Constructed := constructed_libraryWith _ _
  have inside : 11 < pairOfUnknown.tree.size := by decide +kernel
  have asked : pairAsked.Reached pairOfUnknown := .asked .start (.ancestors (.item 11) true) inside
  have fitsAsked : deferredPair.Fits pairAsked.cells :=
    ⟨(by decide +kernel : pairAsked.cells.Holds 0 (.named (.simple "Leaf" none)) 11),
      (by decide +kernel : pairAsked.cells.Holds 1 (.named (.simple "Gone" none)) 11), trivial⟩
  have forced : pairForced.Reached pairOfUnknown := .asked asked (.force deferredPair) fitsAsked
  have later : pairAsked.cells.Extends pairForced.cells :=
    (cells_memoize constructed asked).2.1 pairForced
      (.single ⟨.force deferredPair, fitsAsked, rfl⟩)
  have fits : deferredPair.Fits pairForced.cells := fitsAsked.mono later
  have alike := ((cells_memoize constructed forced).2.2 deferredPair fits).2.2.2 pairAsked
    deferredPair asked fitsAsked (by simp)
  refine ⟨constructed, forced, fits, ?_, ?_, ?_, alike⟩
  · decide +kernel
  · decide +kernel
  · decide +kernel

end Environment

end JavaSymbols

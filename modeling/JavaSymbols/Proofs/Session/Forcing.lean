import JavaSymbols.Proofs.Outcomes
import JavaSymbols.Proofs.Session.Sound

/-!
# Forcing in a sound session

Forcing a type gives what the conversion of its deferred parts gives, whatever
cells are set.  Afterwards every initial part of a type list that converts has
all of its cells set.
-/

namespace JavaSymbols

namespace Environment

variable (env : Environment)

/-! ## Forcing without cells -/

mutual

/-- A type with every deferred part converted. -/
def forced : Ty → Except Fault Ty
  | .deferred _ source site => (env.convert site source).outcome
  | .reference item name args => do
      let args ← forcedAll args
      pure (.reference item name args)
  | .array component => do
      let component ← forced component
      pure (.array component)
  | .upperBounded bound => do
      let bound ← forced bound
      pure (.upperBounded bound)
  | .lowerBounded bound => do
      let bound ← forced bound
      pure (.lowerBounded bound)
  | .primitive type => pure (.primitive type)
  | .void => pure .void
  | .null => pure .null
  | .typeVar var => pure (.typeVar var)
  | .wildcard => pure .wildcard

/-- Types with every deferred part converted, from left to right. -/
def forcedAll : List Ty → Except Fault (List Ty)
  | [] => pure []
  | type :: rest => do
      let type ← forced type
      let rest ← forcedAll rest
      pure (type :: rest)

end

variable {env}

open Session

/-! ## Forcing with cells -/

/-- The cell of a type that has been forced is set. -/
theorem runs_forceCell {session : Session} (sound : session.Sound env) {cell : Nat}
    {source : TypeExpr} {site : ItemId} (held : session.cells.Holds cell source site) :
    Query.Runs (Sound env) Defers session (env.forceCell cell source site) fun after outcome =>
      outcome = (env.convert site source).outcome ∧
        ∀ type, outcome = .ok type → after.cells.get? cell = some type := by
  unfold forceCell
  refine Query.Runs.bind_cells ?_
  cases set : session.cells.get? cell with
  | some type =>
      refine Query.runs_pure sound ⟨(sound.cells.converts held set).symm, ?_⟩
      intro other same
      cases same
      exact set
  | none =>
      have converted : Query.Runs (Sound env) Defers session (env.convert site source : Query Ty)
          fun after outcome => after.cells = session.cells ∧
            outcome = (env.convert site source).outcome :=
        Query.runs_traced sound _ fun _ => ⟨rfl, rfl⟩
      refine converted.bind ?_ ?_
      · rintro after cause _ ⟨_, failed⟩
        exact ⟨failed, by simp⟩
      · rintro after type soundAfter _ ⟨sameCells, converts⟩
        have stored := Query.runs_settleCell soundAfter (sameCells ▸ held) (sameCells ▸ set)
          converts.symm
        refine stored.bind ?_ ?_
        · rintro last cause later ⟨failed, _⟩
          cases failed
        · rintro last _ soundLast _ ⟨_, isSet⟩
          refine Query.runs_pure soundLast ⟨converts, ?_⟩
          intro other same
          cases same
          exact isSet

mutual

/-- A type without deferred parts is what forcing it gives. -/
theorem forced_of_isEager : (type : Ty) → type.isEager = true → env.forced type = .ok type
  | .deferred _ _ _, eager => by simp [Ty.isEager] at eager
  | .reference item name args, eager => by
      rw [forced, forcedAll_of_allEager args eager]
      rfl
  | .array component, eager => by
      rw [forced, forced_of_isEager component eager]
      rfl
  | .upperBounded bound, eager => by
      rw [forced, forced_of_isEager bound eager]
      rfl
  | .lowerBounded bound, eager => by
      rw [forced, forced_of_isEager bound eager]
      rfl
  | .primitive _, _ => rfl
  | .void, _ => rfl
  | .null, _ => rfl
  | .typeVar _, _ => rfl
  | .wildcard, _ => rfl

theorem forcedAll_of_allEager : (types : List Ty) → Ty.allEager types = true →
    env.forcedAll types = .ok types
  | [], _ => rfl
  | type :: rest, eager => by
      rw [Ty.allEager, Bool.and_eq_true] at eager
      rw [forcedAll, forced_of_isEager type eager.1, forcedAll_of_allEager rest eager.2]
      rfl

end

mutual

/-- Forcing a type without deferred parts does nothing. -/
theorem force_of_isEager : (type : Ty) → type.isEager = true → env.force type = pure type
  | .deferred _ _ _, eager => by simp [Ty.isEager] at eager
  | .reference item name args, eager => by
      rw [force, forceAll_of_allEager args eager]
      rfl
  | .array component, eager => by
      rw [force, force_of_isEager component eager]
      rfl
  | .upperBounded bound, eager => by
      rw [force, force_of_isEager bound eager]
      rfl
  | .lowerBounded bound, eager => by
      rw [force, force_of_isEager bound eager]
      rfl
  | .primitive _, _ => by rw [force]
  | .void, _ => by rw [force]
  | .null, _ => by rw [force]
  | .typeVar _, _ => by rw [force]
  | .wildcard, _ => by rw [force]

theorem forceAll_of_allEager : (types : List Ty) → Ty.allEager types = true →
    env.forceAll types = pure types
  | [], _ => by rw [forceAll]
  | type :: rest, eager => by
      rw [Ty.allEager, Bool.and_eq_true] at eager
      rw [forceAll, force_of_isEager type eager.1, forceAll_of_allEager rest eager.2]
      rfl

end

mutual

/-- A forced type has no deferred parts. -/
theorem isEager_of_forced (wellFormed : env.tree.WellFormed) {cells : Cells}
    (sound : cells.Sound env) : (type : Ty) → type.Fits cells → ∀ value,
      env.forced type = .ok value → value.isEager = true
  | .deferred _ _ _, fits, _, done =>
      isEager_of_convert wellFormed (sound.site_lt fits) done
  | .reference _ _ args, fits, value, done => by
      obtain ⟨values, forcedArgs, same⟩ := Except.bind_eq_ok done
      cases same
      exact allEager_of_forcedAll wellFormed sound args fits values forcedArgs
  | .array component, fits, value, done => by
      obtain ⟨inner, forcedInner, same⟩ := Except.bind_eq_ok done
      cases same
      exact isEager_of_forced wellFormed sound component fits inner forcedInner
  | .upperBounded bound, fits, value, done => by
      obtain ⟨inner, forcedInner, same⟩ := Except.bind_eq_ok done
      cases same
      exact isEager_of_forced wellFormed sound bound fits inner forcedInner
  | .lowerBounded bound, fits, value, done => by
      obtain ⟨inner, forcedInner, same⟩ := Except.bind_eq_ok done
      cases same
      exact isEager_of_forced wellFormed sound bound fits inner forcedInner
  | .primitive _, _, _, done => by cases done; rfl
  | .void, _, _, done => by cases done; rfl
  | .null, _, _, done => by cases done; rfl
  | .typeVar _, _, _, done => by cases done; rfl
  | .wildcard, _, _, done => by cases done; rfl

theorem allEager_of_forcedAll (wellFormed : env.tree.WellFormed) {cells : Cells}
    (sound : cells.Sound env) : (types : List Ty) → Ty.AllFit cells types → ∀ values,
      env.forcedAll types = .ok values → Ty.allEager values = true
  | [], _, _, done => by cases done; rfl
  | type :: rest, fit, values, done => by
      obtain ⟨value, forcedHead, onward⟩ := Except.bind_eq_ok done
      obtain ⟨others, forcedRest, same⟩ := Except.bind_eq_ok onward
      cases same
      rw [Ty.allEager, isEager_of_forced wellFormed sound type fit.1 value forcedHead,
        allEager_of_forcedAll wellFormed sound rest fit.2 others forcedRest, Bool.true_and]

end

/-- Every initial part of a type list that converts has its cells set. -/
def PrefixSettled (env : Environment) (cells : Cells) (types : List Ty) : Prop :=
  ∀ before rest values, types = before ++ rest → env.forcedAll before = .ok values →
    Ty.settleAll cells before = values

theorem PrefixSettled.mono (wellFormed : env.tree.WellFormed) {old new : Cells} {types : List Ty}
    (settled : PrefixSettled env old types) (sound : old.Sound env) (fit : Ty.AllFit old types)
    (later : old.Extends new) : PrefixSettled env new types := by
  intro before rest values same done
  have fitBefore : Ty.AllFit old before := by
    refine Ty.allFit_iff.mpr ?_
    intro type member
    exact Ty.allFit_iff.mp fit type (same ▸ List.mem_append_left rest member)
  have settledBefore := settled before rest values same done
  have eager := allEager_of_forcedAll wellFormed sound before fitBefore values done
  rw [Ty.settleAll_of_extends later before (settledBefore ▸ eager), settledBefore]

theorem prefixSettled_nil (cells : Cells) : PrefixSettled env cells [] := by
  intro before rest values same done
  obtain rfl := (List.append_eq_nil_iff.mp same.symm).1
  cases done
  rfl

/-- A first type that does not convert has no initial part after it. -/
theorem prefixSettled_of_fault {cells : Cells} {type : Ty} {rest : List Ty} {fault : Fault}
    (failed : env.forced type = .error fault) : PrefixSettled env cells (type :: rest) := by
  intro before later values same done
  cases before with
  | nil =>
      cases done
      rfl
  | cons first before =>
      obtain ⟨rfl, _⟩ := List.cons.inj same
      rw [forcedAll, failed] at done
      cases done

theorem PrefixSettled.cons {cells : Cells} {type value : Ty} {rest : List Ty}
    (converts : env.forced type = .ok value) (settled : type.settle cells = value)
    (tail : PrefixSettled env cells rest) : PrefixSettled env cells (type :: rest) := by
  intro before later values same done
  cases before with
  | nil =>
      cases done
      rfl
  | cons first before =>
      obtain ⟨rfl, sameRest⟩ := List.cons.inj same
      obtain ⟨head, forcedHead, onward⟩ := Except.bind_eq_ok done
      obtain ⟨others, forcedRest, same⟩ := Except.bind_eq_ok onward
      cases same
      rw [converts] at forcedHead
      cases forcedHead
      rw [Ty.settleAll, settled, tail before later others sameRest forcedRest]

/-- Forcing the only part of a type. -/
theorem runs_forceInside {session : Session} {type : Ty} {wrap : Ty → Ty}
    (commutes : ∀ cells, (wrap type).settle cells = wrap (type.settle cells))
    (inner : Query.Runs (Sound env) Defers session (env.force type) fun after outcome =>
      outcome = env.forced type ∧ ∀ value, outcome = .ok value → type.settle after.cells = value) :
    Query.Runs (Sound env) Defers session (do
        let part ← env.force type
        pure (wrap part)) fun after outcome =>
      (outcome = do
        let part ← env.forced type
        pure (wrap part)) ∧
        ∀ value, outcome = .ok value → (wrap type).settle after.cells = value := by
  refine inner.bind ?_ ?_
  · rintro after cause _ ⟨failed, _⟩
    exact ⟨by rw [← failed]; rfl, by simp⟩
  · rintro after value soundAfter _ ⟨same, settled⟩
    refine Query.runs_pure soundAfter ⟨by rw [← same]; rfl, ?_⟩
    intro other isOther
    cases isOther
    rw [commutes, settled value rfl]

mutual

/-- Forcing gives what the conversion of the deferred parts gives, and leaves
their cells set. -/
theorem runs_force (wellFormed : env.tree.WellFormed) {session : Session}
    (sound : session.Sound env) : (type : Ty) → type.Fits session.cells →
      Query.Runs (Sound env) Defers session (env.force type) fun after outcome =>
        outcome = env.forced type ∧ ∀ value, outcome = .ok value → type.settle after.cells = value
  | .deferred cell source site, fits => by
      rw [force, forced]
      refine (runs_forceCell sound fits).mono ?_
      rintro after outcome _ _ ⟨same, isSet⟩
      refine ⟨same, ?_⟩
      intro value isValue
      rw [Ty.settle, isSet value isValue, Option.getD_some]
  | .reference item name args, fits => by
      rw [force, forced]
      refine (runs_forceAll wellFormed sound args fits).bind ?_ ?_
      · rintro after cause _ ⟨failed, _⟩
        exact ⟨by rw [← failed]; rfl, by simp⟩
      · rintro after values soundAfter _ ⟨same, settled⟩
        refine Query.runs_pure soundAfter ⟨by rw [← same]; rfl, ?_⟩
        intro value isValue
        cases isValue
        rw [Ty.settle, settled args [] values (List.append_nil args).symm same.symm]
  | .array component, fits => by
      rw [force, forced]
      exact runs_forceInside (fun _ => rfl) (runs_force wellFormed sound component fits)
  | .upperBounded bound, fits => by
      rw [force, forced]
      exact runs_forceInside (fun _ => rfl) (runs_force wellFormed sound bound fits)
  | .lowerBounded bound, fits => by
      rw [force, forced]
      exact runs_forceInside (fun _ => rfl) (runs_force wellFormed sound bound fits)
  | .primitive _, _ => Query.runs_pure sound ⟨rfl, fun _ same => Except.ok.inj same⟩
  | .void, _ => Query.runs_pure sound ⟨rfl, fun _ same => Except.ok.inj same⟩
  | .null, _ => Query.runs_pure sound ⟨rfl, fun _ same => Except.ok.inj same⟩
  | .typeVar _, _ => Query.runs_pure sound ⟨rfl, fun _ same => Except.ok.inj same⟩
  | .wildcard, _ => Query.runs_pure sound ⟨rfl, fun _ same => Except.ok.inj same⟩

theorem runs_forceAll (wellFormed : env.tree.WellFormed) {session : Session}
    (sound : session.Sound env) : (types : List Ty) → Ty.AllFit session.cells types →
      Query.Runs (Sound env) Defers session (env.forceAll types) fun after outcome =>
        outcome = env.forcedAll types ∧ PrefixSettled env after.cells types
  | [], _ => by
      rw [forceAll]
      exact Query.runs_pure sound ⟨rfl, prefixSettled_nil _⟩
  | type :: rest, fit => by
      rw [forceAll, forcedAll]
      refine (runs_force wellFormed sound type fit.1).bind ?_ ?_
      · rintro after cause _ ⟨failed, _⟩
        exact ⟨by rw [← failed]; rfl, prefixSettled_of_fault failed.symm⟩
      · rintro after value soundAfter onward ⟨converts, settled⟩
        have eager := isEager_of_forced wellFormed sound.cells type fit.1 value converts.symm
        have stays : ∀ last, after.Defers last → type.settle last.cells = value := by
          intro last later
          rw [← settled value rfl]
          exact Ty.settle_of_extends later.cells type (settled value rfl ▸ eager)
        rw [← converts]
        have fitRest := Ty.AllFit.mono onward.cells rest fit.2
        refine (runs_forceAll wellFormed soundAfter rest fitRest).bind ?_ ?_
        · rintro last cause later ⟨failed, prefixes⟩
          refine ⟨by rw [← failed]; rfl, prefixes.cons converts.symm (stays last later)⟩
        · rintro last values soundLast later ⟨same, prefixes⟩
          exact Query.runs_pure soundLast
            ⟨by rw [← same]; rfl, prefixes.cons converts.symm (stays last later)⟩

end

end Environment

end JavaSymbols

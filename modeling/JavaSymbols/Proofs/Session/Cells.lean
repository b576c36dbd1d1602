import JavaSymbols.Proofs.Resolution.Supertypes
import JavaSymbols.Ty.View

/-!
# Cells over time

Cells are only ever added, and a cell that is set keeps its type.  A type fits
the cells when each of its deferred parts names a cell that waits for just that
part.  Cells are sound when what they hold is the conversion of what they wait
for.
-/

namespace JavaSymbols

namespace Cells

variable {cells old new : Cells}

/-- A cell waits, or has waited, for the conversion of a written type at a
site. -/
def Holds (cells : Cells) (cell : Nat) (source : TypeExpr) (site : ItemId) : Prop :=
  ∃ value, cells.all[cell]? = some ⟨source, site, value⟩

/-- What a cell waits for can be read off it. -/
theorem holds_iff {cell : Nat} {source : TypeExpr} {site : ItemId} :
    cells.Holds cell source site ↔
      (cells.all[cell]?.map fun content => (content.source, content.site)) =
        some (source, site) := by
  simp only [Holds, Option.map_eq_some_iff, Prod.mk.injEq]
  constructor
  · rintro ⟨value, stored⟩
    exact ⟨_, stored, rfl, rfl⟩
  · rintro ⟨content, stored, rfl, rfl⟩
    exact ⟨content.value, stored⟩

instance (cell : Nat) (source : TypeExpr) (site : ItemId) :
    Decidable (cells.Holds cell source site) :=
  decidable_of_iff _ holds_iff.symm

/-- Later cells: all that there were, with what they waited for and what they
held. -/
structure Extends (old new : Cells) : Prop where
  holds : ∀ cell source site, old.Holds cell source site → new.Holds cell source site
  get? : ∀ cell type, old.get? cell = some type → new.get? cell = some type

theorem Extends.refl (cells : Cells) : cells.Extends cells where
  holds _ _ _ held := held
  get? _ _ set := set

theorem Extends.trans {first middle last : Cells} (early : first.Extends middle)
    (late : middle.Extends last) : first.Extends last where
  holds cell source site held := late.holds cell source site (early.holds cell source site held)
  get? cell type set := late.get? cell type (early.get? cell type set)

/-- A new cell leaves all others as they were. -/
theorem extends_grow (source : TypeExpr) (site : ItemId) :
    cells.Extends (cells.grow source site) where
  holds cell source' site' := by
    rintro ⟨value, stored⟩
    refine ⟨value, ?_⟩
    obtain ⟨inside, _⟩ := Array.getElem?_eq_some_iff.mp stored
    simpa [grow, Array.getElem?_push, Nat.ne_of_lt inside] using stored
  get? cell type set := by simpa using set

theorem holds_grow (source : TypeExpr) (site : ItemId) :
    (cells.grow source site).Holds cells.size source site :=
  ⟨none, by simp [grow, size]⟩

/-- Setting a cell that is not set yet changes no type that cells hold. -/
theorem extends_set {cell : Nat} {type : Ty} (unset : cells.get? cell = none) :
    cells.Extends (cells.set cell type) where
  holds other source site := by
    rintro ⟨value, stored⟩
    by_cases same : cell = other
    · subst same
      exact ⟨some type, by simp [set, Array.getElem?_modify, stored]⟩
    · exact ⟨value, by simp [set, Array.getElem?_modify, same, stored]⟩
  get? other held stored := by
    rw [get?_set]
    split
    · next both =>
        rw [both.1, unset] at stored
        cases stored
    · exact stored

/-- Every cell belongs to an item of the tree, and what it holds is the
conversion of what it waits for. -/
def Sound (env : Environment) (cells : Cells) : Prop :=
  ∀ (cell : Nat) (content : Cell), cells.all[cell]? = some content → content.site < env.tree.size ∧
    ∀ type, content.value = some type →
      (env.convert content.site content.source).outcome = .ok type

variable {env : Environment}

theorem sound_empty : Cells.empty.Sound env := by
  intro cell content stored
  simp [empty] at stored

theorem Sound.grow (sound : cells.Sound env) {source : TypeExpr} {site : ItemId}
    (inside : site < env.tree.size) : (cells.grow source site).Sound env := by
  intro cell content stored
  simp only [Cells.grow, Array.getElem?_push] at stored
  split at stored
  · cases stored
    exact ⟨inside, by simp⟩
  · exact sound cell content stored

theorem Sound.set (sound : cells.Sound env) {cell : Nat} {source : TypeExpr} {site : ItemId}
    {type : Ty} (held : cells.Holds cell source site)
    (converts : (env.convert site source).outcome = .ok type) :
    (cells.set cell type).Sound env := by
  obtain ⟨value, stored⟩ := held
  intro other content storedOther
  by_cases same : cell = other
  · subst same
    simp only [Cells.set, Array.getElem?_modify, if_true, stored, Option.map_some,
      Option.some.injEq] at storedOther
    subst storedOther
    refine ⟨(sound cell _ stored).1, ?_⟩
    intro held same
    cases same
    exact converts
  · simp only [Cells.set, Array.getElem?_modify, if_neg same] at storedOther
    exact sound other content storedOther

theorem Sound.site_lt (sound : cells.Sound env) {cell : Nat} {source : TypeExpr} {site : ItemId}
    (held : cells.Holds cell source site) : site < env.tree.size := by
  obtain ⟨value, stored⟩ := held
  exact (sound cell _ stored).1

/-- What a cell holds is the conversion of what it waited for. -/
theorem Sound.converts (sound : cells.Sound env) {cell : Nat} {source : TypeExpr} {site : ItemId}
    {type : Ty} (held : cells.Holds cell source site) (set : cells.get? cell = some type) :
    (env.convert site source).outcome = .ok type := by
  obtain ⟨value, stored⟩ := held
  simp only [get?, stored, Option.bind_some] at set
  exact (sound cell _ stored).2 type set

/-- A set cell exists, so it waited for something. -/
theorem holds_of_get? {cell : Nat} {type : Ty} (set : cells.get? cell = some type) :
    ∃ source site, cells.Holds cell source site := by
  obtain ⟨content, stored, _⟩ := Option.bind_eq_some_iff.mp set
  exact ⟨content.source, content.site, content.value, stored⟩

end Cells

namespace Ty

/-! ## Types that fit the cells -/

mutual

/-- Every deferred part of a type names a cell that waits for it. -/
def Fits (cells : Cells) : Ty → Prop
  | reference _ _ args => AllFit cells args
  | array component => component.Fits cells
  | upperBounded bound => bound.Fits cells
  | lowerBounded bound => bound.Fits cells
  | deferred cell source site => cells.Holds cell source site
  | primitive _ => True
  | void => True
  | null => True
  | typeVar _ => True
  | wildcard => True

/-- Every type of a list fits the cells. -/
def AllFit (cells : Cells) : List Ty → Prop
  | [] => True
  | type :: rest => type.Fits cells ∧ AllFit cells rest

end

variable {cells old new : Cells}

theorem allFit_iff {types : List Ty} : AllFit cells types ↔ ∀ type ∈ types, type.Fits cells := by
  induction types with
  | nil => simp [AllFit]
  | cons type rest ih => simp [AllFit, ih]

mutual

theorem Fits.mono (later : old.Extends new) : (type : Ty) → type.Fits old → type.Fits new
  | reference _ _ args, fits => AllFit.mono later args fits
  | array component, fits => Fits.mono later component fits
  | upperBounded bound, fits => Fits.mono later bound fits
  | lowerBounded bound, fits => Fits.mono later bound fits
  | deferred cell source site, fits => later.holds cell source site fits
  | primitive _, _ => trivial
  | void, _ => trivial
  | null, _ => trivial
  | typeVar _, _ => trivial
  | wildcard, _ => trivial

theorem AllFit.mono (later : old.Extends new) :
    (types : List Ty) → AllFit old types → AllFit new types
  | [], _ => trivial
  | type :: rest, fit => ⟨Fits.mono later type fit.1, AllFit.mono later rest fit.2⟩

end

mutual

/-- Types without deferred parts fit any cells. -/
theorem fits_of_isEager (cells : Cells) : (type : Ty) → type.isEager = true → type.Fits cells
  | reference _ _ args, eager => allFit_of_allEager cells args eager
  | array component, eager => fits_of_isEager cells component eager
  | upperBounded bound, eager => fits_of_isEager cells bound eager
  | lowerBounded bound, eager => fits_of_isEager cells bound eager
  | deferred _ _ _, eager => by simp [isEager] at eager
  | primitive _, _ => trivial
  | void, _ => trivial
  | null, _ => trivial
  | typeVar _, _ => trivial
  | wildcard, _ => trivial

theorem allFit_of_allEager (cells : Cells) :
    (types : List Ty) → allEager types = true → AllFit cells types
  | [], _ => trivial
  | type :: rest, eager => by
      rw [allEager, Bool.and_eq_true] at eager
      exact ⟨fits_of_isEager cells type eager.1, allFit_of_allEager cells rest eager.2⟩

end

mutual

/-- Looking through set cells leaves a type that fits, when they hold such
types. -/
theorem Fits.settle (stored : ∀ cell type, cells.get? cell = some type → type.Fits cells) :
    (type : Ty) → type.Fits cells → (type.settle cells).Fits cells
  | reference _ _ args, fits => AllFit.settle stored args fits
  | array component, fits => Fits.settle stored component fits
  | upperBounded bound, fits => Fits.settle stored bound fits
  | lowerBounded bound, fits => Fits.settle stored bound fits
  | deferred cell source site, fits => by
      rw [Ty.settle]
      cases set : cells.get? cell with
      | none => exact fits
      | some type => exact stored cell type set
  | primitive _, _ => trivial
  | void, _ => trivial
  | null, _ => trivial
  | typeVar _, _ => trivial
  | wildcard, _ => trivial

theorem AllFit.settle (stored : ∀ cell type, cells.get? cell = some type → type.Fits cells) :
    (types : List Ty) → AllFit cells types → AllFit cells (settleAll cells types)
  | [], _ => trivial
  | type :: rest, fit => ⟨Fits.settle stored type fit.1, AllFit.settle stored rest fit.2⟩

end

mutual

/-- Replacing variables by types that fit leaves a type that fits. -/
theorem Fits.substitute {bind : TypeVar → Option Ty}
    (bound : ∀ var type, bind var = some type → type.Fits cells) :
    (type : Ty) → type.Fits cells → (type.substitute bind).Fits cells
  | reference _ _ args, fits => AllFit.substitute bound args fits
  | array component, fits => Fits.substitute bound component fits
  | upperBounded limit, fits => Fits.substitute bound limit fits
  | lowerBounded limit, fits => Fits.substitute bound limit fits
  | deferred _ _ _, fits => fits
  | primitive _, _ => trivial
  | void, _ => trivial
  | null, _ => trivial
  | typeVar var, _ => by
      rw [Ty.substitute]
      cases replaced : bind var with
      | none => exact trivial
      | some type => exact bound var type replaced
  | wildcard, _ => trivial

theorem AllFit.substitute {bind : TypeVar → Option Ty}
    (bound : ∀ var type, bind var = some type → type.Fits cells) :
    (types : List Ty) → AllFit cells types → AllFit cells (substituteAll bind types)
  | [], _ => trivial
  | type :: rest, fit => ⟨Fits.substitute bound type fit.1, AllFit.substitute bound rest fit.2⟩

end

mutual

/-- A type in which all deferred parts are set reads the same ever after. -/
theorem settle_of_extends (later : old.Extends new) : (type : Ty) →
    (type.settle old).isEager = true → type.settle new = type.settle old
  | reference item name args, eager => by
      rw [Ty.settle, Ty.settle, settleAll_of_extends later args eager]
  | array component, eager => by
      rw [Ty.settle, Ty.settle, settle_of_extends later component eager]
  | upperBounded bound, eager => by
      rw [Ty.settle, Ty.settle, settle_of_extends later bound eager]
  | lowerBounded bound, eager => by
      rw [Ty.settle, Ty.settle, settle_of_extends later bound eager]
  | deferred cell source site, eager => by
      rw [Ty.settle] at eager ⊢
      cases set : old.get? cell with
      | none => simp [set, isEager] at eager
      | some type => rw [later.get? cell type set, Ty.settle, set]
  | primitive _, _ => rfl
  | void, _ => rfl
  | null, _ => rfl
  | typeVar _, _ => rfl
  | wildcard, _ => rfl

theorem settleAll_of_extends (later : old.Extends new) : (types : List Ty) →
    allEager (settleAll old types) = true → settleAll new types = settleAll old types
  | [], _ => rfl
  | type :: rest, eager => by
      rw [settleAll, allEager, Bool.and_eq_true] at eager
      rw [settleAll, settleAll, settle_of_extends later type eager.1,
        settleAll_of_extends later rest eager.2]

end

end Ty

/-- A reference fits the cells when its arguments do. -/
def Reference.Fits (cells : Cells) (reference : Reference) : Prop :=
  Ty.AllFit cells reference.args

theorem Reference.Fits.mono {old new : Cells} {reference : Reference}
    (fits : reference.Fits old) (later : old.Extends new) : reference.Fits new :=
  Ty.AllFit.mono later reference.args fits

/-- The conversion of a written type in the tree has no deferred parts. -/
theorem Environment.isEager_of_convert {env : Environment} (wellFormed : env.tree.WellFormed)
    {site : ItemId} (inside : site < env.tree.size) {source : TypeExpr} {type : Ty}
    (converts : (env.convert site source).outcome = .ok type) : type.isEager = true :=
  ((soft_convertAt wellFormed inside source).good type converts).1

namespace Cells.Sound

variable {env : Environment} {cells : Cells}

/-- Sound cells hold types without deferred parts. -/
theorem isEager (wellFormed : env.tree.WellFormed) (sound : cells.Sound env) {cell : Nat}
    {type : Ty} (set : cells.get? cell = some type) : type.isEager = true := by
  obtain ⟨source, site, held⟩ := Cells.holds_of_get? set
  exact Environment.isEager_of_convert wellFormed (sound.site_lt held) (sound.converts held set)

theorem fits_apply (wellFormed : env.tree.WellFormed) (sound : cells.Sound env)
    {view : Reference} (viewFits : view.Fits cells) {type : Ty} (fits : type.Fits cells) :
    (view.apply cells type).Fits cells := by
  unfold Reference.apply
  split
  · exact fits
  · refine Ty.Fits.substitute ?_ _ (Ty.Fits.settle ?_ type fits)
    · intro var argument bound
      unfold Reference.binding at bound
      split at bound
      · exact Ty.allFit_iff.mp viewFits argument (List.mem_of_getElem? bound)
      · cases bound
    · intro cell held set
      exact Ty.fits_of_isEager cells held (sound.isEager wellFormed set)

theorem fits_seenThrough (wellFormed : env.tree.WellFormed) (sound : cells.Sound env)
    {view : Option Reference} (viewFits : ∀ reference, view = some reference → reference.Fits cells)
    {type : Ty} (fits : type.Fits cells) : (type.seenThrough view cells).Fits cells := by
  cases view with
  | none => exact fits
  | some view => exact sound.fits_apply wellFormed (viewFits view rfl) fits

theorem fits_reference_seenThrough (wellFormed : env.tree.WellFormed) (sound : cells.Sound env)
    {view : Option Reference} (viewFits : ∀ reference, view = some reference → reference.Fits cells)
    {reference : Reference} (fits : reference.Fits cells) :
    (reference.seenThrough view cells).Fits cells := by
  cases view with
  | none => exact fits
  | some view =>
      refine Ty.allFit_iff.mpr ?_
      intro type member
      obtain ⟨argument, listed, rfl⟩ := List.mem_map.mp member
      exact sound.fits_apply wellFormed (viewFits view rfl) (Ty.allFit_iff.mp fits argument listed)

end Cells.Sound

end JavaSymbols
